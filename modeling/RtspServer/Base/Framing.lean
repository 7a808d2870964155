import Mathlib.Data.List.Basic

/-!
# Messages in a stream

A stream of messages that delimit themselves is split into exactly these messages.
A message here is a head of lines, a blank line, and a body whose length the head
announces.
-/

namespace Framing

/-! ### Self-delimiting frames -/

section

variable {α β : Type} (read : List α → Option (β × List α))

/-- The messages in a stream that `read` takes one message off. -/
def readAll : Nat → List α → Option (List β)
  | _, [] => some []
  | 0, _ :: _ => none
  | n + 1, c :: text => do
    let (m, rest) ← read (c :: text)
    return m :: (← readAll n rest)

def split (stream : List α) : Option (List β) := readAll read stream.length stream

/-- `read` takes `frame` for `m`, whatever follows it. -/
structure Delimits (frame : List α) (m : β) : Prop where
  nonempty : frame ≠ []
  reads : ∀ rest, read (frame ++ rest) = some (m, rest)

variable {read} {frame : List α} {m : β}

theorem readAll_cons (delimits : Delimits read frame m) (n : Nat) (rest : List α) :
    readAll read (n + 1) (frame ++ rest) = (readAll read n rest).map (m :: ·) := by
  obtain ⟨c, front, rfl⟩ := List.exists_cons_of_ne_nil delimits.nonempty
  have taken := delimits.reads rest
  rw [List.cons_append] at taken ⊢
  rw [readAll, taken]
  simp only [Option.bind_eq_bind, Option.bind_some]
  cases readAll read n rest <;> rfl

theorem readAll_frames {ι : Type} {text : ι → List α} {value : ι → β} {xs : List ι}
    (delimits : ∀ x ∈ xs, Delimits read (text x) (value x)) {n : Nat} (enough : xs.length ≤ n) :
    readAll read n (xs.flatMap text) = some (xs.map value) := by
  induction xs generalizing n with
  | nil => cases n <;> rfl
  | cons x xs ih =>
    obtain ⟨k, rfl⟩ := Nat.exists_eq_add_of_le' (Nat.le_trans (Nat.succ_le_succ (Nat.zero_le _)) enough)
    rw [List.flatMap_cons, readAll_cons (delimits x List.mem_cons_self),
      ih (fun y member => delimits y (List.mem_cons_of_mem x member)) (Nat.le_of_succ_le_succ enough)]
    rfl

/-- A stream of frames is split into what the frames stand for. -/
theorem split_frames {ι : Type} {text : ι → List α} {value : ι → β} {xs : List ι}
    (delimits : ∀ x ∈ xs, Delimits read (text x) (value x)) : split read (xs.flatMap text) = some (xs.map value) := by
  apply readAll_frames delimits
  induction xs with
  | nil => exact Nat.zero_le _
  | cons x xs ih =>
    have one := List.length_pos_iff.mpr (delimits x List.mem_cons_self).nonempty
    have more := ih fun y member => delimits y (List.mem_cons_of_mem x member)
    rw [List.flatMap_cons, List.length_append, List.length_cons]
    omega

end

/-! ### Two kinds of frames -/

section

variable {α β γ : Type} (kind : α → Bool) (read : List α → Option (β × List α)) (read' : List α → Option (γ × List α))

/-- A stream of two kinds of frames, told apart by their first element. -/
def readEither : List α → Option ((β ⊕ γ) × List α)
  | [] => none
  | c :: text =>
    if kind c then (read (c :: text)).map fun r => (.inl r.1, r.2)
    else (read' (c :: text)).map fun r => (.inr r.1, r.2)

variable {kind read read'} {frame : List α}

theorem Delimits.inl {m : β} (delimits : Delimits read frame m) (first : ∀ c ∈ frame.head?, kind c = true) :
    Delimits (readEither kind read read') frame (.inl m) where
  nonempty := delimits.nonempty
  reads rest := by
    obtain ⟨c, front, rfl⟩ := List.exists_cons_of_ne_nil delimits.nonempty
    have taken := delimits.reads rest
    rw [List.cons_append] at taken ⊢
    rw [readEither, if_pos (first c rfl), taken]
    rfl

theorem Delimits.inr {m : γ} (delimits : Delimits read' frame m) (first : ∀ c ∈ frame.head?, kind c = false) :
    Delimits (readEither kind read read') frame (.inr m) where
  nonempty := delimits.nonempty
  reads rest := by
    obtain ⟨c, front, rfl⟩ := List.exists_cons_of_ne_nil delimits.nonempty
    have taken := delimits.reads rest
    rw [List.cons_append] at taken ⊢
    rw [readEither, first c rfl, if_neg Bool.false_ne_true, taken]
    rfl

end

/-! ### Lines -/

section

variable {α : Type} (cr lf : α)

def lines (ls : List (List α)) : List α := ls.flatMap (· ++ [cr, lf])

variable {cr lf} in
theorem lines_cons (l : List α) (ls : List (List α)) (rest : List α) :
    lines cr lf (l :: ls) ++ rest = l ++ cr :: lf :: (lines cr lf ls ++ rest) := by
  simp [lines]

variable {cr lf} in
theorem lines_length_ge (ls : List (List α)) : ls.length ≤ (lines cr lf ls).length := by
  induction ls with
  | nil => exact Nat.zero_le _
  | cons l ls ih =>
    have split := @lines_cons α cr lf l ls []
    rw [List.append_nil, List.append_nil] at split
    rw [split, List.length_append, List.length_cons, List.length_cons, List.length_cons]
    omega

variable [DecidableEq α]

/-- The text up to the first line end, and what follows it. -/
def readLine : List α → Option (List α × List α)
  | [] => none
  | c :: rest =>
    if c = cr ∧ rest.head? = some lf then some ([], rest.tail)
    else (readLine rest).map fun r => (c :: r.1, r.2)

/-- The lines up to the first blank line, at most `n` with it, and what follows them. -/
def readHead : Nat → List α → Option (List (List α) × List α)
  | 0, _ => none
  | n + 1, text => do
    let (l, rest) ← readLine cr lf text
    if l = [] then return ([], rest)
    else
      let (lines, rest) ← readHead n rest
      return (l :: lines, rest)

variable {cr lf} {l : List α} {ls : List (List α)}

theorem readLine_line (plain : cr ∉ l) (rest : List α) : readLine cr lf (l ++ cr :: lf :: rest) = some (l, rest) := by
  induction l with
  | nil => rw [List.nil_append, readLine, if_pos ⟨rfl, rfl⟩, List.tail_cons]
  | cons c l ih =>
    have other : c ≠ cr := fun same => plain (same ▸ List.mem_cons_self)
    rw [List.cons_append, readLine, if_neg fun both => other both.1, ih fun member => plain (List.mem_cons_of_mem c member)]
    rfl

theorem readHead_cons (plain : cr ∉ l) (nonempty : l ≠ []) (n : Nat) (rest : List α) :
    readHead cr lf (n + 1) (l ++ cr :: lf :: rest) = (readHead cr lf n rest).map fun r => (l :: r.1, r.2) := by
  rw [readHead, readLine_line plain]
  show (if l = [] then _ else _) = _
  rw [if_neg nonempty]
  cases readHead cr lf n rest <;> rfl

theorem readHead_lines (plain : ∀ l ∈ ls, cr ∉ l) (nonempty : ∀ l ∈ ls, l ≠ []) {n : Nat} (enough : ls.length < n)
    (rest : List α) : readHead cr lf n (lines cr lf ls ++ cr :: lf :: rest) = some (ls, rest) := by
  induction ls generalizing n with
  | nil =>
    obtain ⟨k, rfl⟩ := Nat.exists_eq_succ_of_ne_zero (Nat.ne_of_gt enough)
    have blank : readLine cr lf (lines cr lf [] ++ cr :: lf :: rest) = some ([], rest) := readLine_line List.not_mem_nil rest
    rw [readHead, blank]
    rfl
  | cons l ls ih =>
    obtain ⟨k, rfl⟩ := Nat.exists_eq_add_of_le' (Nat.succ_le_of_lt (Nat.lt_of_le_of_lt (Nat.zero_le _) enough))
    rw [lines_cons, readHead_cons (plain l List.mem_cons_self) (nonempty l List.mem_cons_self),
      ih (fun k member => plain k (List.mem_cons_of_mem l member)) (fun k member => nonempty k (List.mem_cons_of_mem l member))
        (Nat.lt_of_succ_lt_succ enough)]
    rfl

end

/-! ### Messages with a body -/

structure Message (α : Type) where
  head : List (List α)
  body : List α
  deriving DecidableEq

section

variable {α : Type} [DecidableEq α] (cr lf : α) (announced : List (List α) → Nat)

def Message.text (m : Message α) : List α := lines cr lf m.head ++ cr :: lf :: m.body

/-- The message at the front of a stream: a head, and as much as it announces. -/
def readMessage (stream : List α) : Option (Message α × List α) := do
  let (head, rest) ← readHead cr lf (stream.length + 1) stream
  if rest.length < announced head then none
  else return (⟨head, rest.take (announced head)⟩, rest.drop (announced head))

/-- The lines of the head hold no line end and are not blank, and the body is as long as announced. -/
structure Message.Closed (m : Message α) : Prop where
  plain : ∀ l ∈ m.head, cr ∉ l
  nonempty : ∀ l ∈ m.head, l ≠ []
  length : m.body.length = announced m.head

variable {cr lf announced} {m : Message α}

theorem Message.Closed.delimits (closed : m.Closed cr announced) :
    Delimits (readMessage cr lf announced) (m.text cr lf) m where
  nonempty := List.append_ne_nil_of_right_ne_nil _ (List.cons_ne_nil _ _)
  reads rest := by
    have stream : m.text cr lf ++ rest = lines cr lf m.head ++ cr :: lf :: (m.body ++ rest) := by
      rw [Message.text, List.append_assoc]
      rfl
    have enough : m.head.length < (m.text cr lf ++ rest).length + 1 := by
      have few := @lines_length_ge α cr lf m.head
      rw [stream, List.length_append]
      omega
    have head : readHead cr lf ((m.text cr lf ++ rest).length + 1) (m.text cr lf ++ rest) =
        some (m.head, m.body ++ rest) := by
      rw [stream] at enough ⊢
      exact readHead_lines closed.plain closed.nonempty enough _
    unfold readMessage
    rw [head]
    show (if (m.body ++ rest).length < announced m.head then none else _) = _
    have whole : ¬ (m.body ++ rest).length < announced m.head := by
      rw [← closed.length, List.length_append]
      omega
    rw [if_neg whole, ← closed.length, List.take_left, List.drop_left]
    rfl

end

end Framing
