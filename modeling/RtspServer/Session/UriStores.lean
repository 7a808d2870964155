import RtspServer.Session.Connection

/-!
# The stores of the URI parts

The stores of `ParseRtspRequest` into the arrays of the URI parts, with their
indices. The parser goes on after a store outside its array: it never reads them.
-/

namespace RtspServer

inductive PartArray where
  | m_CommandHostPort
  | m_CommandPresentationPart
  | m_CommandStreamPart
  deriving DecidableEq, Repr

def PartArray.size : PartArray → Nat
  | m_CommandHostPort => MAX_HOSTNAME_LEN
  | m_CommandPresentationPart | m_CommandStreamPart => RTSP_PARAM_STRING_MAX

/-- `array[dst_pos] = char;` -/
structure Store where
  array : PartArray
  dst_pos : Nat
  char : UInt8
  deriving DecidableEq, Repr

def Store.Inside (x : Store) : Prop := x.dst_pos < x.array.size

instance (x : Store) : Decidable x.Inside := inferInstanceAs (Decidable (_ < _))

/-- The stores made and the cursor; no cursor after `return false`. -/
abbrev Stores := Run (List Store × Option Bytes)

def Stores.next (r : Stores) (f : Bytes → Stores) : Stores := do
  match ← r with
  | (w, none) => return (w, none)
  | (w, some cur) => do
    let (w', cur) ← f cur
    return (w ++ w', cur)

/-- The copy loop of a part, from `dst_pos` on; the result has the last `dst_pos`. -/
def copyLoop (array : PartArray) : Nat → Bytes → Run (List Store × Nat × Option Bytes)
  | _, [] => .error .outOfBounds
  | dst_pos, c :: rest =>
    if isPart c then
      if dst_pos = array.size then return ([], dst_pos, none)
      else do
        let (w, last, cur) ← copyLoop array (dst_pos + 1) rest
        return (⟨array, dst_pos, c⟩ :: w, last, cur)
    else return ([], dst_pos, some (c :: rest))

/-- The copy loop, and the terminator where the part ends as it should. -/
def partStores (array : PartArray) (ends : Nat → Bytes → Stores) (cur : Bytes) : Stores := do
  let (w, dst_pos, cur) ← copyLoop array 0 cur
  Stores.next (return (w, cur)) (ends dst_pos)

def nextPartStores (array : PartArray) (dst_pos : Nat) (cur : Bytes) : Stores := do
  if (← deref cur) ≠ SLASH then return ([], none)
  else return ([⟨array, dst_pos, NUL⟩], some (← skip (· = SLASH) cur))

def streamEndStores (dst_pos : Nat) (cur : Bytes) : Stores := do
  let cur ← skip (· = SLASH) cur
  let c ← deref cur
  return ([⟨.m_CommandStreamPart, dst_pos, NUL⟩], if c ≠ SP ∧ c ≠ TAB then none else some cur)

def hostPortStores : Bytes → Stores := partStores .m_CommandHostPort (nextPartStores .m_CommandHostPort)

def presentationPartStores : Bytes → Stores :=
  partStores .m_CommandPresentationPart (nextPartStores .m_CommandPresentationPart)

def streamPartStores : Bytes → Stores := partStores .m_CommandStreamPart streamEndStores

/-- The request line up to the version. -/
def uriStores (s : CRtspSession) (aRequest : Bytes) : Stores := do
  let (_, cur) ← scheme s aRequest
  (((Stores.next (return ([], cur)) hostPortStores).next presentationPartStores).next streamPartStores)

/-- An array after the stores; `newCommandInit` has cleared it. -/
def PartArray.after (array : PartArray) (w : List Store) : Bytes :=
  (w.filter (·.array = array)).foldl (fun chars x => chars.set x.dst_pos x.char) (List.replicate array.size NUL)

/-! ### The text of the URI -/

/-- What follows the command name. -/
def afterCmdName (aRequest : Bytes) : Bytes :=
  (aRequest.drop ((aRequest.take 19).takeWhile (¬ isblank ·)).length).dropWhile isspace

/-- What follows `rtsp://` in the request line. -/
def uriOf (aRequest : Bytes) : Option Bytes :=
  if strncasecmp (ascii "rtsp://") (afterCmdName aRequest) then some ((afterCmdName aRequest).drop 7) else none

def partOf (uri : Bytes) : Bytes := uri.takeWhile isPart

def afterPart (uri : Bytes) : Bytes := (uri.dropWhile isPart).dropWhile (· = SLASH)

/-- A slash follows the first part of `uri`, which is at most `limit` characters long. -/
def PartEnds (limit : Nat) (uri : Bytes) : Prop :=
  (partOf uri).length ≤ limit ∧ (uri.dropWhile isPart).head? = some SLASH

/-- What is left behind the stream part, where a blank has to follow. -/
def streamRest (uri : Bytes) : Option Bytes :=
  if (partOf uri).length ≤ RTSP_PARAM_STRING_MAX ∧ (afterPart uri).head?.any isblank then some (afterPart uri) else none

/-- No part that the parser goes on behind is as long as its array. -/
def PartsFit (uri : Bytes) : Prop :=
  PartEnds MAX_HOSTNAME_LEN uri → (partOf uri).length ≠ MAX_HOSTNAME_LEN ∧
    let pres := afterPart uri
    PartEnds RTSP_PARAM_STRING_MAX pres → (partOf pres).length ≠ RTSP_PARAM_STRING_MAX ∧
      (partOf (afterPart pres)).length ≠ RTSP_PARAM_STRING_MAX

instance (limit : Nat) (uri : Bytes) : Decidable (PartEnds limit uri) := inferInstanceAs (Decidable (_ ∧ _))

instance (uri : Bytes) : Decidable (PartsFit uri) := inferInstanceAs (Decidable (_ → _ ∧ (_ → _ ∧ _)))

/-! ### One part -/

/-- The stores of `chars` into an array, from `dst_pos` on. -/
def stored (array : PartArray) : Nat → Bytes → List Store
  | _, [] => []
  | dst_pos, c :: chars => ⟨array, dst_pos, c⟩ :: stored array (dst_pos + 1) chars

/-- The stores of a part, with its terminator if it got that far. -/
def partWrites (array : PartArray) (part : Bytes) (ended : Prop) [Decidable ended] : List Store :=
  stored array 0 part ++ if ended then [⟨array, part.length, NUL⟩] else []

section

variable {array : PartArray} {chars part : Bytes} {ended : Prop} [Decidable ended]

theorem stored_inside {pos : Nat} (room : pos + chars.length ≤ array.size) : ∀ x ∈ stored array pos chars, x.Inside := by
  induction chars generalizing pos with
  | nil => simp [stored]
  | cons c chars ih =>
    rw [List.length_cons] at room
    intro x member
    rcases List.mem_cons.mp member with rfl | later
    · show pos < array.size
      omega
    · exact ih (by omega) x later

theorem stored_array {pos : Nat} : ∀ x ∈ stored array pos chars, x.array = array := by
  induction chars generalizing pos with
  | nil => simp [stored]
  | cons c chars ih =>
    intro x member
    rcases List.mem_cons.mp member with rfl | later
    · rfl
    · exact ih x later

theorem partWrites_array : ∀ x ∈ partWrites array part ended, x.array = array := by
  intro x member
  rcases List.mem_append.mp member with char | terminator
  · exact stored_array x char
  · split at terminator
    · rw [List.mem_singleton.mp terminator]
    · cases terminator

theorem partWrites_inside (fits : part.length ≤ array.size) :
    (∀ x ∈ partWrites array part ended, x.Inside) ↔ (ended → part.length ≠ array.size) := by
  constructor
  · intro inside yes full
    have last := inside ⟨array, part.length, NUL⟩ (List.mem_append_right _ (by rw [if_pos yes]; exact List.mem_singleton_self _))
    exact absurd last (by rw [Store.Inside, full]; exact Nat.lt_irrefl _)
  · intro room x member
    rcases List.mem_append.mp member with char | terminator
    · exact stored_inside (by omega) x char
    · split at terminator
      · rename_i yes
        rw [List.mem_singleton.mp terminator]
        exact Nat.lt_of_le_of_ne fits (room yes)
      · cases terminator

/-! ### The array afterwards -/

theorem foldl_stored {front : Bytes} {free : Nat} (fits : chars.length ≤ free) :
    (stored array front.length chars).foldl (fun m x => m.set x.dst_pos x.char) (front ++ List.replicate free NUL) =
      front ++ chars ++ List.replicate (free - chars.length) NUL := by
  induction chars generalizing front free with
  | nil => simp [stored]
  | cons c chars ih =>
    obtain ⟨more, rfl⟩ : ∃ more, free = more + 1 := ⟨free - 1, by rw [List.length_cons] at fits; omega⟩
    have here : (front ++ List.replicate (more + 1) NUL).set front.length c = (front ++ [c]) ++ List.replicate more NUL := by
      rw [List.replicate_succ, List.set_append_right front.length c (Nat.le_refl _), Nat.sub_self, List.set_cons_zero,
        List.append_assoc]
      rfl
    have next := @ih (front ++ [c]) more (by rw [List.length_cons] at fits; omega)
    rw [List.length_append, List.length_singleton] at next
    rw [stored, List.foldl_cons, here, next, List.length_cons, Nat.succ_sub_succ]
    simp

theorem filter_partWrites (other : PartArray) :
    (partWrites array part ended).filter (·.array = other) = if array = other then partWrites array part ended else [] := by
  split
  · rename_i same
    exact List.filter_eq_self.mpr fun x member => decide_eq_true ((partWrites_array x member).trans same)
  · rename_i apart
    refine List.filter_eq_nil_iff.mpr fun x member => ?_
    rw [partWrites_array x member]
    simpa using apart

theorem after_partWrites (fits : part.length ≤ array.size) :
    array.after (partWrites array part ended) = part ++ List.replicate (array.size - part.length) NUL := by
  have text := @foldl_stored array part [] array.size fits
  rw [List.nil_append, List.length_nil, List.nil_append] at text
  rw [PartArray.after, filter_partWrites, if_pos rfl, partWrites, List.foldl_append, text]
  split
  · rw [List.foldl_cons, List.foldl_nil, List.set_append_right _ _ (Nat.le_refl _), Nat.sub_self]
    cases array.size - part.length with
    | zero => rfl
    | succ n => rfl
  · rfl

theorem cString_filled {n : Nat} (clean : NUL ∉ part) : cString (part ++ List.replicate n NUL) = part := by
  cases n with
  | zero =>
    rw [List.replicate_zero, List.append_nil]
    exact List.takeWhile_eq_self_iff.mpr fun c member => decide_eq_true fun zero => clean (zero ▸ member)
  | succ n => exact cString_text clean _

end

/-! ### Loops over the request line -/

theorem copyLoop_eq {array : PartArray} {cur : Bytes} {pos : Nat} (nul : NUL ∈ cur) (room : pos ≤ array.size) :
    copyLoop array pos cur = .ok (
      if pos + (partOf cur).length ≤ array.size then
        (stored array pos (partOf cur), pos + (partOf cur).length, some (cur.dropWhile isPart))
      else (stored array pos ((partOf cur).take (array.size - pos)), array.size, none)) := by
  induction cur generalizing pos with
  | nil => cases nul
  | cons c cur ih =>
    by_cases going : isPart c = true
    · have later : NUL ∈ cur := by
        rcases List.mem_cons.mp nul with rfl | later
        · cases going
        · exact later
      have part : partOf (c :: cur) = c :: partOf cur := List.takeWhile_cons_of_pos going
      rw [copyLoop, if_pos going, part, List.length_cons, List.dropWhile_cons_of_pos going]
      by_cases full : pos = array.size
      · rw [if_pos full, if_neg (by omega), full, Nat.sub_self, List.take_zero]
        rfl
      · have one : array.size - pos = array.size - (pos + 1) + 1 := by omega
        rw [if_neg full, ih later (by omega), ok_bind, one, List.take_succ_cons]
        by_cases fits : pos + 1 + (partOf cur).length ≤ array.size
        · rw [if_pos fits, if_pos (by omega), Nat.add_right_comm, Nat.add_assoc]
          rfl
        · rw [if_neg fits, if_neg (by omega)]
          rfl
    · have part : partOf (c :: cur) = [] := List.takeWhile_cons_of_neg going
      rw [copyLoop, if_neg going, part, List.length_nil, List.dropWhile_cons_of_neg going, Nat.add_zero, if_pos room]
      rfl

theorem copyPart_eq {limit : Nat} {cur : Bytes} (nul : NUL ∈ cur) :
    copyPart limit cur = .ok ((partOf cur).take limit,
      if (partOf cur).length ≤ limit then some (cur.dropWhile isPart) else none) := by
  unfold copyPart
  dsimp only
  split
  · rename_i fits
    have inside : (partOf cur).length ≤ limit := fits
    rw [skip_eq nul (by decide), ok_bind, if_pos inside, List.take_of_length_le inside]
    rfl
  · rename_i tooLong
    have outside : ¬ (partOf cur).length ≤ limit := tooLong
    rw [if_neg outside]
    rfl

section

variable {uri : Bytes}

theorem head?_of_nul (nul : NUL ∈ uri) :
    ∃ c rest, uri.dropWhile isPart = c :: rest ∧ NUL ∈ c :: rest := by
  have later := mem_dropWhile nul (by decide : isPart NUL = false)
  cases behind : uri.dropWhile isPart with
  | nil => rw [behind] at later; cases later
  | cons c rest => exact ⟨c, rest, rfl, behind ▸ later⟩

theorem afterPart_nul (nul : NUL ∈ uri) : NUL ∈ afterPart uri :=
  mem_dropWhile (mem_dropWhile nul (by decide)) (by decide)

theorem partOf_clean (n : Nat) : NUL ∉ (partOf uri).take n := fun member =>
  absurd (List.mem_takeWhile_imp (List.mem_of_mem_take member)) (by decide)

theorem nextPartStores_eq (array : PartArray) (nul : NUL ∈ uri) :
    partStores array (nextPartStores array) uri = .ok (
      partWrites array ((partOf uri).take array.size) (PartEnds array.size uri),
      if PartEnds array.size uri then some (afterPart uri) else none) := by
  unfold partStores
  rw [copyLoop_eq nul (Nat.zero_le _), ok_bind, Nat.zero_add, Nat.sub_zero]
  by_cases fits : (partOf uri).length ≤ array.size
  · rw [if_pos fits, List.take_of_length_le fits]
    obtain ⟨c, rest, behind, later⟩ := head?_of_nul nul
    have skipped : skip (· = SLASH) (uri.dropWhile isPart) = .ok (afterPart uri) :=
      skip_eq (mem_dropWhile nul (by decide)) (by decide)
    have read : deref (uri.dropWhile isPart) = .ok c := by rw [behind]; rfl
    show (do let (w', cur) ← nextPartStores array (partOf uri).length (uri.dropWhile isPart)
             return (stored array 0 (partOf uri) ++ w', cur)) = _
    unfold nextPartStores partWrites
    rw [read, ok_bind]
    by_cases slash : c = SLASH
    · have ends : PartEnds array.size uri := ⟨fits, by rw [behind, slash]; rfl⟩
      rw [if_neg (not_not.mpr slash), skipped, if_pos ends, if_pos ends]
      rfl
    · have open' : ¬ PartEnds array.size uri := fun ends => slash (by simpa [behind] using ends.2)
      rw [if_pos slash, if_neg open', if_neg open']
      rfl
  · have tooLong : ¬ PartEnds array.size uri := fun ends => fits ends.1
    rw [if_neg fits, if_neg tooLong, partWrites, if_neg tooLong, List.append_nil]
    rfl

theorem streamEnd_eq (nul : NUL ∈ uri) :
    ∃ c, deref (afterPart uri) = .ok c ∧ (afterPart uri).head?.any isblank = decide (c = SP ∨ c = TAB) ∧
      skip (· = SLASH) (uri.dropWhile isPart) = .ok (afterPart uri) := by
  have skipped : skip (· = SLASH) (uri.dropWhile isPart) = .ok (afterPart uri) :=
    skip_eq (mem_dropWhile nul (by decide)) (by decide)
  have later := afterPart_nul nul
  cases behind : afterPart uri with
  | nil => rw [behind] at later; cases later
  | cons c rest => exact ⟨c, rfl, rfl, behind ▸ skipped⟩

theorem streamPartStores_eq (nul : NUL ∈ uri) :
    streamPartStores uri = .ok (
      partWrites .m_CommandStreamPart ((partOf uri).take RTSP_PARAM_STRING_MAX)
        ((partOf uri).length ≤ RTSP_PARAM_STRING_MAX), streamRest uri) := by
  unfold streamPartStores partStores
  rw [copyLoop_eq nul (Nat.zero_le _), ok_bind, Nat.zero_add, Nat.sub_zero]
  by_cases fits : (partOf uri).length ≤ RTSP_PARAM_STRING_MAX
  · have fits' : (partOf uri).length ≤ PartArray.m_CommandStreamPart.size := fits
    obtain ⟨c, read, blank, skipped⟩ := streamEnd_eq nul
    rw [if_pos fits', List.take_of_length_le fits, partWrites, if_pos fits]
    show (do let (w', cur) ← streamEndStores (partOf uri).length (uri.dropWhile isPart)
             return (stored .m_CommandStreamPart 0 (partOf uri) ++ w', cur)) = _
    unfold streamEndStores streamRest
    rw [skipped, ok_bind, read, ok_bind, blank]
    by_cases found : c = SP ∨ c = TAB
    · rw [if_neg (fun other => found.elim other.1 other.2), if_pos ⟨fits, decide_eq_true found⟩]
      rfl
    · rw [if_pos (not_or.mp found), if_neg (fun both => found (of_decide_eq_true both.2))]
      rfl
  · have fits' : ¬ (partOf uri).length ≤ PartArray.m_CommandStreamPart.size := fits
    rw [if_neg fits', partWrites, if_neg fits, List.append_nil, streamRest, if_neg (fun both => fits both.1)]
    rfl

/-! ### The same in the parser -/

theorem nextPart_eq (limit : Nat) (f : Bytes → CRtspSession) (nul : NUL ∈ uri) :
    (do let (part, rest) ← copyPart limit uri
        Parse.next (return (f part, rest)) fun s => nextPart limit s part.length) =
      if PartEnds limit uri ∧ (partOf uri).length = limit then .error .outOfBounds
      else .ok (f ((partOf uri).take limit), if PartEnds limit uri then some (afterPart uri) else none) := by
  rw [copyPart_eq nul, ok_bind]
  by_cases fits : (partOf uri).length ≤ limit
  · rw [if_pos fits, List.take_of_length_le fits]
    obtain ⟨c, rest, behind, later⟩ := head?_of_nul nul
    have skipped : skip (· = SLASH) (uri.dropWhile isPart) = .ok (afterPart uri) :=
      skip_eq (mem_dropWhile nul (by decide)) (by decide)
    have read : deref (uri.dropWhile isPart) = .ok c := by rw [behind]; rfl
    show nextPart limit (f (partOf uri)) (partOf uri).length (uri.dropWhile isPart) = _
    unfold nextPart
    rw [read, ok_bind]
    by_cases slash : c = SLASH
    · have ends : PartEnds limit uri := ⟨fits, by rw [behind, slash]; rfl⟩
      rw [if_neg (not_not.mpr slash), if_pos ends, skipped]
      unfold terminate
      by_cases full : (partOf uri).length = limit
      · rw [if_neg (by omega), if_pos ⟨ends, full⟩]
        rfl
      · rw [if_pos (by omega), if_neg (fun both => full both.2)]
        rfl
    · have open' : ¬ PartEnds limit uri := fun ends => slash (by simpa [behind] using ends.2)
      rw [if_pos slash, if_neg (fun both => open' both.1), if_neg open']
      rfl
  · have tooLong : ¬ PartEnds limit uri := fun ends => fits ends.1
    rw [if_neg fits, if_neg (fun both => tooLong both.1), if_neg tooLong]
    rfl

theorem hostPort_eq (s : CRtspSession) (nul : NUL ∈ uri) :
    hostPort s uri = if PartEnds MAX_HOSTNAME_LEN uri ∧ (partOf uri).length = MAX_HOSTNAME_LEN then .error .outOfBounds
      else .ok ({ s with m_CommandHostPort := (partOf uri).take MAX_HOSTNAME_LEN },
        if PartEnds MAX_HOSTNAME_LEN uri then some (afterPart uri) else none) :=
  nextPart_eq MAX_HOSTNAME_LEN (fun part => { s with m_CommandHostPort := part }) nul

theorem presentationPart_eq (s : CRtspSession) (nul : NUL ∈ uri) :
    presentationPart s uri =
      if PartEnds RTSP_PARAM_STRING_MAX uri ∧ (partOf uri).length = RTSP_PARAM_STRING_MAX then .error .outOfBounds
      else .ok ({ s with m_CommandPresentationPart := (partOf uri).take RTSP_PARAM_STRING_MAX },
        if PartEnds RTSP_PARAM_STRING_MAX uri then some (afterPart uri) else none) :=
  nextPart_eq RTSP_PARAM_STRING_MAX (fun part => { s with m_CommandPresentationPart := part }) nul

theorem streamPart_eq (s : CRtspSession) (nul : NUL ∈ uri) :
    streamPart s uri = if (partOf uri).length = RTSP_PARAM_STRING_MAX then .error .outOfBounds
      else .ok ({ s with m_CommandStreamPart := (partOf uri).take RTSP_PARAM_STRING_MAX }, streamRest uri) := by
  unfold streamPart
  rw [copyPart_eq nul, ok_bind]
  by_cases fits : (partOf uri).length ≤ RTSP_PARAM_STRING_MAX
  · obtain ⟨c, read, blank, skipped⟩ := streamEnd_eq nul
    rw [if_pos fits, List.take_of_length_le fits]
    show (do terminate RTSP_PARAM_STRING_MAX (partOf uri).length
             let cur ← skip (· = SLASH) (uri.dropWhile isPart)
             let c ← deref cur
             if c ≠ SP ∧ c ≠ TAB then return ({ s with m_CommandStreamPart := partOf uri }, none)
             else return ({ s with m_CommandStreamPart := partOf uri }, some cur)) = _
    unfold terminate streamRest
    by_cases full : (partOf uri).length = RTSP_PARAM_STRING_MAX
    · rw [if_pos full, if_neg (by omega)]
      rfl
    · rw [if_neg full, if_pos (by omega), pure_bind, skipped, ok_bind, read, ok_bind, blank]
      by_cases found : c = SP ∨ c = TAB
      · rw [if_neg (fun other => found.elim other.1 other.2), if_pos ⟨fits, decide_eq_true found⟩]
        rfl
      · rw [if_pos (not_or.mp found), if_neg (fun both => found (of_decide_eq_true both.2))]
        rfl
  · rw [if_neg fits, if_neg (by omega), streamRest, if_neg (fun both => fits both.1)]
    rfl

end

/-! ### The request line -/

section

variable {a q : Bytes}

theorem skipCmdName_eq {n : Nat} {cur : Bytes} (room : n ≤ cur.length) :
    skipCmdName n cur = .ok (cur.drop ((cur.take n).takeWhile (¬ isblank ·)).length) := by
  induction n generalizing cur with
  | zero => rfl
  | succ n ih =>
    cases cur with
    | nil => cases room
    | cons c cur =>
      have blank : (decide ¬ (isblank c = true)) = decide (c ≠ SP ∧ c ≠ TAB) := by
        simp [isblank]
      rw [skipCmdName, List.take_succ_cons, List.takeWhile_cons, blank]
      by_cases going : c ≠ SP ∧ c ≠ TAB
      · rw [if_pos going, if_pos (decide_eq_true going), List.length_cons, List.drop_succ_cons]
        exact ih (Nat.le_of_succ_le_succ room)
      · rw [if_neg going, if_neg (by simpa using going)]
        rfl

/-- The request in a buffer of the parser: longer than a command name, the last character NUL. -/
structure Terminated (a : Bytes) : Prop where
  room : 19 < a.length
  last : [NUL] <:+ a

theorem nul_of_suffix {cur : Bytes} (last : [NUL] <:+ a) (inside : cur <:+ a) (nonempty : cur ≠ []) : NUL ∈ cur := by
  rcases List.suffix_or_suffix_of_suffix last inside with nul | short
  · exact nul.subset (List.mem_singleton_self _)
  · have one := short.length_le
    have some := List.length_pos_iff.mpr nonempty
    rw [short.eq_of_length (Nat.le_antisymm one some)]
    exact List.mem_singleton_self _

theorem terminated_bufferOf (q : Bytes) : Terminated (bufferOf q) := by
  refine ⟨?_, ?_⟩
  · rw [bufferOf, List.length_append, List.length_cons, List.length_replicate]
    omega
  · have nuls : NUL :: List.replicate (499 - q.length) NUL = List.replicate (499 - q.length) NUL ++ [NUL] := by
      rw [← List.replicate_succ, List.replicate_succ']
    rw [bufferOf, nuls, ← List.append_assoc]
    exact List.suffix_append _ _

theorem scheme_eq (s : CRtspSession) (ends : Terminated a) : scheme s a = .ok (s, uriOf a) := by
  have short : ((a.take 19).takeWhile (¬ isblank ·)).length < a.length := by
    have bound := (List.takeWhile_prefix (fun c => decide ¬ (isblank c = true)) (l := a.take 19)).length_le
    have room := ends.room
    rw [List.length_take] at bound
    omega
  have nul : NUL ∈ a.drop ((a.take 19).takeWhile (¬ isblank ·)).length :=
    nul_of_suffix ends.last (List.drop_suffix _ _) (by simpa using short)
  unfold scheme
  rw [skipCmdName_eq (Nat.le_of_lt ends.room), ok_bind, skip_eq nul (by decide), ok_bind, uriOf]
  show (if ¬ strncasecmp (ascii "rtsp://") (afterCmdName a) then _ else _) = _
  by_cases found : strncasecmp (ascii "rtsp://") (afterCmdName a)
  · rw [if_neg (not_not.mpr found), if_pos found]
    rfl
  · rw [if_pos found, if_neg found]
    rfl

theorem afterCmdName_suffix : afterCmdName a <:+ a := (List.dropWhile_suffix _).trans (List.drop_suffix _ _)

theorem uriOf_suffix {uri : Bytes} (found : uriOf a = some uri) : uri <:+ a := by
  unfold uriOf at found
  split at found
  · rw [← Option.some.inj found]
    exact (List.drop_suffix 7 _).trans afterCmdName_suffix
  · cases found

theorem uriOf_nul {uri : Bytes} (last : [NUL] <:+ a) (found : uriOf a = some uri) : NUL ∈ uri := by
  apply nul_of_suffix last (uriOf_suffix found)
  unfold uriOf at found
  split at found
  · rename_i scheme
    rintro rfl
    have short : (afterCmdName a).length ≤ 7 := List.drop_eq_nil_iff.mp (Option.some.inj found)
    have nonempty : afterCmdName a ≠ [] := by
      intro none
      rw [none] at scheme
      exact absurd scheme (by decide)
    have nul := nul_of_suffix last afterCmdName_suffix nonempty
    -- the scheme would have the NUL in it
    have inside : NUL ∈ ascii "rtsp://" := by
      unfold strncasecmp at scheme
      rw [← scheme]
      refine List.mem_map.mpr ⟨NUL, ?_, rfl⟩
      exact (List.take_of_length_le short).symm ▸ nul
    exact absurd inside (by decide)
  · cases found

/-- What the stores of the three parts are, and where the parser goes on. -/
def partsStored (uri : Bytes) : List Store × Option Bytes :=
  let host := partWrites .m_CommandHostPort ((partOf uri).take MAX_HOSTNAME_LEN) (PartEnds MAX_HOSTNAME_LEN uri)
  if PartEnds MAX_HOSTNAME_LEN uri then
    let uri := afterPart uri
    let pres := partWrites .m_CommandPresentationPart ((partOf uri).take RTSP_PARAM_STRING_MAX)
      (PartEnds RTSP_PARAM_STRING_MAX uri)
    if PartEnds RTSP_PARAM_STRING_MAX uri then
      let uri := afterPart uri
      let stream := partWrites .m_CommandStreamPart ((partOf uri).take RTSP_PARAM_STRING_MAX)
        ((partOf uri).length ≤ RTSP_PARAM_STRING_MAX)
      (host ++ pres ++ stream, streamRest uri)
    else (host ++ pres, none)
  else (host, none)

def storesOf (a : Bytes) : List Store × Option Bytes :=
  match uriOf a with
  | none => ([], none)
  | some uri => partsStored uri

theorem Stores.next_some {f : Bytes → Stores} {w w' : List Store} {cur : Bytes} {cur' : Option Bytes}
    (h : f cur = .ok (w', cur')) : Stores.next (.ok (w, some cur)) f = .ok (w ++ w', cur') := by
  show (do let (w', cur) ← f cur
           return (w ++ w', cur)) = _
  rw [h]
  rfl

theorem Stores.next_none {f : Bytes → Stores} {w : List Store} : Stores.next (.ok (w, none)) f = .ok (w, none) := rfl

theorem uriStores_eq (s : CRtspSession) (ends : Terminated a) : uriStores s a = .ok (storesOf a) := by
  unfold uriStores storesOf
  rw [scheme_eq s ends, ok_bind]
  cases found : uriOf a with
  | none => rfl
  | some uri =>
    have nul := uriOf_nul ends.last found
    have host := nextPartStores_eq .m_CommandHostPort nul
    show ((Stores.next (Stores.next (.ok ([], some uri)) hostPortStores) presentationPartStores).next streamPartStores) =
      .ok (partsStored uri)
    rw [Stores.next_some (f := hostPortStores) host, List.nil_append]
    unfold partsStored
    by_cases first : PartEnds MAX_HOSTNAME_LEN uri
    · have pres := nextPartStores_eq .m_CommandPresentationPart (afterPart_nul nul)
      have first' : PartEnds PartArray.m_CommandHostPort.size uri := first
      rw [if_pos first, if_pos first', Stores.next_some (f := presentationPartStores) pres]
      by_cases second : PartEnds RTSP_PARAM_STRING_MAX (afterPart uri)
      · have stream := streamPartStores_eq (afterPart_nul (afterPart_nul nul))
        have second' : PartEnds PartArray.m_CommandPresentationPart.size (afterPart uri) := second
        rw [if_pos second', Stores.next_some stream]
        exact congrArg Except.ok (if_pos second).symm
      · have second' : ¬ PartEnds PartArray.m_CommandPresentationPart.size (afterPart uri) := second
        rw [if_neg second', Stores.next_none]
        exact congrArg Except.ok (if_neg second).symm
    · have first' : ¬ PartEnds PartArray.m_CommandHostPort.size uri := first
      rw [if_neg first, if_neg first', Stores.next_none, Stores.next_none]
      rfl

theorem take_limit_le (part : Bytes) (limit : Nat) : (part.take limit).length ≤ limit := by
  rw [List.length_take]
  exact Nat.min_le_left _ _

/-- All stores fall inside their arrays exactly when the parts fit. -/
theorem storesOf_inside : (∀ x ∈ (storesOf a).1, x.Inside) ↔ ∀ uri, uriOf a = some uri → PartsFit uri := by
  unfold storesOf
  cases found : uriOf a with
  | none => simp
  | some uri =>
    have single : (∀ u, some uri = some u → PartsFit u) ↔ PartsFit uri :=
      ⟨fun all => all uri rfl, fun fit u same => Option.some.inj same ▸ fit⟩
    have inside (array : PartArray) (part : Bytes) {ended : Prop} [Decidable ended] (short : ended → part.length ≤ array.size) :
        (∀ x ∈ partWrites array (part.take array.size) ended, x.Inside) ↔ (ended → part.length ≠ array.size) := by
      rw [partWrites_inside (take_limit_le part array.size)]
      exact forall_congr' fun yes => by rw [List.take_of_length_le (short yes)]
    have host := inside .m_CommandHostPort (partOf uri) (fun ends : PartEnds MAX_HOSTNAME_LEN uri => ends.1)
    have pres := inside .m_CommandPresentationPart (partOf (afterPart uri))
      (fun ends : PartEnds RTSP_PARAM_STRING_MAX (afterPart uri) => ends.1)
    have stream := inside .m_CommandStreamPart (partOf (afterPart (afterPart uri)))
      (fun fits : (partOf (afterPart (afterPart uri))).length ≤ RTSP_PARAM_STRING_MAX => fits)
    rw [single]
    unfold partsStored PartsFit
    dsimp only
    by_cases first : PartEnds MAX_HOSTNAME_LEN uri
    · rw [if_pos first]
      by_cases second : PartEnds RTSP_PARAM_STRING_MAX (afterPart uri)
      · rw [if_pos second]
        constructor
        · intro all
          have all := List.forall_mem_append.mp all
          have front := List.forall_mem_append.mp all.1
          exact fun _ => ⟨host.mp front.1 first, fun _ => ⟨pres.mp front.2 second, fun full => stream.mp all.2 (Nat.le_of_eq full) full⟩⟩
        · intro fit
          obtain ⟨one, rest⟩ := fit first
          obtain ⟨two, three⟩ := rest second
          exact List.forall_mem_append.mpr ⟨List.forall_mem_append.mpr ⟨host.mpr fun _ => one, pres.mpr fun _ => two⟩,
            stream.mpr fun _ => three⟩
      · rw [if_neg second]
        constructor
        · intro all
          exact fun _ => ⟨host.mp (List.forall_mem_append.mp all).1 first, fun ends => absurd ends second⟩
        · intro fit
          exact List.forall_mem_append.mpr ⟨host.mpr fun _ => (fit first).1, pres.mpr fun ends => absurd ends second⟩
    · rw [if_neg first]
      exact ⟨fun _ ends => absurd ends first, fun _ => host.mpr fun ends => absurd ends first⟩

/-! ### What the arrays hold -/

/-- The parts as the arrays hold them. -/
def CRtspSession.withParts (s : CRtspSession) (w : List Store) : CRtspSession :=
  { s with m_CommandHostPort := cString (PartArray.m_CommandHostPort.after w)
           m_CommandPresentationPart := cString (PartArray.m_CommandPresentationPart.after w)
           m_CommandStreamPart := cString (PartArray.m_CommandStreamPart.after w) }

/-- The request line up to the version. -/
def uriLine (s : CRtspSession) (aRequest : Bytes) : Parse :=
  (((scheme s aRequest).next hostPort).next presentationPart).next streamPart

theorem Parse.next_assoc (r : Parse) (f g : CRtspSession → Bytes → Parse) :
    (r.next f).next g = r.next fun s cur => (f s cur).next g := by
  match r with
  | .error e => rfl
  | .ok (s, none) => rfl
  | .ok (s, some cur) => rfl

theorem requestLine_eq (s : CRtspSession) (a : Bytes) : requestLine s a = (uriLine s a).next version :=
  (Parse.next_assoc _ _ _).symm

theorem cString_part (array : PartArray) (uri : Bytes) (ended : Prop) [Decidable ended] :
    cString (array.after (partWrites array ((partOf uri).take array.size) ended)) = (partOf uri).take array.size := by
  rw [after_partWrites (take_limit_le _ _)]
  exact cString_filled (partOf_clean _)

section

variable (s : CRtspSession) (host pres stream : Bytes) (p1 p2 p3 : Prop) [Decidable p1] [Decidable p2] [Decidable p3]

theorem withParts_eq {w : List Store} (first : cString (PartArray.m_CommandHostPort.after w) = host)
    (second : cString (PartArray.m_CommandPresentationPart.after w) = pres)
    (third : cString (PartArray.m_CommandStreamPart.after w) = stream) :
    s.withParts w = { s with m_CommandHostPort := host, m_CommandPresentationPart := pres, m_CommandStreamPart := stream } := by
  rw [CRtspSession.withParts, first, second, third]

theorem withParts_one : s.newCommandInit.withParts
      (partWrites .m_CommandHostPort ((partOf host).take MAX_HOSTNAME_LEN) p1) =
    { s.newCommandInit with m_CommandHostPort := (partOf host).take MAX_HOSTNAME_LEN } := by
  apply withParts_eq
  · exact cString_part .m_CommandHostPort host p1
  · simp only [PartArray.after, filter_partWrites]
    rfl
  · simp only [PartArray.after, filter_partWrites]
    rfl

theorem withParts_two : s.newCommandInit.withParts
      (partWrites .m_CommandHostPort ((partOf host).take MAX_HOSTNAME_LEN) p1 ++
        partWrites .m_CommandPresentationPart ((partOf pres).take RTSP_PARAM_STRING_MAX) p2) =
    { s.newCommandInit with
      m_CommandHostPort := (partOf host).take MAX_HOSTNAME_LEN
      m_CommandPresentationPart := (partOf pres).take RTSP_PARAM_STRING_MAX } := by
  apply withParts_eq
  · have held := cString_part .m_CommandHostPort host p1
    simpa [PartArray.after, PartArray.size, filter_partWrites] using held
  · have held := cString_part .m_CommandPresentationPart pres p2
    simpa [PartArray.after, PartArray.size, filter_partWrites] using held
  · simp only [PartArray.after, List.filter_append, filter_partWrites]
    rfl

theorem withParts_three : s.newCommandInit.withParts
      (partWrites .m_CommandHostPort ((partOf host).take MAX_HOSTNAME_LEN) p1 ++
        partWrites .m_CommandPresentationPart ((partOf pres).take RTSP_PARAM_STRING_MAX) p2 ++
        partWrites .m_CommandStreamPart ((partOf stream).take RTSP_PARAM_STRING_MAX) p3) =
    { s.newCommandInit with
      m_CommandHostPort := (partOf host).take MAX_HOSTNAME_LEN
      m_CommandPresentationPart := (partOf pres).take RTSP_PARAM_STRING_MAX
      m_CommandStreamPart := (partOf stream).take RTSP_PARAM_STRING_MAX } := by
  apply withParts_eq
  · have held := cString_part .m_CommandHostPort host p1
    simpa [PartArray.after, PartArray.size, filter_partWrites] using held
  · have held := cString_part .m_CommandPresentationPart pres p2
    simpa [PartArray.after, PartArray.size, filter_partWrites] using held
  · have held := cString_part .m_CommandStreamPart stream p3
    simpa [PartArray.after, PartArray.size, filter_partWrites] using held

end

/-- The parser's parts are what the stores leave in the arrays, up to a store outside. -/
theorem uriLine_eq (s : CRtspSession) (ends : Terminated a) :
    uriLine s.newCommandInit a =
      if ∀ x ∈ (storesOf a).1, x.Inside then .ok (s.newCommandInit.withParts (storesOf a).1, (storesOf a).2)
      else .error .outOfBounds := by
  unfold uriLine
  rw [scheme_eq _ ends]
  cases found : uriOf a with
  | none =>
    have none : storesOf a = ([], none) := by rw [storesOf, found]
    rw [none, if_pos (by simp)]
    rfl
  | some uri =>
    have nul := uriOf_nul ends.last found
    have fit : (∀ x ∈ (storesOf a).1, x.Inside) ↔ PartsFit uri :=
      storesOf_inside.trans ⟨fun all => all uri found, fun fit u same => Option.some.inj (found.symm.trans same) ▸ fit⟩
    have stores : storesOf a = partsStored uri := by rw [storesOf, found]
    simp only [fit]
    rw [stores]
    show ((hostPort s.newCommandInit uri).next presentationPart).next streamPart = _
    rw [hostPort_eq _ nul]
    unfold partsStored
    dsimp only
    by_cases first : PartEnds MAX_HOSTNAME_LEN uri
    · by_cases full : (partOf uri).length = MAX_HOSTNAME_LEN
      · rw [if_pos ⟨first, full⟩, if_neg fun fit => (fit first).1 full]
        rfl
      rw [if_neg fun both => full both.2, if_pos first, if_pos first]
      show (presentationPart _ (afterPart uri)).next streamPart = _
      rw [presentationPart_eq _ (afterPart_nul nul)]
      by_cases second : PartEnds RTSP_PARAM_STRING_MAX (afterPart uri)
      · by_cases full' : (partOf (afterPart uri)).length = RTSP_PARAM_STRING_MAX
        · rw [if_pos ⟨second, full'⟩, if_neg fun fit => ((fit first).2 second).1 full']
          rfl
        rw [if_neg fun both => full' both.2, if_pos second, if_pos second]
        show streamPart _ (afterPart (afterPart uri)) = _
        rw [streamPart_eq _ (afterPart_nul (afterPart_nul nul))]
        by_cases last : (partOf (afterPart (afterPart uri))).length = RTSP_PARAM_STRING_MAX
        · rw [if_pos last, if_neg fun fit => ((fit first).2 second).2 last]
        · have good : PartsFit uri := fun _ => ⟨full, fun _ => ⟨full', last⟩⟩
          rw [if_neg last, if_pos good, withParts_three]
      · have good : PartsFit uri := fun _ => ⟨full, fun ends => absurd ends second⟩
        rw [if_neg fun both => second both.1, if_neg second, if_neg second, if_pos good, withParts_two]
        rfl
    · have good : PartsFit uri := fun ends => absurd ends first
      rw [if_neg fun both => first both.1, if_neg first, if_neg first, if_pos good, withParts_one]
      rfl

theorem nul_part (array : PartArray) {part : Bytes} (ended : Prop) [Decidable ended] (fits : part.length ≤ array.size)
    (short : part.length ≠ array.size) : NUL ∈ array.after (partWrites array part ended) := by
  rw [after_partWrites fits]
  refine List.mem_append_right _ (List.mem_replicate.mpr ⟨?_, rfl⟩)
  omega

/-- A request line that gets as far as the version has all three parts, each with its terminator. -/
theorem storesOf_passed (passed : (storesOf a).2 ≠ none) : ∃ uri, uriOf a = some uri ∧ PartEnds MAX_HOSTNAME_LEN uri ∧
    PartEnds RTSP_PARAM_STRING_MAX (afterPart uri) ∧ (partOf (afterPart (afterPart uri))).length ≤ RTSP_PARAM_STRING_MAX ∧
    (storesOf a).1 =
      partWrites .m_CommandHostPort ((partOf uri).take MAX_HOSTNAME_LEN) (PartEnds MAX_HOSTNAME_LEN uri) ++
        partWrites .m_CommandPresentationPart ((partOf (afterPart uri)).take RTSP_PARAM_STRING_MAX)
          (PartEnds RTSP_PARAM_STRING_MAX (afterPart uri)) ++
        partWrites .m_CommandStreamPart ((partOf (afterPart (afterPart uri))).take RTSP_PARAM_STRING_MAX)
          ((partOf (afterPart (afterPart uri))).length ≤ RTSP_PARAM_STRING_MAX) := by
  cases found : uriOf a with
  | none =>
    rw [storesOf, found] at passed
    exact absurd rfl passed
  | some uri =>
    rw [storesOf, found] at passed ⊢
    change (partsStored uri).2 ≠ none at passed
    show ∃ u, some uri = some u ∧ _
    unfold partsStored at passed ⊢
    dsimp only at passed ⊢
    by_cases first : PartEnds MAX_HOSTNAME_LEN uri
    · rw [if_pos first] at passed ⊢
      by_cases second : PartEnds RTSP_PARAM_STRING_MAX (afterPart uri)
      · rw [if_pos second] at passed ⊢
        have last : (partOf (afterPart (afterPart uri))).length ≤ RTSP_PARAM_STRING_MAX := by
          by_contra tooLong
          exact passed (if_neg fun both => tooLong both.1)
        exact ⟨uri, rfl, first, second, last, rfl⟩
      · rw [if_neg second] at passed
        exact absurd rfl passed
    · rw [if_neg first] at passed
      exact absurd rfl passed

theorem nul_after (fit : ∀ uri, uriOf a = some uri → PartsFit uri) (passed : (storesOf a).2 ≠ none) (array : PartArray) :
    NUL ∈ array.after (storesOf a).1 := by
  obtain ⟨uri, found, first, second, last, stores⟩ := storesOf_passed passed
  obtain ⟨one, rest⟩ := fit uri found first
  obtain ⟨two, three⟩ := rest second
  rw [stores, List.take_of_length_le first.1, List.take_of_length_le second.1, List.take_of_length_le last]
  cases array with
  | m_CommandHostPort =>
    have held := nul_part .m_CommandHostPort (PartEnds MAX_HOSTNAME_LEN uri) first.1 one
    simpa [PartArray.after, PartArray.size, filter_partWrites] using held
  | m_CommandPresentationPart =>
    have held := nul_part .m_CommandPresentationPart (PartEnds RTSP_PARAM_STRING_MAX (afterPart uri)) second.1 two
    simpa [PartArray.after, PartArray.size, filter_partWrites] using held
  | m_CommandStreamPart =>
    have held := nul_part .m_CommandStreamPart
      ((partOf (afterPart (afterPart uri))).length ≤ RTSP_PARAM_STRING_MAX) last three
    simpa [PartArray.after, PartArray.size, filter_partWrites] using held

theorem withParts_passed (s : CRtspSession) (passed : (storesOf a).2 ≠ none) : ∃ uri, uriOf a = some uri ∧
    s.newCommandInit.withParts (storesOf a).1 =
      { s.newCommandInit with
        m_CommandHostPort := partOf uri
        m_CommandPresentationPart := partOf (afterPart uri)
        m_CommandStreamPart := partOf (afterPart (afterPart uri)) } := by
  obtain ⟨uri, found, first, second, last, stores⟩ := storesOf_passed passed
  refine ⟨uri, found, ?_⟩
  rw [stores, withParts_three, List.take_of_length_le first.1, List.take_of_length_le second.1, List.take_of_length_le last]

/-- An accepted request has its parts stored, a version behind them, and headers behind that. -/
theorem accepted_line {s t : CRtspSession} {size : Nat} (ends : Terminated a)
    (accepted : ParseRtspRequest s a size = .ok (t, true)) : ∃ s1 behind cur, (storesOf a).2 = some behind ∧
      version (s.newCommandInit.withParts (storesOf a).1) behind = .ok (s1, some cur) ∧
      headerLoop a size (a.length + 1) s1 cur = .ok (t, true) := by
  obtain ⟨⟨s1, cur⟩, line, headers⟩ := bind_ok accepted
  cases cur with
  | none => cases pure_ok headers
  | some cur =>
    rw [requestLine_eq] at line
    obtain ⟨s2, behind, uri, last⟩ := Parse.next_ok line
    rw [uriLine_eq s ends] at uri
    split at uri
    · obtain ⟨rfl, passed⟩ := Prod.mk.inj (Except.ok.inj uri)
      exact ⟨s1, behind, cur, passed, last, headers⟩
    · cases uri

theorem accepted_passed {s t : CRtspSession} {size : Nat} (ends : Terminated a)
    (accepted : ParseRtspRequest s a size = .ok (t, true)) : (storesOf a).2 ≠ none := by
  obtain ⟨s1, behind, cur, passed, -⟩ := accepted_line ends accepted
  rw [passed]
  exact Option.some_ne_none behind

end

/-! ### The stores of a request -/

/-- The stores for the request `q` fall inside the arrays, and a request that is accepted
leaves a NUL in each. -/
def PartsInBounds (s : CRtspSession) (q : Bytes) : Prop :=
  ∃ w cur, uriStores s (bufferOf q) = .ok (w, cur) ∧ (∀ x ∈ w, x.Inside) ∧
    ∀ size t, ParseRtspRequest s (bufferOf q) size = .ok (t, true) → ∀ array : PartArray, NUL ∈ array.after w

/-- A request of 88 bytes with a host of 56 characters: its NUL goes to `m_CommandHostPort[56]`. -/
def longHostRequest : Bytes :=
  ascii "OPTIONS rtsp://" ++ List.replicate 56 104 ++ ascii "/p/1 RTSP/1.0\r\n\r\n"

theorem not_partsInBounds_longHost : ¬ PartsInBounds (CRtspSession.create 5) longHostRequest := by
  rintro ⟨w, cur, stores, inside, -⟩
  have outside : ((uriStores (CRtspSession.create 5) (bufferOf longHostRequest)).toOption.map fun r =>
      decide (⟨.m_CommandHostPort, 56, NUL⟩ ∈ r.1)) = some true := by decide +kernel
  rw [stores] at outside
  have stored := of_decide_eq_true (Option.some.inj outside)
  exact absurd (inside _ stored) (by decide)

/-- All stores are in bounds unless a part that the parser goes on behind is as long as its array. -/
theorem partsInBounds_iff (s : CRtspSession) (q : Bytes) :
    PartsInBounds s q ↔ ∀ uri, uriOf (bufferOf q) = some uri → PartsFit uri := by
  have ends := terminated_bufferOf q
  have stores := uriStores_eq s ends
  rw [← storesOf_inside]
  constructor
  · rintro ⟨w, cur, made, inside, -⟩
    rw [stores] at made
    rw [Except.ok.inj made]
    exact inside
  · intro inside
    refine ⟨(storesOf (bufferOf q)).1, (storesOf (bufferOf q)).2, stores, inside, ?_⟩
    intro size t accepted array
    exact nul_after (storesOf_inside.mp inside) (accepted_passed ends accepted) array

end RtspServer
