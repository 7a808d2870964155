import RtspServer.Session.Requests

/-!
# Request texts

A request as its lines: a request line, header lines and the blank line that
ends it. The header block is followed to its end line by line.
-/

namespace RtspServer

/-- A line of a request, without its CRLF. -/
structure Line where
  bytes : Bytes
  nonempty : bytes ≠ []
  plain : ∀ c ∈ bytes, IsPlain c
  deriving DecidableEq

structure RequestText where
  line : Line
  headers : List Line
  deriving DecidableEq

def linesText (lines : List Bytes) : Bytes := lines.flatMap (· ++ CRLF)

namespace RequestText

def block (t : RequestText) : List Bytes := t.headers.map Line.bytes ++ [[]]

def bytes (t : RequestText) : Bytes := t.line.bytes ++ CRLF ++ linesText t.block

def method (t : RequestText) : RTSP_CMD_TYPES := recognise t.line.bytes

/-- The digits of a header line `name: digits`. -/
def numberOf (name l : Bytes) : Bytes := ((l.drop name.length).dropWhile isblank).takeWhile isdigit

/-- The value of the `CSeq` header. -/
def cseq (t : RequestText) : Option Nat :=
  (t.headers.find? fun l => ascii "CSeq:" <+: l.bytes).map fun l => digitsValue (numberOf (ascii "CSeq:") l.bytes)

end RequestText

/-- Requests to run the model on. -/
def optionRequest : RequestText :=
  ⟨⟨ascii "OPTIONS rtsp://h/p/s RTSP/1.0", by decide, by decide +kernel⟩,
    [⟨ascii "CSeq: 2", by decide, by decide +kernel⟩]⟩

def teardownRequest : RequestText :=
  ⟨⟨ascii "TEARDOWN rtsp://h/p/s RTSP/1.0", by decide, by decide +kernel⟩,
    [⟨ascii "CSeq: 3", by decide, by decide +kernel⟩]⟩

def unknownRequest : RequestText :=
  ⟨⟨ascii "RECORD rtsp://h/p/s RTSP/1.0", by decide, by decide +kernel⟩,
    [⟨ascii "CSeq: 9", by decide, by decide +kernel⟩]⟩

theorem linesText_cons (l : Bytes) (lines : List Bytes) :
    linesText (l :: lines) = l ++ CRLF ++ linesText lines := rfl

theorem linesText_append (xs ys : List Bytes) : linesText (xs ++ ys) = linesText xs ++ linesText ys :=
  List.flatMap_append

theorem block_plain (t : RequestText) : ∀ l ∈ t.block, ∀ c ∈ l, IsPlain c := by
  intro l member c char
  rcases List.mem_append.mp member with header | blank
  · obtain ⟨line, -, rfl⟩ := List.mem_map.mp header
    exact line.plain c char
  · rw [List.mem_singleton.mp blank] at char
    exact absurd char List.not_mem_nil

/-! ### Prefixes of a line -/

theorem prefix_line {word l rest : Bytes} {c : UInt8} (absent : c ∉ word) : word <+: l ++ c :: rest ↔ word <+: l := by
  constructor
  · rintro ⟨t, same⟩
    rcases List.append_eq_append_iff.mp same with ⟨gap, rfl, -⟩ | ⟨gap, rfl, later⟩
    · exact List.prefix_append word gap
    · match gap, later with
      | [], _ => rw [List.append_nil]
      | d :: gap, later =>
        rw [(List.cons.inj later).1] at absent
        exact absurd (List.mem_append_right l List.mem_cons_self) absent
  · exact fun h => h.trans (List.prefix_append l _)

theorem not_prefix_crlf {l : Bytes} (nonempty : l ≠ []) (plain : ∀ c ∈ l, IsPlain c) (rest : Bytes) :
    ¬ CRLF <+: l ++ rest := by
  match l, nonempty with
  | c :: l, _ =>
    intro h
    exact (plain c List.mem_cons_self).2.1 (List.cons_prefix_cons.mp h).1.symm

theorem recognise_line (l : Line) (rest : Bytes) : recognise (l.bytes ++ CRLF ++ rest) = recognise l.bytes := by
  have first : ∀ rest : Bytes, (if CRLF <+: l.bytes ++ rest then (l.bytes ++ rest).drop 2 else l.bytes ++ rest) =
      l.bytes ++ rest := fun rest => if_neg (not_prefix_crlf l.nonempty l.plain rest)
  have whole := first []
  rw [List.append_nil] at whole
  unfold recognise
  rw [List.append_assoc, first, whole]
  have same : ∀ word : Bytes, CR ∉ word → (word <+: l.bytes ++ (CRLF ++ rest) ↔ word <+: l.bytes) :=
    fun word absent => prefix_line absent
  simp only [same _ (show CR ∉ ascii "OPTIONS " by decide), same _ (show CR ∉ ascii "DESCRIBE " by decide),
    same _ (show CR ∉ ascii "SETUP " by decide), same _ (show CR ∉ ascii "PLAY " by decide),
    same _ (show CR ∉ ascii "TEARDOWN " by decide)]

/-! ### Where CRLFs stand -/

theorem crlf_split {l front rest back : Bytes} (plain : ∀ c ∈ l, IsPlain c)
    (same : l ++ (CRLF ++ rest) = front ++ (CRLF ++ back)) :
    (front = l ∧ back = rest) ∨ ∃ gap, front = l ++ CRLF ++ gap ∧ rest = gap ++ (CRLF ++ back) := by
  rcases List.append_eq_append_iff.mp same with ⟨gap, rfl, later⟩ | ⟨gap, rfl, later⟩
  · match gap, later with
    | [], later => exact .inl ⟨List.append_nil l, (List.append_cancel_left later).symm⟩
    | [c], later =>
      have second : LF = CR := (List.cons.inj (List.cons.inj later).2).1
      exact absurd second (by decide)
    | c :: d :: gap, later =>
      have head : CR = c := (List.cons.inj later).1
      have second : LF = d := (List.cons.inj (List.cons.inj later).2).1
      subst head second
      exact .inr ⟨gap, by rw [List.append_assoc]; rfl, (List.cons.inj (List.cons.inj later).2).2⟩
  · match gap, later with
    | [], later => exact .inl ⟨(List.append_nil front).symm, List.append_cancel_left later⟩
    | c :: gap, later =>
      have head : CR = c := (List.cons.inj later).1
      exact absurd head.symm (plain c (List.mem_append_right front List.mem_cons_self)).2.1

/-- An empty line comes only at the end. -/
theorem blank_line_last {lines : List Line} {front back : Bytes} (l : Line)
    (same : linesText ((l :: lines).map Line.bytes ++ [[]]) = front ++ (CRLF ++ (CRLF ++ back))) : back = [] := by
  induction lines generalizing l front with
  | nil =>
    have inner : l.bytes ++ (CRLF ++ CRLF) = front ++ (CRLF ++ (CRLF ++ back)) := by
      rw [← same, ← List.append_assoc]
      rfl
    rcases crlf_split l.plain inner with ⟨-, last⟩ | ⟨gap, -, rest⟩
    · exact (List.append_cancel_left (last.trans (List.append_nil CRLF).symm))
    · have length := congrArg List.length rest
      simp only [List.length_append, List.length_cons, List.length_nil] at length
      omega
  | cons next lines ih =>
    have inner : l.bytes ++ (CRLF ++ linesText ((next :: lines).map Line.bytes ++ [[]])) =
        front ++ (CRLF ++ (CRLF ++ back)) := by
      rw [← same, ← List.append_assoc]
      rfl
    rcases crlf_split l.plain inner with ⟨-, last⟩ | ⟨gap, -, rest⟩
    · have first : CRLF ++ back = next.bytes ++ (CRLF ++ linesText (lines.map Line.bytes ++ [[]])) := by
        rw [last, ← List.append_assoc]
        rfl
      exact absurd ⟨back, first⟩ (not_prefix_crlf next.nonempty next.plain _)
    · exact ih next rest

theorem RequestText.clean (t : RequestText) : NUL ∉ t.bytes := by
  intro member
  rcases List.mem_append.mp member with line | block
  · rcases List.mem_append.mp line with line | crlf
    · exact (t.line.plain NUL line).1 rfl
    · exact absurd crlf (by decide)
  · obtain ⟨l, inside, char⟩ := List.mem_flatMap.mp block
    rcases List.mem_append.mp char with char | crlf
    · exact (block_plain t l inside NUL char).1 rfl
    · exact absurd crlf (by decide)

theorem RequestText.ended (t : RequestText) : CRLF ++ CRLF <:+ t.bytes := by
  have last : t.line.bytes ++ CRLF ++ linesText t.block =
      t.line.bytes ++ (CRLF ++ linesText (t.headers.map Line.bytes)) ++ CRLF := by
    rw [RequestText.block, linesText_append]
    simp only [List.append_assoc]
    rfl
  have crlf : CRLF <:+ CRLF ++ linesText (t.headers.map Line.bytes) := by
    rcases List.eq_nil_or_concat t.headers with none | ⟨headers, l, some⟩
    · rw [none]
      exact List.suffix_refl _
    · rw [some, List.concat_eq_append, List.map_append, linesText_append]
      have one : linesText ([l].map Line.bytes) = l.bytes ++ CRLF := List.append_nil _
      exact ⟨CRLF ++ linesText (headers.map Line.bytes) ++ l.bytes, by simp only [one, List.append_assoc]⟩
  obtain ⟨front, same⟩ := crlf
  rw [RequestText.bytes, last, ← same]
  exact ⟨t.line.bytes ++ front, by simp only [List.append_assoc]⟩

end RtspServer
