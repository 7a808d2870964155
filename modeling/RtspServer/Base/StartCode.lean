import Mathlib.Data.List.Infix
import RtspServer.Base.Bytes

/-!
# Start codes

The byte pattern `00 00 01` that separates the units of an Annex B stream, in
lists and in memory.
-/

namespace RtspServer

/-- `00 00 01` stands at index `i` of `t`. -/
def CodeAt (t : Bytes) (i : Nat) : Prop :=
  t[i]? = some 0 ∧ t[i + 1]? = some 0 ∧ t[i + 2]? = some 1

instance (t : Bytes) (i : Nat) : Decidable (CodeAt t i) := inferInstanceAs (Decidable (_ ∧ _))

/-- `00 00 01` stands at address `p`. -/
def Segment.codeAt (m : Segment) (p : Nat) : Bool :=
  m.read p == some 0 && m.read (p + 1) == some 0 && m.read (p + 2) == some 1

/-- A unit as it may stand between start codes. -/
structure IsNal (nal : Bytes) : Prop where
  two_le : 2 ≤ nal.length
  codeless : ¬ [0, 0, 1] <:+: nal
  ends : nal.getLast? ≠ some 0

instance (nal : Bytes) : Decidable (IsNal nal) :=
  decidable_of_iff (2 ≤ nal.length ∧ ¬ [0, 0, 1] <:+: nal ∧ nal.getLast? ≠ some 0)
    ⟨fun ⟨a, b, c⟩ => ⟨a, b, c⟩, fun ⟨a, b, c⟩ => ⟨a, b, c⟩⟩

/-- A unit that may stand between start codes, however short it is. -/
structure IsUnit (nal : Bytes) : Prop where
  nonempty : nal ≠ []
  codeless : ¬ [0, 0, 1] <:+: nal
  ends : nal.getLast? ≠ some 0

instance (nal : Bytes) : Decidable (IsUnit nal) :=
  decidable_of_iff (nal ≠ [] ∧ ¬ [0, 0, 1] <:+: nal ∧ nal.getLast? ≠ some 0)
    ⟨fun ⟨a, b, c⟩ => ⟨a, b, c⟩, fun ⟨a, b, c⟩ => ⟨a, b, c⟩⟩

theorem IsNal.isUnit {nal : Bytes} (h : IsNal nal) : IsUnit nal :=
  ⟨List.ne_nil_of_length_pos (Nat.lt_of_lt_of_le Nat.zero_lt_two h.two_le), h.codeless, h.ends⟩

/-- A start code: three bytes, or four with a leading zero. -/
inductive StartCode where
  | three | four
  deriving DecidableEq

def StartCode.bytes : StartCode → Bytes
  | .three => [0, 0, 1]
  | .four => [0, 0, 0, 1]

/-- The offset of the first start code of a text, or its length when there is none: `00 00 01` with
a byte behind it, and with the zero in front of it. -/
def boundary (t : Bytes) : Nat :=
  match (List.range (t.length - 3)).find? fun i => CodeAt t i with
  | none => t.length
  | some i => if 0 < i ∧ t[i - 1]? = some 0 then i - 1 else i

/-- A start code and the unit it announces. -/
structure NalUnit where
  code : StartCode
  nal : Bytes
  deriving DecidableEq

def NalUnit.bytes (u : NalUnit) : Bytes := u.code.bytes ++ u.nal

/-- The byte stream of a list of units. -/
def annexB (us : List NalUnit) : Bytes := us.flatMap NalUnit.bytes

theorem annexB_cons (u : NalUnit) (us : List NalUnit) : annexB (u :: us) = u.bytes ++ annexB us := rfl

theorem codeAt_iff {m : Segment} {p : Nat} {t : Bytes} (h : m.Holds p t) (i : Nat) :
    m.codeAt (p + i) = true ↔ CodeAt t i := by
  simp only [Segment.codeAt, Nat.add_assoc, h.read, CodeAt, Bool.and_eq_true, beq_iff_eq, and_assoc]

theorem CodeAt.drop {t : Bytes} {i : Nat} (h : CodeAt t i) : t.drop i = StartCode.three.bytes ++ t.drop (i + 3) := by
  obtain ⟨h0, h1, h2⟩ := h
  rw [List.drop_eq_getElem?_toList_append, h0, List.drop_eq_getElem?_toList_append, h1,
    List.drop_eq_getElem?_toList_append, h2]
  rfl

theorem infix_of_codeAt {t : Bytes} {i : Nat} (h : CodeAt t i) : [0, 0, 1] <:+: t := by
  refine ⟨t.take i, t.drop (i + 3), ?_⟩
  calc t.take i ++ [0, 0, 1] ++ t.drop (i + 3)
      = t.take i ++ t.drop i := by rw [h.drop, List.append_assoc]; rfl
    _ = t := List.take_append_drop i t

theorem codeAt_drop {t : Bytes} {k i : Nat} : CodeAt (t.drop k) i ↔ CodeAt t (k + i) := by
  simp only [CodeAt, List.getElem?_drop, Nat.add_assoc]

/-- No start code begins inside a unit, whatever follows it. -/
theorem IsUnit.not_codeAt {nal : Bytes} (h : IsUnit nal) (rest : Bytes) {i : Nat} (lt : i < nal.length) :
    ¬ CodeAt (nal ++ rest) i := by
  rintro ⟨h0, h1, h2⟩
  have last := h.ends
  rw [List.getLast?_eq_getElem?] at last
  rw [List.getElem?_append_left lt] at h0
  by_cases inner : i + 2 < nal.length
  · rw [List.getElem?_append_left (by omega)] at h1 h2
    exact h.codeless (infix_of_codeAt ⟨h0, h1, h2⟩)
  · -- The pattern reaches over the last byte, which is not zero.
    by_cases edge : i + 1 < nal.length
    · rw [List.getElem?_append_left edge] at h1
      exact last (by rw [show nal.length - 1 = i + 1 by omega]; exact h1)
    · exact last (by rw [show nal.length - 1 = i by omega]; exact h0)

theorem codeAt_three (rest : Bytes) : CodeAt (StartCode.three.bytes ++ rest) 0 := ⟨rfl, rfl, rfl⟩

theorem codeAt_four (rest : Bytes) : CodeAt (StartCode.four.bytes ++ rest) 1 := ⟨rfl, rfl, rfl⟩

theorem not_codeAt_four (rest : Bytes) : ¬ CodeAt (StartCode.four.bytes ++ rest) 0 :=
  fun h => absurd h.2.2 (by simp [StartCode.bytes])

theorem codeAt_append_right {s t : Bytes} {i : Nat} (h : CodeAt t i) : CodeAt (s ++ t) (s.length + i) := by
  obtain ⟨h0, h1, h2⟩ := h
  refine ⟨?_, ?_, ?_⟩ <;> rw [List.getElem?_append_right (by omega)]
  · rw [Nat.add_sub_cancel_left]; exact h0
  · rw [show s.length + i + 1 - s.length = i + 1 by omega]; exact h1
  · rw [show s.length + i + 2 - s.length = i + 2 by omega]; exact h2

theorem codeAt_append_left {s t : Bytes} {i : Nat} (inside : i + 2 < s.length) : CodeAt (s ++ t) i ↔ CodeAt s i := by
  unfold CodeAt
  rw [List.getElem?_append_left (by omega), List.getElem?_append_left (by omega), List.getElem?_append_left inside]

theorem codeAt_of_append_right {s t : Bytes} {i : Nat} (h : CodeAt (s ++ t) (s.length + i)) :
    CodeAt t i := by
  obtain ⟨h0, h1, h2⟩ := h
  rw [List.getElem?_append_right (by omega)] at h0 h1 h2
  refine ⟨?_, ?_, ?_⟩
  · rwa [Nat.add_sub_cancel_left] at h0
  · rwa [show s.length + i + 1 - s.length = i + 1 by omega] at h1
  · rwa [show s.length + i + 2 - s.length = i + 2 by omega] at h2

/-- Where the boundary is: at the end, or at the first start code. -/
theorem boundary_cases (t : Bytes) :
    (∀ i, i + 3 < t.length → ¬ CodeAt t i) ∧ boundary t = t.length ∨
      ∃ i, i + 3 < t.length ∧ CodeAt t i ∧ (∀ j < i, ¬ CodeAt t j) ∧
        boundary t = if 0 < i ∧ t[i - 1]? = some 0 then i - 1 else i := by
  unfold boundary
  match found : (List.range (t.length - 3)).find? fun i => CodeAt t i with
  | none =>
    rw [List.find?_range_eq_none] at found
    refine .inl ⟨fun i room => ?_, rfl⟩
    simpa using found i (by omega)
  | some i =>
    rw [List.find?_range_eq_some] at found
    obtain ⟨hit, member, first⟩ := found
    rw [List.mem_range] at member
    refine .inr ⟨i, by omega, of_decide_eq_true hit, fun j lt => ?_, rfl⟩
    simpa using first j lt

end RtspServer
