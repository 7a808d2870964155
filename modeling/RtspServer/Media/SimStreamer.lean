import RtspServer.Media.Avc

/-!
# Splitting the file into units

`SelectNextNal` as SimStreamer.cpp has it: the found boundary moves `buf`, the
unit's length plus four lowers `size`.
-/

namespace RtspServer

/-- What `SelectNextNal` takes by reference. -/
structure NalSelection where
  buf : Nat
  size : Int
  r : Nat
  r_len : Int
  deriving DecidableEq

/-- `while (!*(r++));` over the bytes that are left from `r` on. -/
def skipZeros (r : Nat) : Bytes → Option Nat
  | [] => none
  | b :: rest => if b = 0 then skipZeros (r + 1) rest else some (r + 1)

def skipStartcode (m : Segment) (r : Nat) : Option Nat :=
  if m.base ≤ r then skipZeros r (m.bytes.drop (r - m.base)) else none

def selectNextNal (m : Segment) (v : NalSelection) : Option NalSelection := do
  let last := v.buf + v.size.toNat
  if v.buf = 0 ∨ v.size ≤ 0 then return v
  let r ← ff_avc_find_startcode m v.buf last
  let r ← skipStartcode m r
  let r1 ← ff_avc_find_startcode m r last
  let r_len : Int := r1 - r
  return { buf := r1, size := v.size - r_len - 4, r, r_len }

/-- Iterating until `size <= 0`, at most `fuel` times: the units found, as
address and length, and the final `buf`. -/
def selectAll (m : Segment) : Nat → NalSelection → Option (List (Nat × Int) × NalSelection)
  | 0, v => if v.size ≤ 0 then some ([], v) else none
  | fuel + 1, v =>
    if v.size ≤ 0 then some ([], v)
    else do
      let v ← selectNextNal m v
      let (found, final) ← selectAll m fuel v
      return ((v.r, v.r_len) :: found, final)

variable {m : Segment} {p last : Nat}

theorem skipStartcode_code (code : StartCode) {rest : Bytes} (h : m.Holds p (code.bytes ++ rest)) :
    skipStartcode m p = some (p + code.bytes.length) := by
  obtain ⟨before, bytes, rfl⟩ := h
  rw [skipStartcode, if_pos (Nat.le_add_right ..), Nat.add_sub_cancel_left, bytes, List.drop_left]
  cases code <;> rfl

/-- A call finds a start code, skips it, and goes on to the next one. -/
theorem selectNextNal_iff {v w : NalSelection} (notNull : v.buf ≠ 0) (positive : 0 < v.size) :
    selectNextNal m v = some w ↔ ∃ p r r1, ff_avc_find_startcode m v.buf (v.buf + v.size.toNat) = some p ∧
      skipStartcode m p = some r ∧ ff_avc_find_startcode m r (v.buf + v.size.toNat) = some r1 ∧
      w = { buf := r1, size := v.size - ((r1 : Int) - r) - 4, r, r_len := (r1 : Int) - r } := by
  unfold selectNextNal
  rw [if_neg (by omega)]
  simp only [Option.bind_eq_bind, Option.bind_eq_some_iff]
  constructor
  · rintro ⟨p, start, r, skip, r1, next, result⟩
    exact ⟨p, r, r1, start, skip, next, (Option.some.inj result).symm⟩
  · rintro ⟨p, r, r1, start, skip, next, rfl⟩
    exact ⟨p, start, r, skip, r1, next, rfl⟩

theorem selectNextNal_inner {u next : NalUnit} {rest : Bytes} {v : NalSelection}
    (unit : IsNal u.nal) (h : m.Holds v.buf (u.bytes ++ (next.bytes ++ rest))) (notNull : v.buf ≠ 0)
    (positive : 0 < v.size) (inside : v.buf + v.size.toNat ≤ m.limit)
    (room : u.bytes.length + next.code.bytes.length < v.size.toNat) :
    selectNextNal m v = some {
      buf := v.buf + u.bytes.length
      size := v.size - u.nal.length - 4
      r := v.buf + u.code.bytes.length
      r_len := u.nal.length } := by
  rw [NalUnit.bytes, List.append_assoc] at h
  have start := find_startcode_here u.code h inside (by
    simp only [NalUnit.bytes, List.length_append] at room; omega)
  have skip := skipStartcode_code u.code h
  have next := find_startcode_next next.code unit.isUnit
    (by have := h.advance; rwa [NalUnit.bytes, List.append_assoc] at this) inside (by
      simp only [NalUnit.bytes, List.length_append] at room; omega)
  refine (selectNextNal_iff notNull positive).mpr ⟨_, _, _, start, skip, next, ?_⟩
  simp only [NalUnit.bytes, List.length_append, NalSelection.mk.injEq]
  exact ⟨by omega, by omega, trivial, by omega⟩

/-- Where `size` ends within four bytes behind the unit, or inside it, the call goes through to that end. -/
theorem selectNextNal_short {u : NalUnit} {rest : Bytes} {v : NalSelection} (unit : IsNal u.nal)
    (h : m.Holds v.buf (u.bytes ++ rest)) (free : ¬ CodeAt rest 0) (notNull : v.buf ≠ 0)
    (room : u.code.bytes.length < v.size.toNat) (inside : v.buf + v.size.toNat ≤ m.limit)
    (short : v.size.toNat ≤ u.bytes.length + 4) :
    selectNextNal m v = some {
      buf := v.buf + v.size.toNat
      size := u.code.bytes.length - 4
      r := v.buf + u.code.bytes.length
      r_len := v.size - u.code.bytes.length } := by
  rw [NalUnit.bytes, List.append_assoc] at h
  have total : u.bytes.length = u.code.bytes.length + u.nal.length := List.length_append
  have start := find_startcode_here u.code h inside (by omega)
  have skip := skipStartcode_code u.code h
  have next := find_startcode_short unit.isUnit h.advance free inside (by omega)
  refine (selectNextNal_iff notNull (by omega)).mpr ⟨_, _, _, start, skip, next, ?_⟩
  simp only [NalSelection.mk.injEq]
  exact ⟨trivial, by omega, trivial, by omega⟩

theorem selectNextNal_last {u : NalUnit} {v : NalSelection} (unit : IsNal u.nal)
    (h : m.Holds v.buf u.bytes) (notNull : v.buf ≠ 0) (size : v.size = u.bytes.length) :
    selectNextNal m v = some {
      buf := v.buf + u.bytes.length
      size := v.size - u.nal.length - 4
      r := v.buf + u.code.bytes.length
      r_len := u.nal.length } := by
  have two := unit.two_le
  have limit := h.limit
  have total : u.bytes.length = u.code.bytes.length + u.nal.length := List.length_append
  rw [selectNextNal_short unit (by rwa [List.append_nil] : m.Holds v.buf (u.bytes ++ [])) (by simp [CodeAt]) notNull
    (by omega) (by omega) (by omega), Option.some.injEq, NalSelection.mk.injEq]
  exact ⟨by omega, by omega, rfl, by omega⟩

theorem skipZeros_lt {l : Bytes} {r r' : Nat} (h : skipZeros r l = some r') : r < r' := by
  induction l generalizing r with
  | nil => cases h
  | cons b l ih =>
    rw [skipZeros] at h
    split at h
    · exact Nat.lt_of_succ_lt (ih h)
    · obtain rfl := Option.some.inj h
      exact Nat.lt_succ_self r

theorem skipStartcode_lt {r r' : Nat} (h : skipStartcode m r = some r') : m.base ≤ r ∧ r < r' := by
  unfold skipStartcode at h
  split at h
  · rename_i above
    exact ⟨above, skipZeros_lt h⟩
  · cases h

theorem selectNextNal_within {v w : NalSelection} (positive : 0 < v.size) (notNull : v.buf ≠ 0)
    (readable : Readable m v.buf (v.buf + v.size.toNat)) (h : selectNextNal m v = some w) :
    w.r + w.r_len = w.buf ∧ w.buf ≤ v.buf + v.size.toNat ∧ w.size = v.size - w.r_len - 4 := by
  obtain ⟨p, r, r1, -, skipped, found, rfl⟩ := (selectNextNal_iff notNull positive).mp h
  obtain ⟨above, beyond⟩ := skipStartcode_lt skipped
  have readable : Readable m r (v.buf + v.size.toNat) := ⟨by omega, readable.2⟩
  obtain ⟨q, search, le⟩ := find_startcode_le readable
  obtain rfl := Option.some.inj (search.symm.trans found)
  refine ⟨?_, le, rfl⟩
  show (r : Int) + ((q : Int) - r) = q
  omega

end RtspServer
