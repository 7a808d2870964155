import RtspServer.Media.SimStreamer

/-!
# Splitting arbitrary bytes

`SelectNextNal` looks for a start code, skips zeros and one more byte, and
charges four bytes for what it skipped. `selectNextNal_block` says what it does on
any buffer; it stays inside the buffer and keeps its end exactly when a start
code stands at index 1.
-/

namespace RtspServer

/-- The `len` bytes from address `p` on as a block of their own. -/
def Segment.sub (m : Segment) (p len : Nat) : Segment := ⟨p, (m.bytes.drop (p - m.base)).take len⟩

/-- The call on the buffer `[v.buf, v.buf + v.size)` of `m` returns `w`, having read
nothing else. The unit found is inside the buffer, and what is left is shorter and
ends where the buffer ends. -/
structure SafeCall (m : Segment) (v w : NalSelection) : Prop where
  call : selectNextNal m v = some w
  inside : selectNextNal (m.sub v.buf v.size.toNat) v = some w
  nonneg : 0 ≤ w.r_len
  above : v.buf ≤ w.r
  below : w.r + w.r_len ≤ v.buf + v.size
  progress : w.size < v.size
  ends : w.buf + w.size = v.buf + v.size

/-- Every call from `v` on is safe, and the calls reach `size <= 0`. -/
inductive SafeRun (m : Segment) : NalSelection → Prop where
  | done {v : NalSelection} (exhausted : v.size ≤ 0) : SafeRun m v
  | step {v w : NalSelection} (positive : 0 < v.size) (safe : SafeCall m v w) (rest : SafeRun m w) : SafeRun m v

/-- A start code at index 1, and a zero in front of every later one. A start code at
the very end, with no byte behind it, does not count. -/
structure FourByteCodes (t : Bytes) : Prop where
  room : 5 ≤ t.length
  front : CodeAt t 1
  later : ∀ j, 1 < j → j + 3 < t.length → CodeAt t j → t[j - 1]? = some 0

theorem SafeRun.selectAll {m : Segment} {v : NalSelection} (h : SafeRun m v) :
    ∃ fuel found final, selectAll m fuel v = some (found, final) ∧ final.size ≤ 0 := by
  induction h with
  | done exhausted => exact ⟨0, [], _, if_pos exhausted, exhausted⟩
  | @step v w positive safe _ ih =>
    obtain ⟨fuel, found, final, run, exhausted⟩ := ih
    refine ⟨fuel + 1, (w.r, w.r_len) :: found, final, ?_, exhausted⟩
    rw [RtspServer.selectAll, if_neg (by omega), safe.call]
    simp only [Option.bind_eq_bind, Option.bind_some, run]
    rfl

/-! ### One call -/

variable {m : Segment} {t : Bytes} {v w : NalSelection}

theorem Segment.Holds.sub {p : Nat} (h : m.Holds p t) : m.sub p t.length = ⟨p, t⟩ := by
  obtain ⟨before, bytes, rfl⟩ := h
  rw [Segment.sub, bytes, Nat.add_sub_cancel_left, List.drop_left, List.take_length]

theorem Segment.Holds.drop {p : Nat} (h : m.Holds p t) {k : Nat} (le : k ≤ t.length) : m.Holds (p + k) (t.drop k) := by
  rw [← List.take_append_drop k t] at h
  have later := h.advance
  rwa [List.length_take_of_le le] at later

theorem Segment.Holds.skip {p i : Nat} (h : m.Holds p t) (hit : CodeAt t i) (code : StartCode)
    (here : t.drop (i + 3 - code.bytes.length) = code.bytes ++ t.drop (i + 3)) (le : code.bytes.length ≤ i + 3) :
    skipStartcode m (p + (i + 3 - code.bytes.length)) = some (p + (i + 3)) := by
  have inside : i + 2 < t.length := by
    obtain ⟨some, -⟩ := List.getElem?_eq_some_iff.mp hit.2.2
    exact some
  have holds := h.drop (k := i + 3 - code.bytes.length) (by omega)
  rw [here] at holds
  rw [skipStartcode_code code holds]
  congr 1
  omega

theorem skip_boundary {i : Nat} (h : m.Holds v.buf t) (room : i + 3 < t.length) (hit : CodeAt t i)
    (first : ∀ j < i, ¬ CodeAt t j) : skipStartcode m (v.buf + boundary t) = some (v.buf + (i + 3)) := by
  rcases boundary_cases t with ⟨none, -⟩ | ⟨i', room', hit', first', same⟩
  · exact absurd hit (none i room)
  obtain rfl : i' = i := by
    rcases Nat.lt_trichotomy i' i with lt | eq | lt
    · exact absurd hit' (first i' lt)
    · exact eq
    · exact absurd hit (first' i lt)
  rw [same]
  split
  · rename_i zero
    obtain ⟨positive, zero⟩ := zero
    refine h.skip hit .four ?_ (by show 4 ≤ _; omega)
    show t.drop (i' - 1) = _
    rw [List.drop_eq_getElem?_toList_append, zero, Nat.sub_add_cancel positive, hit.drop]
    rfl
  · exact h.skip hit .three hit.drop (by show 3 ≤ _; omega)

/-- What the call does when the first start code of the buffer stands at `i`. -/
theorem selectNextNal_block {i : Nat} (h : m.Holds v.buf t) (size : v.size = t.length) (notNull : v.buf ≠ 0)
    (room : i + 3 < t.length) (hit : CodeAt t i) (first : ∀ j < i, ¬ CodeAt t j) :
    selectNextNal m v = some {
      buf := v.buf + (i + 3) + boundary (t.drop (i + 3))
      size := v.size - boundary (t.drop (i + 3)) - 4
      r := v.buf + (i + 3)
      r_len := boundary (t.drop (i + 3)) } := by
  have limit := h.limit
  have behind := h.drop (k := i + 3) (by omega)
  have last : v.buf + v.size.toNat = m.limit := by omega
  have start := find_startcode_boundary h limit.symm
  have next := find_startcode_boundary behind behind.limit.symm
  rw [selectNextNal_iff notNull (by omega), last]
  refine ⟨_, _, _, start, skip_boundary h room hit first, next, ?_⟩
  simp only [NalSelection.mk.injEq]
  exact ⟨trivial, by omega, trivial, by omega⟩

/-- Without a start code the loop that skips it reads at the end of the buffer. -/
theorem selectNextNal_codeless (h : m.Holds v.buf t) (size : v.size = t.length) (notNull : v.buf ≠ 0)
    (nonempty : t ≠ []) (none : ∀ i, i + 3 < t.length → ¬ CodeAt t i) : selectNextNal m v = Option.none := by
  have limit := h.limit
  have positive := List.length_pos_of_ne_nil nonempty
  have last : v.buf + v.size.toNat = m.limit := by omega
  have start : ff_avc_find_startcode m v.buf m.limit = some m.limit :=
    find_startcode_miss h (by omega) fun i lt => none i (by omega)
  have skip : skipStartcode m m.limit = Option.none := by
    rw [skipStartcode, Segment.limit, if_pos (Nat.le_add_right ..), Nat.add_sub_cancel_left, List.drop_length]
    rfl
  refine Option.eq_none_iff_forall_ne_some.mpr fun w call => ?_
  rw [selectNextNal_iff notNull (by omega), last] at call
  obtain ⟨p, r, r1, found, skipped, -⟩ := call
  obtain rfl := Option.some.inj (start.symm.trans found)
  exact Option.some_ne_none r (skipped.symm.trans skip)

theorem boundary_le (t : Bytes) : boundary t ≤ t.length := by
  rcases boundary_cases t with ⟨-, same⟩ | ⟨i, room, -, -, same⟩
  · exact Nat.le_of_eq same
  · rw [same]; split <;> omega

theorem not_codeAt_below {j : Nat} (front : CodeAt t 1) (lt : j < 4) (ne : j ≠ 1) : ¬ CodeAt t j := by
  obtain ⟨-, h2, h3⟩ := front
  rintro ⟨c0, c1, c2⟩
  match j, lt with
  | 0, _ => exact absurd (h2.symm.trans c2) (by decide)
  | 2, _ => exact absurd (h3.symm.trans c1) (by decide)
  | 3, _ => exact absurd (h3.symm.trans c0) (by decide)

/-- A safe call leaves what stands behind its unit. -/
theorem SafeCall.next (h : m.Holds v.buf t) (size : v.size = t.length) (notNull : v.buf ≠ 0)
    (room : 5 ≤ t.length) (front : CodeAt t 1) :
    ∃ w, SafeCall m v w ∧ m.Holds w.buf (t.drop (4 + boundary (t.drop 4))) ∧
      w.size = (t.drop (4 + boundary (t.drop 4))).length ∧ w.buf ≠ 0 := by
  have first : ∀ j < 1, ¬ CodeAt t j := fun j lt => not_codeAt_below front (by omega) (by omega)
  have within := boundary_le (t.drop 4)
  rw [List.length_drop] at within
  have alone := selectNextNal_block (Segment.holds_base ⟨v.buf, t⟩) (v := v) size notNull (i := 1) room front first
  have sub : m.sub v.buf v.size.toNat = ⟨v.buf, t⟩ := by rw [size, Int.toNat_natCast, h.sub]
  refine ⟨_, ⟨selectNextNal_block h size notNull (by omega) front first, ?_, ?_, ?_, ?_, ?_, ?_⟩, ?_, ?_, ?_⟩
  · rw [sub]; exact alone
  · exact Int.natCast_nonneg _
  · exact Nat.le_add_right ..
  · show ((v.buf + 4 : Nat) : Int) + (boundary (t.drop 4) : Nat) ≤ _
    omega
  · show v.size - (boundary (t.drop 4) : Nat) - 4 < _
    omega
  · show ((v.buf + 4 + boundary (t.drop 4) : Nat) : Int) + (v.size - (boundary (t.drop 4) : Nat) - 4) = _
    omega
  · show m.Holds (v.buf + 4 + boundary (t.drop 4)) _
    rw [Nat.add_assoc]
    exact h.drop (by omega)
  · show v.size - (boundary (t.drop 4) : Nat) - 4 = _
    rw [List.length_drop]
    omega
  · show v.buf + 4 + boundary (t.drop 4) ≠ 0
    omega

theorem SafeCall.front (h : m.Holds v.buf t) (size : v.size = t.length) (notNull : v.buf ≠ 0)
    (nonempty : t ≠ []) (safe : SafeCall m v w) : 5 ≤ t.length ∧ CodeAt t 1 := by
  rcases boundary_cases t with ⟨none, -⟩ | ⟨i, room, hit, first, -⟩
  · exact absurd (safe.call.symm.trans (selectNextNal_codeless h size notNull nonempty none)) (Option.some_ne_none w)
  · have result := Option.some.inj (safe.call.symm.trans (selectNextNal_block h size notNull room hit first))
    have ends := safe.ends
    rw [result] at ends
    simp only [] at ends
    obtain rfl : i = 1 := by omega
    exact ⟨room, hit⟩

/-- One call is safe exactly when a start code stands at index 1. -/
theorem safeCall_iff (h : m.Holds v.buf t) (size : v.size = t.length) (notNull : v.buf ≠ 0) (nonempty : t ≠ []) :
    (∃ w, SafeCall m v w) ↔ 5 ≤ t.length ∧ CodeAt t 1 := by
  constructor
  · rintro ⟨w, safe⟩
    exact safe.front h size notNull nonempty
  · rintro ⟨room, front⟩
    obtain ⟨w, safe, -⟩ := SafeCall.next h size notNull room front
    exact ⟨w, safe⟩

/-! ### The calls over a file -/

theorem FourByteCodes.tail (h : FourByteCodes t) (more : t.drop (4 + boundary (t.drop 4)) ≠ []) :
    FourByteCodes (t.drop (4 + boundary (t.drop 4))) := by
  have positive := List.length_pos_of_ne_nil more
  rw [List.length_drop] at positive
  rcases boundary_cases (t.drop 4) with ⟨-, same⟩ | ⟨i, room, hit, first, same⟩
  · rw [List.length_drop] at same; omega
  rw [List.length_drop] at room
  have zero := h.later (4 + i) (by omega) (by omega) (codeAt_drop.mp hit)
  have inner : 0 < i := by
    rcases Nat.eq_zero_or_pos i with rfl | positive
    · exact absurd (h.front.2.2.symm.trans zero) (by decide)
    · exact positive
  rw [if_pos ⟨inner, by rw [List.getElem?_drop, ← Nat.add_sub_assoc inner]; exact zero⟩] at same
  rw [same]
  refine ⟨by rw [List.length_drop]; omega, ?_, fun j above below code => ?_⟩
  · rw [codeAt_drop, show 4 + (i - 1) + 1 = 4 + i by omega]
    exact codeAt_drop.mp hit
  · rw [List.length_drop] at below
    rw [List.getElem?_drop, ← Nat.add_sub_assoc (by omega : 1 ≤ j)]
    exact h.later _ (by omega) (by omega) (codeAt_drop.mp code)

theorem FourByteCodes.of_tail (room : 5 ≤ t.length) (front : CodeAt t 1)
    (tail : t.drop (4 + boundary (t.drop 4)) ≠ [] → FourByteCodes (t.drop (4 + boundary (t.drop 4)))) :
    FourByteCodes t := by
  refine ⟨room, front, fun j above below code => ?_⟩
  have behind : 4 ≤ j := by
    by_contra lt
    exact not_codeAt_below front (by omega) (by omega) code
  obtain ⟨k, rfl⟩ := Nat.exists_eq_add_of_le behind
  rcases boundary_cases (t.drop 4) with ⟨none, -⟩ | ⟨i, iroom, hit, first, same⟩
  · exact absurd (codeAt_drop.mpr code) (none k (by rw [List.length_drop]; omega))
  rw [List.length_drop] at iroom
  have order : i ≤ k := by
    by_contra lt
    exact first k (by omega) (codeAt_drop.mpr code)
  have rest := tail (List.ne_nil_of_length_pos (by
    rw [List.length_drop, same]; split <;> omega))
  -- The next call is safe, so the code it finds is not at index 0.
  have zero : 0 < i ∧ (t.drop 4)[i - 1]? = some 0 := by
    by_contra plain
    rw [if_neg plain] at same
    rw [same] at rest
    apply not_codeAt_below rest.front (j := 0) (by omega) (by omega)
    rw [codeAt_drop]
    show CodeAt t (4 + i)
    exact codeAt_drop.mp hit
  rw [if_pos zero] at same
  rcases Nat.eq_or_lt_of_le order with rfl | lt
  · rw [Nat.add_sub_assoc zero.1, ← List.getElem?_drop]
    exact zero.2
  · rw [same] at rest
    have later := rest.later (k - i + 1) (by omega) (by rw [List.length_drop]; omega)
      (by rw [codeAt_drop, show 4 + (i - 1) + (k - i + 1) = 4 + k by omega]; exact code)
    rwa [List.getElem?_drop, show 4 + (i - 1) + (k - i + 1 - 1) = 4 + k - 1 by omega] at later

theorem FourByteCodes.safeRun (codes : FourByteCodes t) (h : m.Holds v.buf t) (size : v.size = t.length)
    (notNull : v.buf ≠ 0) : SafeRun m v := by
  -- Each call leaves a shorter file that is in order again.
  induction length : t.length using Nat.strong_induction_on generalizing t v with
  | _ n ih =>
    have room := codes.room
    obtain ⟨w, safe, rest, left, wNotNull⟩ := SafeCall.next h size notNull codes.room codes.front
    apply SafeRun.step (by omega) safe
    by_cases more : t.drop (4 + boundary (t.drop 4)) = []
    · exact .done (by rw [left, more]; exact Int.le_refl 0)
    · exact ih _ (by rw [List.length_drop]; omega) (codes.tail more) rest left wNotNull rfl

theorem SafeRun.fourByteCodes (run : SafeRun m v) (h : m.Holds v.buf t) (size : v.size = t.length)
    (notNull : v.buf ≠ 0) (nonempty : t ≠ []) : FourByteCodes t := by
  induction run generalizing t with
  | done exhausted => exact absurd (List.length_pos_of_ne_nil nonempty) (by omega)
  | step positive safe _ ih =>
    obtain ⟨room, front⟩ := safe.front h size notNull nonempty
    obtain ⟨w, safe', rest, left, wNotNull⟩ := SafeCall.next h size notNull room front
    obtain rfl := Option.some.inj (safe'.call.symm.trans safe.call)
    exact .of_tail room front fun more => ih rest left wNotNull more

/-- On a buffer with any contents, one call is safe exactly when a start code stands
at index 1 with a byte behind it. The calls over a file are all safe, and finish,
exactly when moreover every later start code has a zero in front of it. -/
theorem selectNextNal_safe_iff (base : Nat) (t : Bytes) (r : Nat) (r_len : Int) (notNull : base ≠ 0) (nonempty : t ≠ []) :
    ((∃ w, SafeCall ⟨base, t⟩ ⟨base, t.length, r, r_len⟩ w) ↔ 5 ≤ t.length ∧ CodeAt t 1) ∧
      (SafeRun ⟨base, t⟩ ⟨base, t.length, r, r_len⟩ ↔ FourByteCodes t) := by
  have holds := Segment.holds_base ⟨base, t⟩
  exact ⟨safeCall_iff (v := ⟨base, t.length, r, r_len⟩) holds rfl notNull nonempty,
    fun run => run.fourByteCodes holds rfl notNull nonempty, fun codes => codes.safeRun holds rfl notNull⟩

/-- The file `00 00 00 01 40 01`. -/
theorem selectNextNal_safe_iff_one :
    ((∃ w, SafeCall ⟨4, [0, 0, 0, 1, 0x40, 1]⟩ ⟨4, 6, 0, 0⟩ w) ↔
        5 ≤ [0, 0, 0, 1, 0x40, (1 : UInt8)].length ∧ CodeAt [0, 0, 0, 1, 0x40, 1] 1) ∧
      (SafeRun ⟨4, [0, 0, 0, 1, 0x40, 1]⟩ ⟨4, 6, 0, 0⟩ ↔ FourByteCodes [0, 0, 0, 1, 0x40, 1]) :=
  selectNextNal_safe_iff 4 [0, 0, 0, 1, 0x40, 1] 0 0 (by decide) (by decide)

/-- A buffer of one byte that is no start code: the call reads behind it. -/
theorem not_safeCall_codeless : ¬ ∃ w, SafeCall ⟨4, [1]⟩ ⟨4, 1, 0, 0⟩ w := by
  rintro ⟨w, safe⟩
  have none : selectNextNal ⟨4, [1]⟩ ⟨4, 1, 0, 0⟩ = Option.none := rfl
  exact absurd (safe.call.symm.trans none) (Option.some_ne_none w)

end RtspServer
