import RtspServer.Base.StartCode

/-!
# The start code search of AVC.cpp

`ff_avc_find_startcode` looks for the next start code a byte at a time up to an
aligned address, then a word at a time, then a byte at a time again.
`find_internal_eq` shows that the three phases compute one plain scan.
-/

namespace RtspServer

/-- `p[0] == 0 && p[1] == 0 && p[2] == 1`. -/
def startcodeTest (m : Segment) (p : Nat) : Option Bool := do
  if (← m.read p) ≠ 0 then return false
  if (← m.read (p + 1)) ≠ 0 then return false
  return (← m.read (p + 2)) == 1

/-- `for (; p < end; p++)` with `n = end - p` iterations to go: the first hit. -/
def scanBytes (m : Segment) (p : Nat) : Nat → Option (Option Nat)
  | 0 => some none
  | n + 1 => do
    if ← startcodeTest m p then return some p
    scanBytes m (p + 1) n

/-- `*(const uint32_t*)p` on a little-endian machine. -/
def word (b0 b1 b2 b3 : UInt8) : UInt32 :=
  UInt32.ofNat (b0.toNat + 0x100 * b1.toNat + 0x10000 * b2.toNat + 0x1000000 * b3.toNat)

/-- `(x - 0x01010101) & (~x) & 0x80808080` -/
def zeroByteTest (x : UInt32) : UInt32 := (x - 0x01010101) &&& ~~~x &&& 0x80808080

/-- One iteration of the word loop. -/
def scanWord (m : Segment) (p : Nat) : Option (Option Nat) := do
  let b0 ← m.read p
  let b1 ← m.read (p + 1)
  let b2 ← m.read (p + 2)
  let b3 ← m.read (p + 3)
  if zeroByteTest (word b0 b1 b2 b3) = 0 then return none
  if b1 = 0 then
    if b0 = 0 ∧ b2 = 1 then return some p
    if b2 = 0 ∧ b3 = 1 then return some (p + 1)
  if b3 = 0 then
    if b2 = 0 then
      if (← m.read (p + 4)) = 1 then return some (p + 2)
    if (← m.read (p + 4)) = 0 then
      if (← m.read (p + 5)) = 1 then return some (p + 3)
  return none

/-- `for (; p < end; p += 4)` with `n` iterations to go. -/
def scanWords (m : Segment) (p : Nat) : Nat → Option (Option Nat)
  | 0 => some none
  | n + 1 => do
    if let some q ← scanWord m p then return some q
    scanWords m (p + 4) n

/-- `last` is the parameter `end`. The three loops run up to `end - 3`, `end - 6`
and `end - 3`. -/
def ff_avc_find_startcode_internal (m : Segment) (p last : Nat) : Option Nat := do
  let a := p + 4 - p % 4
  let head := min a (last - 3) - p
  if let some q ← scanBytes m p head then return q
  let p := p + head
  let words := (last - 6 - p + 3) / 4
  if let some q ← scanWords m p words then return q
  let p := p + 4 * words
  if let some q ← scanBytes m p (last - 3 - p) then return q
  return last

def ff_avc_find_startcode (m : Segment) (p last : Nat) : Option Nat := do
  let out ← ff_avc_find_startcode_internal m p last
  if p < out ∧ out < last then
    if (← m.read (out - 1)) = 0 then return out - 1
  return out

/-! ### The plain scan -/

/-- The first start code among the `n` addresses from `p` on. -/
def plainScan (m : Segment) (p n : Nat) : Option Nat := (List.range' p n).find? m.codeAt

theorem plainScan_add (m : Segment) (p a b : Nat) :
    plainScan m p (a + b) = (plainScan m p a).or (plainScan m (p + a) b) := by
  simp only [plainScan, ← List.find?_append, List.range'_append_1]

theorem plainScan_succ (m : Segment) (p n : Nat) :
    plainScan m p (n + 1) = if m.codeAt p then some p else plainScan m (p + 1) n := by
  simp only [plainScan, List.range'_succ, List.find?_cons]
  cases m.codeAt p <;> rfl

/-- The addresses from `p` up to `last` can be read. -/
def Readable (m : Segment) (p last : Nat) : Prop := m.base ≤ p ∧ last ≤ m.limit

theorem Readable.read {m : Segment} {p last q : Nat} (h : Readable m p last) (ge : p ≤ q) (lt : q < last) :
    ∃ b, m.read q = some b :=
  Option.isSome_iff_exists.mp (Segment.read_isSome_iff.mpr ⟨Nat.le_trans h.1 ge, Nat.lt_of_lt_of_le lt h.2⟩)

theorem Readable.mono {m : Segment} {p q last : Nat} (h : Readable m p last) (ge : p ≤ q) :
    Readable m q last := ⟨Nat.le_trans h.1 ge, h.2⟩

theorem startcodeTest_eq {m : Segment} {p last : Nat} (h : Readable m p last) (room : p + 2 < last) :
    startcodeTest m p = some (m.codeAt p) := by
  obtain ⟨b0, r0⟩ := h.read (q := p) (Nat.le_refl p) (by omega)
  obtain ⟨b1, r1⟩ := h.read (q := p + 1) (by omega) (by omega)
  obtain ⟨b2, r2⟩ := h.read (q := p + 2) (by omega) (by omega)
  unfold startcodeTest Segment.codeAt
  simp only [r0, r1, r2, Option.bind_eq_bind, Option.bind_some, Option.pure_def]
  by_cases h0 : b0 = 0 <;> by_cases h1 : b1 = 0 <;> simp [h0, h1]

theorem scanBytes_eq {m : Segment} {p last : Nat} (n : Nat) (h : Readable m p last) (room : p + n + 2 ≤ last) :
    scanBytes m p n = some (plainScan m p n) := by
  induction n generalizing p with
  | zero => rfl
  | succ n ih =>
    rw [scanBytes, startcodeTest_eq h (by omega), ih (h.mono (Nat.le_succ p)) (by omega), plainScan_succ]
    cases m.codeAt p <;> rfl

/-! ### The word loop

The borrow test finds every zero byte: bit 7 of the lowest zero byte survives. -/

theorem word_toNat (b0 b1 b2 b3 : UInt8) :
    (word b0 b1 b2 b3).toNat = b0.toNat + 0x100 * b1.toNat + 0x10000 * b2.toNat + 0x1000000 * b3.toNat := by
  have := b0.toNat_lt
  have := b1.toNat_lt
  have := b2.toNat_lt
  have := b3.toNat_lt
  exact UInt32.toNat_ofNat_of_lt' (by simp only [UInt32.size]; omega)

theorem zeroByteTest_testBit (x : UInt32) (i : Nat) :
    (zeroByteTest x).toNat.testBit i =
      (decide ((2 ^ 32 - 0x01010101 + x.toNat) % 2 ^ 32 / 2 ^ i % 2 = 1) &&
        decide ((2 ^ 32 - 1 - x.toNat) / 2 ^ i % 2 = 1) && Nat.testBit 0x80808080 i) := by
  unfold zeroByteTest
  rw [UInt32.toNat_and, UInt32.toNat_and, Nat.testBit_and, Nat.testBit_and, UInt32.toNat_sub,
    UInt32.toNat_not]
  simp only [Nat.testBit_eq_decide_div_mod_eq]
  rfl

/-- A word that passes the test for "no zero byte" has none. -/
theorem zeroByteTest_complete {b0 b1 b2 b3 : UInt8} (h : zeroByteTest (word b0 b1 b2 b3) = 0) :
    b0 ≠ 0 ∧ b1 ≠ 0 ∧ b2 ≠ 0 ∧ b3 ≠ 0 := by
  have bits : ∀ i, (zeroByteTest (word b0 b1 b2 b3)).toNat.testBit i = false := by
    intro i; rw [h]; exact Nat.zero_testBit i
  simp only [zeroByteTest_testBit, word_toNat, Bool.and_eq_false_iff, decide_eq_false_iff_not] at bits
  have bound0 := b0.toNat_lt
  have bound1 := b1.toNat_lt
  have bound2 := b2.toNat_lt
  have bound3 := b3.toNat_lt
  have nonzero : ∀ b : UInt8, b.toNat ≠ 0 → b ≠ 0 := by rintro b hb rfl; exact hb rfl
  have n0 : b0.toNat ≠ 0 := by
    rcases bits 7 with (bit | bit) | bit
    · omega
    · omega
    · exact absurd bit (by decide)
  have n1 : b1.toNat ≠ 0 := by
    rcases bits 15 with (bit | bit) | bit
    · omega
    · omega
    · exact absurd bit (by decide)
  have n2 : b2.toNat ≠ 0 := by
    rcases bits 23 with (bit | bit) | bit
    · omega
    · omega
    · exact absurd bit (by decide)
  have n3 : b3.toNat ≠ 0 := by
    rcases bits 31 with (bit | bit) | bit
    · omega
    · omega
    · exact absurd bit (by decide)
  exact ⟨nonzero _ n0, nonzero _ n1, nonzero _ n2, nonzero _ n3⟩

theorem scanWord_eq {m : Segment} {p last : Nat} (h : Readable m p last) (room : p + 5 < last) :
    scanWord m p = some (plainScan m p 4) := by
  obtain ⟨b0, r0⟩ := h.read (q := p) (Nat.le_refl p) (by omega)
  obtain ⟨b1, r1⟩ := h.read (q := p + 1) (by omega) (by omega)
  obtain ⟨b2, r2⟩ := h.read (q := p + 2) (by omega) (by omega)
  obtain ⟨b3, r3⟩ := h.read (q := p + 3) (by omega) (by omega)
  obtain ⟨b4, r4⟩ := h.read (q := p + 4) (by omega) (by omega)
  obtain ⟨b5, r5⟩ := h.read (q := p + 5) (by omega) (by omega)
  have scan : plainScan m p 4 =
      if b0 = 0 ∧ b1 = 0 ∧ b2 = 1 then some p
      else if b1 = 0 ∧ b2 = 0 ∧ b3 = 1 then some (p + 1)
      else if b2 = 0 ∧ b3 = 0 ∧ b4 = 1 then some (p + 2)
      else if b3 = 0 ∧ b4 = 0 ∧ b5 = 1 then some (p + 3)
      else none := by
    rw [plainScan_succ, plainScan_succ, plainScan_succ, plainScan_succ]
    simp only [Segment.codeAt, Nat.add_assoc, Nat.reduceAdd, r0, r1, r2, r3, r4, r5,
      Option.some_beq_some, Bool.and_eq_true, beq_iff_eq, and_assoc]
    rfl
  rw [scan]
  unfold scanWord
  simp only [r0, r1, r2, r3, r4, r5, Option.bind_eq_bind, Option.bind_some, Option.pure_def]
  by_cases test : zeroByteTest (word b0 b1 b2 b3) = 0
  · -- Every one of the four patterns begins with a zero byte of the word.
    obtain ⟨n0, n1, n2, n3⟩ := zeroByteTest_complete test
    simp [test, n0, n1, n2, n3]
  · simp only [test, if_false]
    grind

theorem scanWords_eq {m : Segment} {p last : Nat} (n : Nat) (h : Readable m p last)
    (room : n = 0 ∨ p + 4 * n + 2 ≤ last) : scanWords m p n = some (plainScan m p (4 * n)) := by
  induction n generalizing p with
  | zero => rfl
  | succ n ih =>
    rw [scanWords, scanWord_eq h (by omega), ih (h.mono (by omega)) (by omega),
      show 4 * (n + 1) = 4 + 4 * n by omega, plainScan_add]
    cases plainScan m p 4 <;> rfl

/-- The three phases together are one scan of the addresses below `last - 3`. -/
theorem find_internal_eq {m : Segment} {p last : Nat} (h : Readable m p last) :
    ff_avc_find_startcode_internal m p last =
      some ((plainScan m p (last - 3 - p)).getD last) := by
  unfold ff_avc_find_startcode_internal
  extract_lets a head p1 words p2
  have headLe : head = 0 ∨ p + head + 3 ≤ last := by omega
  have wordsLe : words = 0 ∨ p1 + 4 * words + 3 ≤ last := by omega
  have split : last - 3 - p = head + (4 * words + (last - 3 - p2)) := by omega
  have r1 : Readable m p1 last := h.mono (by omega)
  have r2 : Readable m p2 last := h.mono (by omega)
  rw [split, plainScan_add, plainScan_add]
  have scan1 : scanBytes m p head = some (plainScan m p head) := by
    rcases headLe with zero | le
    · rw [zero]; rfl
    · exact scanBytes_eq head h (by omega)
  have scan2 : scanWords m p1 words = some (plainScan m p1 (4 * words)) :=
    scanWords_eq words r1 (by omega)
  have scan3 : scanBytes m p2 (last - 3 - p2) = some (plainScan m p2 (last - 3 - p2)) := by
    by_cases empty : last - 3 - p2 = 0
    · rw [empty]; rfl
    · exact scanBytes_eq _ r2 (by omega)
  rw [scan1, scan2, scan3]
  show _ = some (((plainScan m p head).or ((plainScan m p1 (4 * words)).or
    (plainScan m p2 (last - 3 - p2)))).getD last)
  cases plainScan m p head with
  | some q => rfl
  | none =>
    cases plainScan m p1 (4 * words) with
    | some q => rfl
    | none => cases plainScan m p2 (last - 3 - p2) <;> rfl

/-! ### The search over a known byte string -/

variable {m : Segment} {p last : Nat}

theorem plainScan_hit {t : Bytes} {i n : Nat} (h : m.Holds p t) (lt : i < n) (hit : CodeAt t i)
    (first : ∀ j < i, ¬ CodeAt t j) : plainScan m p n = some (p + i) := by
  rw [plainScan, List.find?_range'_eq_some]
  refine ⟨(codeAt_iff h i).mpr hit, ?_, ?_⟩
  · rw [List.mem_range'_1]; omega
  · intro j ge below
    obtain ⟨k, rfl⟩ := Nat.exists_eq_add_of_le ge
    rw [Bool.not_eq_eq_eq_not, Bool.not_true, Bool.eq_false_iff, ne_eq, codeAt_iff h]
    exact first k (by omega)

theorem plainScan_miss {t : Bytes} {n : Nat} (h : m.Holds p t) (miss : ∀ i < n, ¬ CodeAt t i) :
    plainScan m p n = none := by
  rw [plainScan, List.find?_range'_eq_none]
  intro j ge below
  obtain ⟨k, rfl⟩ := Nat.exists_eq_add_of_le ge
  rw [Bool.not_eq_eq_eq_not, Bool.not_true, Bool.eq_false_iff, ne_eq, codeAt_iff h]
  exact miss k (by omega)

theorem plainScan_lt {n q : Nat} (h : plainScan m p n = some q) : p ≤ q ∧ q < p + n := by
  have member := List.mem_of_find?_eq_some h
  rwa [List.mem_range'_1] at member

theorem Segment.Holds.readable {t : Bytes} (h : m.Holds p t) (inside : last ≤ m.limit) : Readable m p last := by
  obtain ⟨before, -, rfl⟩ := h
  exact ⟨Nat.le_add_right .., inside⟩

theorem find_startcode_le (h : Readable m p last) :
    ∃ q, ff_avc_find_startcode m p last = some q ∧ q ≤ last := by
  have internal := find_internal_eq h
  unfold ff_avc_find_startcode
  rw [internal]
  simp only [Option.bind_eq_bind, Option.bind_some]
  cases scan : plainScan m p (last - 3 - p) with
  | none => exact ⟨last, by simp, Nat.le_refl last⟩
  | some q =>
    obtain ⟨ge, lt⟩ := plainScan_lt scan
    simp only [Option.getD_some]
    by_cases inner : p < q ∧ q < last
    · obtain ⟨b, read⟩ := h.read (q := q - 1) (by omega) (by omega)
      rw [if_pos inner, read]
      by_cases zero : b = 0
      · exact ⟨q - 1, by simp [zero], by omega⟩
      · exact ⟨q, by simp [zero], by omega⟩
    · exact ⟨q, by simp [inner], by omega⟩

theorem find_startcode_miss {t : Bytes} (h : m.Holds p t) (inside : last ≤ p + t.length)
    (miss : ∀ i, p + i + 3 < last → ¬ CodeAt t i) : ff_avc_find_startcode m p last = some last := by
  have readable : Readable m p last := h.readable (by rw [h.limit]; exact inside)
  unfold ff_avc_find_startcode
  rw [find_internal_eq readable, plainScan_miss h (fun i lt => miss i (by omega))]
  simp

/-- The search stops at the first code, or at the zero byte in front of it. -/
theorem find_startcode_hit {t : Bytes} {i : Nat} (h : m.Holds p t) (inside : last ≤ m.limit) (room : p + i + 3 < last)
    (hit : CodeAt t i) (first : ∀ j < i, ¬ CodeAt t j) :
    ff_avc_find_startcode m p last = some (p + if 0 < i ∧ t[i - 1]? = some 0 then i - 1 else i) := by
  have readable : Readable m p last := h.readable inside
  unfold ff_avc_find_startcode
  rw [find_internal_eq readable, plainScan_hit h (n := last - 3 - p) (by omega) hit first]
  simp only [Option.getD_some, Option.bind_eq_bind, Option.bind_some]
  by_cases inner : 0 < i
  · have previous : m.read (p + i - 1) = t[i - 1]? := by
      rw [show p + i - 1 = p + (i - 1) by omega]
      exact h.read (i - 1)
    obtain ⟨b, read⟩ := readable.read (q := p + i - 1) (by omega) (by omega)
    rw [if_pos (by omega), read]
    rw [previous] at read
    by_cases zero : b = 0
    · rw [if_pos ⟨inner, by rw [read, zero]⟩]
      simp only [Option.bind_some, zero, if_true, Option.pure_def, Option.some.injEq]
      omega
    · rw [if_neg fun both => zero (Option.some.inj (read.symm.trans both.2))]
      simp [zero]
  · rw [if_neg (by omega), if_neg fun both => inner both.1]
    rfl

/-- The search over a block finds its boundary, and reads nothing outside the block. -/
theorem find_startcode_boundary {t : Bytes} (h : m.Holds p t) (limit : p + t.length = m.limit) :
    ff_avc_find_startcode m p m.limit = some (p + boundary t) := by
  rcases boundary_cases t with ⟨none, same⟩ | ⟨i, room, hit, first, same⟩
  · rw [find_startcode_miss h (Nat.le_of_eq limit.symm) fun i room => none i (by omega), same, limit]
  · rw [find_startcode_hit h (Nat.le_refl _) (by omega) hit first, same]

theorem find_startcode_here (code : StartCode) {rest : Bytes} (h : m.Holds p (code.bytes ++ rest))
    (inside : last ≤ m.limit) (room : p + code.bytes.length < last) :
    ff_avc_find_startcode m p last = some p := by
  cases code with
  | three =>
    have room : p + 3 < last := room
    exact find_startcode_hit h inside room (codeAt_three rest) (by omega)
  | four =>
    have room : p + 4 < last := room
    have first : ∀ j < 1, ¬ CodeAt (StartCode.four.bytes ++ rest) j := by
      intro j lt
      obtain rfl := Nat.lt_one_iff.mp lt
      exact not_codeAt_four rest
    exact find_startcode_hit h inside (by omega) (codeAt_four rest) first

theorem find_startcode_next {nal rest : Bytes} (code : StartCode) (unit : IsUnit nal)
    (h : m.Holds p (nal ++ (code.bytes ++ rest))) (inside : last ≤ m.limit)
    (room : p + nal.length + code.bytes.length < last) :
    ff_avc_find_startcode m p last = some (p + nal.length) := by
  have positive := List.length_pos_of_ne_nil unit.nonempty
  cases code with
  | three =>
    have room : p + nal.length + 3 < last := room
    have final : (nal ++ (StartCode.three.bytes ++ rest))[nal.length - 1]? ≠ some 0 := by
      rw [List.getElem?_append_left (Nat.sub_one_lt_of_lt positive), ← List.getLast?_eq_getElem?]
      exact unit.ends
    rw [find_startcode_hit h inside room (codeAt_append_right (codeAt_three rest)) fun j lt => unit.not_codeAt _ lt,
      if_neg fun both => final both.2]
  | four =>
    have room : p + nal.length + 4 < last := room
    have zero : (nal ++ (StartCode.four.bytes ++ rest))[nal.length]? = some 0 := by
      rw [List.getElem?_append_right (Nat.le_refl _), Nat.sub_self]
      rfl
    have first : ∀ j < nal.length + 1, ¬ CodeAt (nal ++ (StartCode.four.bytes ++ rest)) j := by
      intro j lt
      by_cases inner : j < nal.length
      · exact unit.not_codeAt _ inner
      · obtain rfl : j = nal.length + 0 := by omega
        exact fun hit => not_codeAt_four rest (codeAt_of_append_right hit)
    rw [find_startcode_hit h inside (by omega) (codeAt_append_right (codeAt_four rest)) first,
      if_pos ⟨Nat.succ_pos _, zero⟩, Nat.add_sub_cancel]

/-- Where the range ends within four bytes behind a unit, the search goes through to its end. -/
theorem find_startcode_short {nal rest : Bytes} (unit : IsUnit nal) (h : m.Holds p (nal ++ rest))
    (free : ¬ CodeAt rest 0) (inside : last ≤ m.limit) (short : last ≤ p + nal.length + 4) :
    ff_avc_find_startcode m p last = some last := by
  refine find_startcode_miss h (by rw [← h.limit]; exact inside) fun i room => ?_
  by_cases inner : i < nal.length
  · exact unit.not_codeAt rest inner
  · obtain rfl : i = nal.length + 0 := by omega
    exact fun hit => free (codeAt_of_append_right hit)

theorem find_startcode_last {nal : Bytes} (unit : IsUnit nal) (h : m.Holds p nal)
    (inside : last ≤ p + nal.length) : ff_avc_find_startcode m p last = some last :=
  find_startcode_short unit (by rwa [List.append_nil] : m.Holds p (nal ++ [])) (by simp [CodeAt])
    (by rw [h.limit]; exact inside) (by omega)

/-! ### The search over a range -/

/-- The first start code of `t` with a byte behind it is at index `i`. -/
structure FirstCode (t : Bytes) (i : Nat) : Prop where
  room : i + 3 < t.length
  code : CodeAt t i
  first : ∀ j < i, ¬ CodeAt t j

/-- What stands behind the range does not matter. -/
theorem find_startcode_range {t behind : Bytes} (h : m.Holds p (t ++ behind)) :
    ff_avc_find_startcode m p (p + t.length) = some (p + boundary t) := by
  have limit := h.limit
  rw [List.length_append] at limit
  rcases boundary_cases t with ⟨none, same⟩ | ⟨i, room, hit, first, same⟩
  · rw [same]
    apply find_startcode_miss h
    · rw [List.length_append]
      omega
    · intro i room
      rw [codeAt_append_left (by omega)]
      exact none i (by omega)
  · have hit' : CodeAt (t ++ behind) i := (codeAt_append_left (by omega)).mpr hit
    have first' : ∀ j < i, ¬ CodeAt (t ++ behind) j := by
      intro j lt
      rw [codeAt_append_left (by omega)]
      exact first j lt
    rw [find_startcode_hit h (by omega) (by omega) hit' first', same, List.getElem?_append_left (by omega)]

/-- The search of a range is the plain scan of it, at every address. It reads nothing outside the
range: it is the same in the memory that holds the range alone. -/
theorem find_startcode_scan (base : Nat) (before t behind : Bytes) :
    let p := base + before.length
    let found := ff_avc_find_startcode ⟨base, before ++ (t ++ behind)⟩ p (p + t.length)
    found = ff_avc_find_startcode ⟨p, t⟩ p (p + t.length) ∧
      ((∃ i, FirstCode t i ∧ found = some (p + if 0 < i ∧ t[i - 1]? = some 0 then i - 1 else i)) ∨
        (∀ i, i + 3 < t.length → ¬ CodeAt t i) ∧ found = some (p + t.length)) := by
  intro p found
  have inside : found = some (p + boundary t) := find_startcode_range ⟨before, rfl, rfl⟩
  have alone : ff_avc_find_startcode ⟨p, t⟩ p (p + t.length) = some (p + boundary t) := by
    have held : Segment.Holds ⟨p, t⟩ p (t ++ []) := by
      rw [List.append_nil]
      exact Segment.holds_base ⟨p, t⟩
    exact find_startcode_range held
  refine ⟨inside.trans alone.symm, ?_⟩
  rcases boundary_cases t with ⟨none, same⟩ | ⟨i, room, hit, first, same⟩
  · exact .inr ⟨none, by rw [inside, same]⟩
  · exact .inl ⟨i, ⟨room, hit, first⟩, by rw [inside, same]⟩

end RtspServer
