import Mathlib.Tactic.IntervalCases
import RtspServer.Base.CString

/-!
# Decimal numbers

What `%u` and `%i` print: digits only, as many as the number needs, and `atoi`
reads the number back.
-/

namespace RtspServer

def digit (d : Nat) : UInt8 := UInt8.ofNat (48 + d)

theorem isdigit_digit {d : Nat} (small : d < 10) : isdigit (digit d) = true := by
  interval_cases d <;> rfl

theorem digit_value {d : Nat} (small : d < 10) : (digit d).toNat - 48 = d := by
  interval_cases d <;> rfl

theorem decimal_digit {n : Nat} (small : n < 10) : decimal n = [digit n] := by
  interval_cases n <;> rfl

theorem decimal_natCast (n : Nat) : decimal n = (Nat.toDigits 10 n).map fun c => c.toNat.toUInt8 := by
  rw [decimal, if_neg (Int.not_lt.mpr (Int.natCast_nonneg n)), Int.natAbs_natCast]

theorem decimal_step {n : Nat} (large : 10 ≤ n) : decimal n = decimal (n / 10 : Nat) ++ [digit (n % 10)] := by
  have last : (Nat.digitChar (n % 10)).toNat.toUInt8 = digit (n % 10) := by
    have small : n % 10 < 10 := Nat.mod_lt n (by decide)
    generalize n % 10 = d at small
    interval_cases d <;> rfl
  rw [decimal_natCast, decimal_natCast, Nat.toDigits_of_base_le (by decide) large, List.map_append, List.map_singleton, last]

theorem isdigit_decimal (n : Nat) : ∀ c ∈ decimal n, isdigit c = true := by
  induction n using Nat.strongRecOn with
  | ind n ih =>
    by_cases small : n < 10
    · rw [decimal_digit small]
      exact List.forall_mem_singleton.mpr (isdigit_digit small)
    · have large := Nat.le_of_not_lt small
      rw [decimal_step large]
      exact List.forall_mem_append.mpr ⟨ih (n / 10) (Nat.div_lt_self (by omega) (by decide)),
        List.forall_mem_singleton.mpr (isdigit_digit (Nat.mod_lt n (by decide)))⟩

theorem isPlain_of_isdigit {c : UInt8} (h : isdigit c = true) : IsPlain c := by
  refine ⟨?_, ?_, ?_⟩ <;>
  · rintro rfl
    exact absurd h (by decide)

theorem decimal_ne_nil (n : Nat) : decimal n ≠ [] := by
  by_cases small : n < 10
  · rw [decimal_digit small]
    exact List.cons_ne_nil _ _
  · rw [decimal_step (Nat.le_of_not_lt small)]
    exact List.append_ne_nil_of_right_ne_nil _ (List.cons_ne_nil _ _)

theorem digitsValue_concat (digits : Bytes) (d : UInt8) :
    digitsValue (digits ++ [d]) = 10 * digitsValue digits + (d.toNat - 48) := by
  rw [digitsValue, List.foldl_append]
  rfl

theorem digitsValue_decimal (n : Nat) : digitsValue (decimal n) = n := by
  induction n using Nat.strongRecOn with
  | ind n ih =>
    by_cases small : n < 10
    · rw [decimal_digit small]
      exact (Nat.zero_add _).trans (digit_value small)
    · rw [decimal_step (Nat.le_of_not_lt small), digitsValue_concat,
        ih (n / 10) (Nat.div_lt_self (by omega) (by decide)), digit_value (Nat.mod_lt n (by decide))]
      exact Nat.div_add_mod n 10

theorem decimal_length_le {n k : Nat} (positive : 0 < k) (bound : n < 10 ^ k) : (decimal n).length ≤ k := by
  induction k generalizing n with
  | zero => exact absurd positive (Nat.lt_irrefl 0)
  | succ k ih =>
    by_cases small : n < 10
    · rw [decimal_digit small]
      exact Nat.succ_le_succ (Nat.zero_le k)
    · have large := Nat.le_of_not_lt small
      have shorter : n / 10 < 10 ^ k := by
        rw [Nat.pow_succ] at bound
        exact Nat.div_lt_of_lt_mul (by rw [Nat.mul_comm]; exact bound)
      have more : 0 < k := by
        rcases Nat.eq_zero_or_pos k with rfl | more
        · exact absurd bound (by omega)
        · exact more
      rw [decimal_step large, List.length_append, List.length_singleton]
      exact Nat.succ_le_succ (ih more shorter)

theorem atoi_lt (digits : Bytes) : atoi digits < 2 ^ 31 := by
  unfold atoi
  have bound := @Int.bmod_lt (min (digitsValue digits) (2 ^ 63 - 1) : Nat) (2 ^ 32) (by decide)
  omega

/-- `atoi` is exact on the numbers that an `int` can hold. -/
theorem atoi_exact {digits : Bytes} : atoi digits = digitsValue digits ↔ digitsValue digits < 2 ^ 31 := by
  constructor
  · intro exact'
    have bound := atoi_lt digits
    omega
  · intro small
    have le : digitsValue digits ≤ 2 ^ 63 - 1 := Nat.le_trans (Nat.le_of_lt small) (by decide)
    unfold atoi
    rw [Nat.min_eq_left le]
    exact Int.bmod_eq_of_le_mul_two (by omega) (by omega)

theorem atoi_small {digits : Bytes} (small : digitsValue digits < 2 ^ 31) :
    (UInt32.ofInt (atoi digits)).toNat = digitsValue digits := by
  have value := atoi_exact.mpr small
  have mod : ((digitsValue digits : Int) % 2 ^ 32).toNat = digitsValue digits := by omega
  have range : digitsValue digits < 2 ^ 32 := Nat.lt_trans small (by decide)
  rw [value, UInt32.ofInt, mod, UInt32.toNat_ofNat_of_lt' range]

end RtspServer
