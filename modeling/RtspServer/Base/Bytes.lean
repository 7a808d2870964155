import Mathlib.Algebra.Group.Int.Defs
import Mathlib.Algebra.Group.Nat.Defs
import Mathlib.Data.List.Basic
import Mathlib.Data.List.Infix

/-!
# Bytes, arrays and memory

Byte strings, fixed-size `uint8_t` arrays with bounds-checked writes, and
blocks of memory that are read by address. An access outside the array or the
block has no value.
-/

namespace RtspServer

abbrev Bytes := List UInt8

/-- The bytes of an ASCII literal. -/
def ascii (s : String) : Bytes := s.toList.map fun c => c.toNat.toUInt8

theorem ascii_length (s : String) : (ascii s).length = s.toList.length := List.length_map _

/-- An array of `n` bytes. -/
structure Buffer (n : Nat) where
  bytes : Bytes
  size_eq : bytes.length = n
  deriving DecidableEq

namespace Buffer

variable {n : Nat}

def zero (n : Nat) : Buffer n := ⟨List.replicate n 0, List.length_replicate⟩

/-- `memcpy(&b[off], src, src.length)`, undefined when it leaves the array. -/
def write (b : Buffer n) (off : Nat) (src : Bytes) : Option (Buffer n) :=
  if h : off + src.length ≤ n then
    some ⟨b.bytes.take off ++ src ++ b.bytes.drop (off + src.length), by
      have := b.size_eq
      simp only [List.length_append, List.length_take, List.length_drop]
      omega⟩
  else none

def front (b : Buffer n) (len : Nat) : Option Bytes :=
  if len ≤ n then some (b.bytes.take len) else none

/-- `b[i] = f(b[i])` -/
def update (b : Buffer n) (i : Nat) (f : UInt8 → UInt8) : Option (Buffer n) := do
  b.write i [f (← b.bytes[i]?)]

theorem write_ok {off : Nat} {src : Bytes} (b : Buffer n) (h : off + src.length ≤ n) :
    ∃ b' : Buffer n, b.write off src = some b' ∧
      b'.bytes = b.bytes.take off ++ src ++ b.bytes.drop (off + src.length) :=
  ⟨_, dif_pos h, rfl⟩

theorem front_ok {len : Nat} (b : Buffer n) (h : len ≤ n) : b.front len = some (b.bytes.take len) :=
  if_pos h

theorem write_bytes {off : Nat} {src : Bytes} {b b' : Buffer n} (h : b.write off src = some b') :
    off + src.length ≤ n ∧
      b'.bytes = b.bytes.take off ++ src ++ b.bytes.drop (off + src.length) := by
  unfold write at h
  split at h
  · rename_i fits
    obtain rfl := Option.some.inj h
    exact ⟨fits, rfl⟩
  · cases h

theorem take_write {off : Nat} {src front : Bytes} {b b' : Buffer n}
    (known : b.bytes.take off = front) (h : b.write off src = some b') :
    b'.bytes.take (off + src.length) = front ++ src := by
  obtain ⟨fits, bytes⟩ := write_bytes h
  have size := b.size_eq
  have prefixed : (b.bytes.take off ++ src).length = off + src.length := by
    simp only [List.length_append, List.length_take]; omega
  rw [bytes, List.take_append_of_le_length (by omega), List.take_of_length_le (by omega), known]

theorem take_write_of_le {off k : Nat} {src : Bytes} {b b' : Buffer n} (below : k ≤ off)
    (h : b.write off src = some b') : b'.bytes.take k = b.bytes.take k := by
  obtain ⟨fits, bytes⟩ := write_bytes h
  have size := b.size_eq
  rw [bytes, List.append_assoc, List.take_append_of_le_length (by rw [List.length_take]; omega),
    List.take_take, Nat.min_eq_left below]

theorem update_ok {front back : Bytes} {c : UInt8} {b : Buffer n} (f : UInt8 → UInt8)
    (known : b.bytes = front ++ c :: back) :
    ∃ b' : Buffer n, b.update front.length f = some b' ∧ b'.bytes = front ++ f c :: back := by
  have size := b.size_eq
  rw [known, List.length_append, List.length_cons] at size
  have read : b.bytes[front.length]? = some c := by
    rw [known, List.getElem?_append_right (Nat.le_refl _), Nat.sub_self]; rfl
  obtain ⟨b', written, bytes⟩ := write_ok b (show front.length + [f c].length ≤ n by simp; omega)
  refine ⟨b', by rw [update, read]; exact written, ?_⟩
  rw [bytes, known, List.take_left, List.length_singleton, List.append_assoc, ← List.drop_drop,
    List.drop_left]
  rfl

end Buffer

/-- A block of memory: the address of its first byte, and its bytes. -/
structure Segment where
  base : Nat
  bytes : Bytes

namespace Segment

/-- One past the last address of the block. -/
def limit (m : Segment) : Nat := m.base + m.bytes.length

def read (m : Segment) (p : Nat) : Option UInt8 :=
  if m.base ≤ p then m.bytes[p - m.base]? else none

/-- The `len` bytes from address `p` on. An empty slice reads nothing. -/
def slice (m : Segment) (p len : Nat) : Option Bytes :=
  if len = 0 ∨ m.base ≤ p ∧ p + len ≤ m.limit then some ((m.bytes.drop (p - m.base)).take len) else none

/-- `m` holds the bytes `t` from address `p` to its limit. -/
def Holds (m : Segment) (p : Nat) (t : Bytes) : Prop :=
  ∃ before, m.bytes = before ++ t ∧ p = m.base + before.length

theorem holds_base (m : Segment) : m.Holds m.base m.bytes := ⟨[], rfl, rfl⟩

variable {m : Segment} {p : Nat}

theorem Holds.advance {s t : Bytes} (h : m.Holds p (s ++ t)) : m.Holds (p + s.length) t := by
  obtain ⟨before, bytes, rfl⟩ := h
  exact ⟨before ++ s, by rw [bytes, List.append_assoc], by simp [Nat.add_assoc]⟩

theorem Holds.limit {t : Bytes} (h : m.Holds p t) : m.limit = p + t.length := by
  obtain ⟨before, bytes, rfl⟩ := h
  simp [Segment.limit, bytes, Nat.add_assoc]

theorem Holds.read {t : Bytes} (h : m.Holds p t) (i : Nat) : m.read (p + i) = t[i]? := by
  obtain ⟨before, bytes, rfl⟩ := h
  rw [Segment.read, if_pos (by omega), bytes, List.getElem?_append_right (by omega)]
  congr 1
  omega

theorem Holds.slice {s t : Bytes} (h : m.Holds p (s ++ t)) : m.slice p s.length = some s := by
  have limit := h.limit
  obtain ⟨before, bytes, rfl⟩ := h
  rw [List.length_append] at limit
  rw [Segment.slice, if_pos (Or.inr ⟨by omega, by omega⟩), bytes, Nat.add_sub_cancel_left, List.drop_left,
    List.take_left]

theorem read_isSome_iff : (m.read p).isSome ↔ m.base ≤ p ∧ p < m.limit := by
  unfold Segment.read Segment.limit
  split
  · simp only [isSome_getElem?]; omega
  · simp; omega

end Segment

end RtspServer
