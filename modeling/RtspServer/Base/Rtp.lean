import RtspServer.Base.Bytes

/-!
# RTP packets

Big-endian fields and the fixed RTP header of RFC 3550.
-/

namespace RtspServer.Rtp

/-- The two bytes of a 16-bit field in network order. -/
def bytes16 (x : UInt16) : Bytes := [(x >>> 8).toUInt8, x.toUInt8]

def bytes32 (x : UInt32) : Bytes := bytes16 (x >>> 16).toUInt16 ++ bytes16 x.toUInt16

def read16 (hi lo : UInt8) : UInt16 := UInt16.ofNat (hi.toNat * 256 + lo.toNat)

def read32 (b3 b2 b1 b0 : UInt8) : UInt32 :=
  UInt32.ofNat ((read16 b3 b2).toNat * 65536 + (read16 b1 b0).toNat)

/-- A packet with neither padding, extension nor contributing sources. -/
structure Packet where
  marker : Bool
  payloadType : UInt8
  seq : UInt16
  timestamp : UInt32
  ssrc : UInt32
  payload : Bytes
  deriving DecidableEq

/-- Version 2 and P, X and CC all zero make the first byte `80`. -/
def parse : Bytes → Option Packet
  | b0 :: b1 :: s1 :: s0 :: t3 :: t2 :: t1 :: t0 :: c3 :: c2 :: c1 :: c0 :: payload =>
    if b0 = 0x80 then
      some {
        marker := 0x80 ≤ b1
        payloadType := b1 &&& 0x7f
        seq := read16 s1 s0
        timestamp := read32 t3 t2 t1 t0
        ssrc := read32 c3 c2 c1 c0
        payload }
    else none
  | _ => none

theorem bytes16_eq (x : UInt16) : bytes16 x = [UInt8.ofNat (x.toNat / 256), UInt8.ofNat x.toNat] := by
  have high : (x >>> 8).toUInt8 = UInt8.ofNat (x.toNat / 256) := by
    apply UInt8.toNat.inj
    rw [UInt16.toNat_toUInt8, UInt16.toNat_shiftRight, UInt8.toNat_ofNat']
    simp [Nat.shiftRight_eq_div_pow]
  have low : x.toUInt8 = UInt8.ofNat x.toNat := by
    apply UInt8.toNat.inj
    rw [UInt16.toNat_toUInt8, UInt8.toNat_ofNat']
  rw [bytes16, high, low]

@[simp] theorem bytes16_length (x : UInt16) : (bytes16 x).length = 2 := rfl

@[simp] theorem bytes32_length (x : UInt32) : (bytes32 x).length = 4 := rfl

theorem read16_bytes16 (x : UInt16) :
    read16 (UInt8.ofNat (x.toNat / 256)) (UInt8.ofNat x.toNat) = x := by
  apply UInt16.toNat.inj
  have bound := x.toNat_lt
  rw [read16, UInt16.toNat_ofNat', UInt8.toNat_ofNat', UInt8.toNat_ofNat']
  omega

theorem read16_toNat (hi lo : UInt8) : (read16 hi lo).toNat = hi.toNat * 256 + lo.toNat := by
  have := hi.toNat_lt
  have := lo.toNat_lt
  rw [read16, UInt16.toNat_ofNat']
  omega

theorem bytes32_read (x : UInt32) :
    ∃ b3 b2 b1 b0, bytes32 x = [b3, b2, b1, b0] ∧ read32 b3 b2 b1 b0 = x := by
  refine ⟨_, _, _, _, by rw [bytes32, bytes16_eq, bytes16_eq]; rfl, ?_⟩
  rw [read32, read16_bytes16, read16_bytes16]
  apply UInt32.toNat.inj
  have bound := x.toNat_lt
  rw [UInt32.toNat_ofNat', UInt32.toNat_toUInt16, UInt32.toNat_toUInt16, UInt32.toNat_shiftRight]
  simp only [Nat.shiftRight_eq_div_pow, UInt32.reduceToNat, Nat.reduceMod, Nat.reducePow]
  omega

theorem parse_fixed (b1 : UInt8) (seq : UInt16) (timestamp ssrc : UInt32) (payload : Bytes) :
    parse ([0x80, b1] ++ bytes16 seq ++ bytes32 timestamp ++ bytes32 ssrc ++ payload) =
      some ⟨0x80 ≤ b1, b1 &&& 0x7f, seq, timestamp, ssrc, payload⟩ := by
  obtain ⟨t3, t2, t1, t0, ts, readTs⟩ := bytes32_read timestamp
  obtain ⟨c3, c2, c1, c0, src, readSrc⟩ := bytes32_read ssrc
  rw [bytes16_eq, ts, src]
  simp only [List.cons_append, List.nil_append, parse, if_true, readTs, readSrc, read16_bytes16]

/-! ### Interleaved frames -/

/-- The frame on `channel` at the front of a stream: `$`, the channel and a 16-bit length in
front of the packet. -/
def readInterleaved (channel : UInt8) : Bytes → Option (Bytes × Bytes)
  | dollar :: ch :: hi :: lo :: rest =>
    let n := (read16 hi lo).toNat
    if dollar = 0x24 ∧ ch = channel ∧ n ≤ rest.length then some (rest.take n, rest.drop n) else none
  | _ => none

theorem readInterleaved_frame (channel : UInt8) {n : Nat} {packet : Bytes} (length : packet.length = n) (small : n < 65536)
    (rest : Bytes) :
    readInterleaved channel (0x24 :: channel :: UInt8.ofNat (n / 256) :: UInt8.ofNat n :: packet ++ rest) = some (packet, rest) := by
  have read : (read16 (UInt8.ofNat (n / 256)) (UInt8.ofNat n)).toNat = n := by
    rw [read16_toNat, UInt8.toNat_ofNat', UInt8.toNat_ofNat']
    omega
  have room : n ≤ (packet ++ rest).length := by
    rw [List.length_append, length]
    exact Nat.le_add_right _ _
  simp only [List.cons_append, readInterleaved, read]
  rw [if_pos ⟨trivial, trivial, room⟩, ← length, List.take_left, List.drop_left]

/-! ### Receivers -/

/-- The S and E bits of an FU header next to a type field `t`, and the type field behind them. -/
theorem fuHeader_bits {t : UInt8} (low : t &&& 0x3f = t) :
    t &&& 0x80 = 0 ∧ t &&& 0x40 = 0 ∧ t &&& 0xc0 ≠ 0xc0 ∧
    (t ||| 0x80) &&& 0x80 ≠ 0 ∧ (t ||| 0x80) &&& 0x40 = 0 ∧
    (t ||| 0x80) &&& 0xc0 ≠ 0xc0 ∧ (t ||| 0x80) &&& 0x7f = t ∧
    t &&& 0x7f = t ∧ (t ||| 0x40) &&& 0x80 = 0 ∧
    (t ||| 0x40) &&& 0x40 ≠ 0 ∧ (t ||| 0x40) &&& 0xc0 ≠ 0xc0 := by
  have all : ∀ t : BitVec 8, t &&& 0x3f#8 = t →
      t &&& 0x80#8 = 0#8 ∧ t &&& 0x40#8 = 0#8 ∧ t &&& 0xc0#8 ≠ 0xc0#8 ∧
      (t ||| 0x80#8) &&& 0x80#8 ≠ 0#8 ∧ (t ||| 0x80#8) &&& 0x40#8 = 0#8 ∧
      (t ||| 0x80#8) &&& 0xc0#8 ≠ 0xc0#8 ∧ (t ||| 0x80#8) &&& 0x7f#8 = t ∧
      t &&& 0x7f#8 = t ∧ (t ||| 0x40#8) &&& 0x80#8 = 0#8 ∧
      (t ||| 0x40#8) &&& 0x40#8 ≠ 0#8 ∧ (t ||| 0x40#8) &&& 0xc0#8 ≠ 0xc0#8 := by
    decide
  simp only [← UInt8.toBitVec_inj, ne_eq] at low ⊢
  exact all t.toBitVec low

section

variable {σ : Type} (receive : σ → Bytes → Option (σ × List Bytes))

/-- The units a receiver puts out for a run of payloads, and its state afterwards. -/
def receiveAll : σ → List Bytes → Option (σ × List Bytes)
  | s, [] => some (s, [])
  | s, p :: ps => do
    let (s, units) ← receive s p
    let (s, more) ← receiveAll s ps
    return (s, units ++ more)

variable {receive} {s t u : σ} {ps qs xs ys : List Bytes}

theorem receiveAll_append (first : receiveAll receive s ps = some (t, xs))
    (second : receiveAll receive t qs = some (u, ys)) : receiveAll receive s (ps ++ qs) = some (u, xs ++ ys) := by
  induction ps generalizing s xs with
  | nil =>
    simp only [receiveAll, Option.some.injEq, Prod.mk.injEq] at first
    obtain ⟨rfl, rfl⟩ := first
    exact second
  | cons p ps ih =>
    simp only [receiveAll, Option.bind_eq_bind, Option.bind_eq_some_iff, Option.pure_def,
      Option.some.injEq, Prod.mk.injEq] at first
    obtain ⟨⟨s', units⟩, head, ⟨s'', more⟩, tail, rfl, rfl⟩ := first
    simp only [List.cons_append, receiveAll, head, Option.bind_eq_bind, Option.bind_some, ih tail,
      Option.pure_def, List.append_assoc]

theorem receiveAll_split {zs : List Bytes} (h : receiveAll receive s (ps ++ qs) = some (u, zs)) :
    ∃ t xs ys, receiveAll receive s ps = some (t, xs) ∧ receiveAll receive t qs = some (u, ys) ∧ zs = xs ++ ys := by
  induction ps generalizing s zs with
  | nil => exact ⟨s, [], zs, rfl, h, rfl⟩
  | cons p ps ih =>
    simp only [List.cons_append, receiveAll, Option.bind_eq_bind, Option.bind_eq_some_iff, Option.pure_def,
      Option.some.injEq, Prod.mk.injEq] at h
    obtain ⟨⟨s', units⟩, head, ⟨s'', more⟩, tail, rfl, rfl⟩ := h
    obtain ⟨t, xs, ys, first, second, rfl⟩ := ih tail
    refine ⟨t, units ++ xs, ys, ?_, second, (List.append_assoc ..).symm⟩
    simp only [receiveAll, head, Option.bind_eq_bind, Option.bind_some, first, Option.pure_def]

theorem receiveAll_one {p : Bytes} (h : receive s p = some (t, xs)) : receiveAll receive s [p] = some (t, xs) := by
  simp [receiveAll, h]

end

end RtspServer.Rtp
