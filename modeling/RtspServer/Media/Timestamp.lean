import RtspServer.Media.Worker

/-!
# The timestamp of the streaming loop

`timestamp += 90000.0 / 30` forms the sum in double and converts it back. The language
leaves a value of 2^32 or more without a result; `Worker.iterate` is the loop on a
machine that takes it modulo 2^32.
-/

namespace RtspServer

/-- The conversion of a double that holds the integer `x` to `uint32_t`. -/
def doubleToUInt32 (x : Nat) : Option UInt32 := if x < 2 ^ 32 then some (UInt32.ofNat x) else none

/-- `Worker.iterate` with the conversion as a parameter. -/
def Worker.iterateWith (convert : Nat → Option UInt32) (stream : Segment) (w : Worker) : Option (Worker × List Bytes) := do
  let v ← selectNextNal stream ⟨w.stream_buf, w.stream_len_temp, 0, 0⟩
  let (ctx, fs) ← streamNal stream w.rtpMuxContext v.r v.r_len
  let ctx := { ctx with timestamp := ← convert (ctx.timestamp.toNat + 3000) }
  if v.size ≤ 0 then return (⟨stream.base, stream_len stream, ctx⟩, fs)
  else return (⟨v.buf, v.size, ctx⟩, fs)

def Worker.runWith (convert : Nat → Option UInt32) (stream : Segment) : Nat → Worker → Option (Worker × List Bytes)
  | 0, w => some (w, [])
  | n + 1, w => do
    let (w, fs) ← w.iterateWith convert stream
    let (w, gs) ← Worker.runWith convert stream n w
    return (w, fs ++ gs)

/-- The loop streams `n` NALs without a conversion out of range, and has `3000 * n`
modulo 2^32 for the next one. -/
def TimestampExact (stream : Segment) (ctx : RTPMuxContext) (n : Nat) : Prop :=
  ∃ w fs, (Worker.start stream ctx).runWith doubleToUInt32 stream n = some (w, fs) ∧
    w.rtpMuxContext.timestamp.toNat = 3000 * n % 2 ^ 32

section

variable {stream : Segment} {w w' : Worker} {fs : List Bytes}

theorem Worker.iterate_eq_iterateWith (stream : Segment) (w : Worker) :
    w.iterate stream = w.iterateWith (fun x => some (UInt32.ofNat x)) stream := by
  unfold Worker.iterate Worker.iterateWith
  refine bind_congr fun v => bind_congr fun ⟨ctx, fs⟩ => ?_
  have sum : UInt32.ofNat (ctx.timestamp.toNat + 3000) = ctx.timestamp + 3000 := by
    rw [UInt32.ofNat_add, UInt32.ofNat_toNat]
    rfl
  simp only [Option.bind_eq_bind, Option.bind_some, sum]

theorem streamNal_timestamp {ctx ctx' : RTPMuxContext} {nal : Nat} {nal_len : Int}
    (h : streamNal stream ctx nal nal_len = some (ctx', fs)) : ctx'.timestamp = ctx.timestamp := by
  unfold streamNal at h
  split at h
  · cases h
  · simp only [Option.bind_eq_bind, Option.bind_eq_some_iff] at h
    obtain ⟨bytes, -, send⟩ := h
    obtain ⟨payloads, sent, -⟩ := rtpSendNALH265_inv send
    exact sent.timestamp

/-- An iteration adds 3000 to the timestamp, and the conversion is defined when the sum is in range. -/
theorem Worker.iterateWith_iff : w.iterateWith doubleToUInt32 stream = some (w', fs) ↔
    w.iterate stream = some (w', fs) ∧ w.rtpMuxContext.timestamp.toNat + 3000 < 2 ^ 32 := by
  rw [Worker.iterate_eq_iterateWith]
  unfold Worker.iterateWith
  simp only [Option.bind_eq_bind, Option.bind_eq_some_iff, Prod.exists]
  constructor
  · rintro ⟨v, select, ctx, fs', send, t, converted, result⟩
    have same := streamNal_timestamp send
    unfold doubleToUInt32 at converted
    split at converted
    · rename_i small
      exact ⟨⟨v, select, ctx, fs', send, t, converted, result⟩, same ▸ small⟩
    · cases converted
  · rintro ⟨⟨v, select, ctx, fs', send, t, converted, result⟩, small⟩
    rw [← streamNal_timestamp send] at small
    exact ⟨v, select, ctx, fs', send, t, (if_pos small).trans converted, result⟩

theorem Worker.iterate_timestamp (h : w.iterate stream = some (w', fs)) :
    w'.rtpMuxContext.timestamp.toNat = (w.rtpMuxContext.timestamp.toNat + 3000) % 2 ^ 32 := by
  unfold Worker.iterate at h
  simp only [Option.bind_eq_bind, Option.bind_eq_some_iff, Prod.exists] at h
  obtain ⟨v, -, ctx, fs', send, result⟩ := h
  rw [← streamNal_timestamp send]
  split at result <;> cases result <;> exact UInt32.toNat_add _ _

/-- After `n` iterations the timestamp has grown by `3000 * n` modulo 2^32. -/
theorem Worker.run_timestamp {n : Nat} (h : w.run stream n = some (w', fs)) :
    w'.rtpMuxContext.timestamp.toNat = (w.rtpMuxContext.timestamp.toNat + 3000 * n) % 2 ^ 32 := by
  induction n generalizing w w' fs with
  | zero =>
    cases h
    exact (Nat.mod_eq_of_lt (UInt32.toNat_lt _)).symm
  | succ n ih =>
    rw [Worker.run] at h
    simp only [Option.bind_eq_bind, Option.bind_eq_some_iff, Prod.exists] at h
    obtain ⟨w1, fs1, step, w2, fs2, rest, result⟩ := h
    cases result
    rw [ih rest, Worker.iterate_timestamp step, Nat.mod_add_mod]
    congr 1
    omega

/-- The conversions of a run are all defined exactly when the sum of them all is in range. -/
theorem Worker.runWith_iff {n : Nat} : w.runWith doubleToUInt32 stream n = some (w', fs) ↔
    w.run stream n = some (w', fs) ∧ w.rtpMuxContext.timestamp.toNat + 3000 * n < 2 ^ 32 := by
  induction n generalizing w w' fs with
  | zero => exact ⟨fun h => ⟨h, UInt32.toNat_lt _⟩, And.left⟩
  | succ n ih =>
    rw [Worker.runWith, Worker.run]
    simp only [Option.bind_eq_bind, Option.bind_eq_some_iff, Prod.exists, Worker.iterateWith_iff, ih]
    constructor
    · rintro ⟨w1, fs1, ⟨step, small⟩, w2, fs2, ⟨rest, range⟩, result⟩
      refine ⟨⟨w1, fs1, step, w2, fs2, rest, result⟩, ?_⟩
      rw [Worker.iterate_timestamp step, Nat.mod_eq_of_lt small, Nat.add_right_comm] at range
      rw [Nat.mul_succ, ← Nat.add_assoc]
      exact range
    · rintro ⟨⟨w1, fs1, step, w2, fs2, rest, result⟩, range⟩
      rw [Nat.mul_succ, ← Nat.add_assoc, Nat.add_right_comm] at range
      have small : w.rtpMuxContext.timestamp.toNat + 3000 < 2 ^ 32 := Nat.lt_of_le_of_lt (Nat.le_add_right ..) range
      refine ⟨w1, fs1, ⟨step, small⟩, w2, fs2, ⟨rest, ?_⟩, result⟩
      rw [Worker.iterate_timestamp step, Nat.mod_eq_of_lt small]
      exact range

/-- A file of streamable units is streamed for ever. -/
theorem streams_of_streamable {nals : List Bytes} (file : StreamableFile stream nals) (ctx : RTPMuxContext) (n : Nat) :
    ((Worker.start stream ctx).run stream n).isSome := by
  obtain ⟨w, fs, packets, run, -⟩ := Worker.run_cyclic file.toUnitFile file.reads (List.length_pos_of_ne_nil file.nonempty)
    (Nat.le_refl _) ctx n
  rw [run]
  rfl

theorem TimestampExact.range {ctx : RTPMuxContext} {n : Nat} (h : TimestampExact stream ctx n) : 3000 * n < 2 ^ 32 := by
  obtain ⟨w, fs, exact, -⟩ := h
  exact Nat.lt_of_le_of_lt (Nat.le_add_left ..) (Worker.runWith_iff.mp exact).2

theorem TimestampExact.of_range {ctx : RTPMuxContext} {n : Nat} (h : ((Worker.start stream ctx).run stream n).isSome)
    (range : 3000 * n < 2 ^ 32) : TimestampExact stream ctx n := by
  obtain ⟨⟨w, fs⟩, run⟩ := Option.isSome_iff_exists.mp h
  have start : (Worker.start stream ctx).rtpMuxContext.timestamp.toNat = 0 := rfl
  refine ⟨w, fs, Worker.runWith_iff.mpr ⟨run, by omega⟩, ?_⟩
  rw [Worker.run_timestamp run, start, Nat.zero_add]

end

/-- A loop that streams `n` NALs keeps its conversions in range, and the timestamp
exact, exactly as long as `3000 * n` is below 2^32. -/
theorem timestampExact_iff (stream : Segment) (ctx : RTPMuxContext) (n : Nat)
    (h : ((Worker.start stream ctx).run stream n).isSome) : TimestampExact stream ctx n ↔ 3000 * n < 2 ^ 32 :=
  ⟨TimestampExact.range, TimestampExact.of_range h⟩

theorem streamable_one : StreamableFile ⟨4, fileOf [[0x40, 1]]⟩ [[0x40, 1]] :=
  ⟨⟨by decide, Segment.holds_base ⟨4, fileOf [[0x40, 1]]⟩, by decide, by decide⟩, by decide⟩

/-- The file `00 00 00 01 40 01`, sent twice. -/
theorem timestampExact_iff_two :
    let ctx : RTPMuxContext := ⟨.zero _, .zero _, 0, 0, 0, 0, 0, 0⟩
    ((Worker.start ⟨4, fileOf [[0x40, 1]]⟩ ctx).run ⟨4, fileOf [[0x40, 1]]⟩ 2).isSome = true ∧
      (TimestampExact ⟨4, fileOf [[0x40, 1]]⟩ ctx 2 ↔ 3000 * 2 < 2 ^ 32) :=
  have ends : ((Worker.start ⟨4, fileOf [[0x40, 1]]⟩ ⟨.zero _, .zero _, 0, 0, 0, 0, 0, 0⟩).run
      ⟨4, fileOf [[0x40, 1]]⟩ 2).isSome = true := streams_of_streamable streamable_one _ 2
  ⟨ends, timestampExact_iff _ _ 2 ends⟩

/-- The file `00 00 00 01 40 01`, sent 1431656 times: the last sum is 4294968000. -/
theorem not_timestampExact_wrap :
    let ctx : RTPMuxContext := ⟨.zero _, .zero _, 0, 0, 0, 0, 0, 0⟩
    ((Worker.start ⟨4, fileOf [[0x40, 1]]⟩ ctx).run ⟨4, fileOf [[0x40, 1]]⟩ 1431656).isSome = true ∧
      ¬ TimestampExact ⟨4, fileOf [[0x40, 1]]⟩ ctx 1431656 :=
  ⟨streams_of_streamable streamable_one _ _, fun exact => absurd exact.range (by decide)⟩

end RtspServer
