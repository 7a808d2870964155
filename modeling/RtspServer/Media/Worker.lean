import RtspServer.Media.NalSender
import RtspServer.Media.SimStreamer

/-!
# The streaming loop of workerThread

Each iteration selects a unit, sends it and restarts the file at its end. A
receiver of the packets gets the units of the file over and over.
-/

namespace RtspServer

/-- The locals of `workerThread` and the global `rtpMuxContext`. -/
structure Worker where
  stream_buf : Nat
  stream_len_temp : Int
  rtpMuxContext : RTPMuxContext

/-- `*len = (int)size` of `readFile`: 2^31 bytes and more are not told. -/
@[irreducible] def stream_len (stream : Segment) : Int := Int.bmod stream.bytes.length (2 ^ 32)

/-- `SimStreamer::StreamNal` on the unit at `nal`, an empty one where none was selected. A
negative length makes the copy of the payload leave every array. -/
def streamNal (m : Segment) (ctx : RTPMuxContext) (nal : Nat) (nal_len : Int) :
    Option (RTPMuxContext × List Bytes) := do
  if nal_len < 0 then none
  rtpSendNALH265 ctx (← m.slice nal nal_len.toNat) 0

/-- One streaming iteration over the file in `stream`, and the frames it sends. -/
def Worker.iterate (stream : Segment) (w : Worker) : Option (Worker × List Bytes) := do
  let v ← selectNextNal stream ⟨w.stream_buf, w.stream_len_temp, 0, 0⟩
  let (ctx, fs) ← streamNal stream w.rtpMuxContext v.r v.r_len
  -- `timestamp += 90000.0 / 30`: the sum is formed in double and taken modulo 2^32.
  let ctx := { ctx with timestamp := ctx.timestamp + 3000 }
  if v.size ≤ 0 then return (⟨stream.base, stream_len stream, ctx⟩, fs)
  else return (⟨v.buf, v.size, ctx⟩, fs)

def Worker.run (stream : Segment) : Nat → Worker → Option (Worker × List Bytes)
  | 0, w => some (w, [])
  | n + 1, w => do
    let (w, fs) ← w.iterate stream
    let (w, gs) ← Worker.run stream n w
    return (w, fs ++ gs)

def Worker.start (stream : Segment) (ctx : RTPMuxContext) : Worker :=
  ⟨stream.base, stream_len stream, initRTPMuxContext ctx⟩

/-- What a run does behind its first iterations. -/
theorem Worker.run_split {stream : Segment} {w w1 w2 : Worker} {fs gs : List Bytes} (a : Nat) {b : Nat}
    (front : w.run stream a = some (w1, fs)) (h : w.run stream (a + b) = some (w2, gs)) :
    ∃ hs, w1.run stream b = some (w2, hs) ∧ gs = fs ++ hs := by
  induction a generalizing w fs gs with
  | zero =>
    cases front
    rw [Nat.zero_add] at h
    exact ⟨gs, h, rfl⟩
  | succ a ih =>
    rw [Nat.succ_add, Worker.run] at h
    rw [Worker.run] at front
    simp only [Option.bind_eq_bind, Option.bind_eq_some_iff, Prod.exists] at front h
    obtain ⟨v, xs, step, v1, ys, front, same⟩ := front
    obtain ⟨v', xs', step', v2, zs, rest, same'⟩ := h
    cases step.symm.trans step'
    cases same
    cases same'
    obtain ⟨hs, run, rfl⟩ := ih front rest
    exact ⟨hs, run, (List.append_assoc ..).symm⟩

theorem Worker.run_succ {stream : Segment} {n : Nat} {w w1 w2 : Worker} {fs gs : List Bytes}
    (front : w.run stream n = some (w1, fs)) (step : w1.iterate stream = some (w2, gs)) :
    w.run stream (n + 1) = some (w2, fs ++ gs) := by
  induction n generalizing w fs with
  | zero =>
    cases front
    rw [Worker.run, step, List.nil_append]
    exact congrArg (fun more => some (w2, more)) (List.append_nil gs)
  | succ n ih =>
    rw [Worker.run] at front
    simp only [Option.bind_eq_bind, Option.bind_eq_some_iff, Prod.exists] at front
    obtain ⟨v, xs, first, v1, ys, rest, same⟩ := front
    cases same
    rw [Worker.run, first]
    simp only [Option.bind_eq_bind, Option.bind_some, ih rest, List.append_assoc, Option.pure_def]

/-- The units a file may contain for the stream to be lossless. -/
structure Streamable (nal : Bytes) : Prop where
  unit : IsNal nal
  sendable : Hevc.Sendable nal
  plain : 1400 < nal.length → Hevc.PlainHeader nal

instance (nal : Bytes) : Decidable (Streamable nal) :=
  decidable_of_iff (IsNal nal ∧ Hevc.Sendable nal ∧ (1400 < nal.length → Hevc.PlainHeader nal))
    ⟨fun ⟨a, b, c⟩ => ⟨a, b, c⟩, fun ⟨a, b, c⟩ => ⟨a, b, c⟩⟩

/-- The file: a four-byte start code before each unit. -/
def fileOf (nals : List Bytes) : Bytes := annexB (nals.map (⟨.four, ·⟩))

/-! ### What a receiver gets from one call -/

theorem receiveAll_single {nal : Bytes} (ok : Streamable nal) (last : Int) :
    Hevc.receiveAll none (nalPayloads 0 [] nal last).1 = some (none, [nal]) ∧
      (nalPayloads 0 [] nal last).2 = [] := by
  unfold nalPayloads
  by_cases small : nal.length ≤ RTP_PAYLOAD_MAX
  · rw [if_pos small, if_neg (by simp)]
    exact ⟨Hevc.receiveAll_one (Hevc.receive_single ok.sendable), rfl⟩
  · rw [if_neg small]
    have long : 1400 < nal.length := Nat.lt_of_not_le small
    exact ⟨receiveAll_fragmentsOf long (ok.plain long), rfl⟩

/-! ### The position in the file -/

/-- Where unit `i` begins in the file, its start code included. -/
def startOf (nals : List Bytes) (i : Nat) : Nat := (fileOf (nals.take i)).length

/-- A file of streamable units in memory. -/
structure UnitFile (stream : Segment) (nals : List Bytes) : Prop where
  notNull : stream.base ≠ 0
  holds : stream.Holds stream.base (fileOf nals)
  nonempty : nals ≠ []
  units : ∀ nal ∈ nals, Streamable nal

/-- It is so short that an `int` holds its length. -/
structure StreamableFile (stream : Segment) (nals : List Bytes) : Prop extends UnitFile stream nals where
  fits : (fileOf nals).length < 2 ^ 31

theorem fileOf_cons (nal : Bytes) (nals : List Bytes) :
    fileOf (nal :: nals) = (⟨.four, nal⟩ : NalUnit).bytes ++ fileOf nals := rfl

theorem fileOf_append (xs ys : List Bytes) : fileOf (xs ++ ys) = fileOf xs ++ fileOf ys := by
  rw [fileOf, List.map_append]
  exact List.flatMap_append

section

variable {nals : List Bytes} {i k : Nat}

theorem startOf_add (inside : i < nals.length) : startOf nals (i + 1) = startOf nals i + 4 + nals[i].length := by
  have unit : (fileOf [nals[i]]).length = 4 + nals[i].length := by
    simp [fileOf, annexB, NalUnit.bytes, StartCode.bytes]
    omega
  rw [startOf, List.take_succ_eq_append_getElem inside, fileOf_append, List.length_append, unit, ← Nat.add_assoc]
  rfl

theorem startOf_drop (nals : List Bytes) (i : Nat) : startOf nals i + (fileOf (nals.drop i)).length = (fileOf nals).length := by
  rw [startOf, ← List.length_append, ← fileOf_append, List.take_append_drop]

theorem startOf_zero (nals : List Bytes) : startOf nals 0 = 0 := rfl

theorem startOf_length (nals : List Bytes) : startOf nals nals.length = (fileOf nals).length := by
  rw [startOf, List.take_length]

theorem startOf_lt (units : ∀ nal ∈ nals, Streamable nal) (inside : k ≤ nals.length) (lt : i < k) :
    startOf nals i + 6 ≤ startOf nals k := by
  induction k with
  | zero => cases lt
  | succ k ih =>
    have step := startOf_add inside
    have two := (units nals[k] (List.getElem_mem inside)).unit.two_le
    rcases Nat.lt_succ_iff_lt_or_eq.mp lt with below | rfl
    · have := ih (Nat.le_of_succ_le inside) below
      omega
    · omega

end

/-- The worker is about to stream unit `i` of the file, with an empty buffer and
packet number `s` to come. -/
structure Worker.At (stream : Segment) (nals : List Bytes) (i s : Nat) (w : Worker) : Prop where
  index : i < nals.length
  holds : stream.Holds w.stream_buf (fileOf (nals.drop i))
  remaining : w.stream_len_temp = stream_len stream - startOf nals i
  notNull : w.stream_buf ≠ 0
  aggregation : w.rtpMuxContext.aggregation = 0
  empty : w.rtpMuxContext.buf_ptr = 0
  seq : w.rtpMuxContext.seq.toNat = s % 65536

/-- Unit `i` is read whole: the loop reads on behind the start code after it, or to its very end. -/
def ReadsUnit (stream : Segment) (nals : List Bytes) (i : Nat) : Prop :=
  startOf nals (i + 1) + 4 < stream_len stream ∨ startOf nals (i + 1) = stream_len stream

/-- The unit after unit `i`: the first one where the loop has read all it reads. -/
def nextUnit (stream : Segment) (nals : List Bytes) (i : Nat) : Nat :=
  if startOf nals (i + 1) = stream_len stream then 0 else i + 1

theorem not_codeAt_fileOf (nals : List Bytes) : ¬ CodeAt (fileOf nals) 0 := by
  cases nals with
  | nil => simp [fileOf, annexB, CodeAt]
  | cons nal nals =>
    rw [fileOf_cons, NalUnit.bytes, List.append_assoc]
    exact not_codeAt_four _

section

variable {stream : Segment} {nals : List Bytes} {i k s : Nat} {w : Worker}

theorem UnitFile.length (file : UnitFile stream nals) : stream.bytes.length = (fileOf nals).length := by
  have limit := file.holds.limit
  unfold Segment.limit at limit
  omega

/-- What is behind the start code of the next unit belongs to it. -/
theorem inside_of_lt (lt : startOf nals (i + 1) < (fileOf nals).length) (index : i < nals.length) : i + 1 < nals.length := by
  by_contra none
  have whole := startOf_length nals
  rw [show nals.length = i + 1 by omega] at whole
  omega

theorem selectNextNal_at (units : ∀ nal ∈ nals, Streamable nal) (h : w.At stream nals i s)
    (within : stream_len stream ≤ (fileOf nals).length) (whole : ReadsUnit stream nals i) :
    ∃ v, selectNextNal stream ⟨w.stream_buf, w.stream_len_temp, 0, 0⟩ = some v ∧
      stream.slice v.r v.r_len.toNat = some nals[i]! ∧ 0 ≤ v.r_len ∧ v.buf ≠ 0 ∧
      stream.Holds v.buf (fileOf (nals.drop (i + 1))) ∧ v.size = stream_len stream - startOf nals (i + 1) := by
  obtain ⟨index, holds, remaining, notNull, -, -, -⟩ := h
  rw [getElem!_pos nals i index]
  have unit := (units nals[i] (List.getElem_mem index)).unit
  have two := unit.two_le
  have total : (⟨.four, nals[i]⟩ : NalUnit).bytes.length = 4 + nals[i].length := List.length_append
  have length := startOf_drop nals i
  have after := startOf_add index
  have limit := holds.limit
  rw [List.drop_eq_getElem_cons index, fileOf_cons] at holds
  have step : selectNextNal stream ⟨w.stream_buf, w.stream_len_temp, 0, 0⟩ = some {
      buf := w.stream_buf + (⟨.four, nals[i]⟩ : NalUnit).bytes.length
      size := w.stream_len_temp - nals[i].length - 4
      r := w.stream_buf + 4
      r_len := nals[i].length } := by
    rcases whole with inner | last
    · rw [List.drop_eq_getElem_cons (inside_of_lt (by omega) index), fileOf_cons] at holds
      refine selectNextNal_inner (u := ⟨.four, nals[i]⟩) unit holds notNull ?_ ?_ ?_
      · show 0 < w.stream_len_temp; omega
      · show w.stream_buf + w.stream_len_temp.toNat ≤ _; omega
      · show _ + 4 < w.stream_len_temp.toNat; omega
    · rw [selectNextNal_short (u := ⟨.four, nals[i]⟩) unit holds (not_codeAt_fileOf _) notNull, Option.some.injEq,
        NalSelection.mk.injEq]
      · refine ⟨?_, ?_, rfl, ?_⟩
        · show w.stream_buf + w.stream_len_temp.toNat = _; omega
        · show (4 : Int) - 4 = _; omega
        · show w.stream_len_temp - 4 = _; omega
      · show 4 < w.stream_len_temp.toNat; omega
      · show w.stream_buf + w.stream_len_temp.toNat ≤ _; omega
      · show w.stream_len_temp.toNat ≤ _; omega
  refine ⟨_, step, ?_, ?_, ?_, holds.advance, ?_⟩
  · rw [NalUnit.bytes, List.append_assoc] at holds
    exact holds.advance.slice
  · show 0 ≤ (nals[i].length : Int); omega
  · show w.stream_buf + _ ≠ 0; omega
  · show w.stream_len_temp - nals[i].length - 4 = _; omega

/-- What an iteration does once a unit is selected. -/
theorem Worker.iterate_send {v : NalSelection} {nal : Bytes} {ctx : RTPMuxContext} {fs : List Bytes}
    (select : selectNextNal stream ⟨w.stream_buf, w.stream_len_temp, 0, 0⟩ = some v) (positive : 0 ≤ v.r_len)
    (slice : stream.slice v.r v.r_len.toNat = some nal) (send : rtpSendNALH265 w.rtpMuxContext nal 0 = some (ctx, fs)) :
    w.iterate stream = some
      (if v.size ≤ 0 then ⟨stream.base, stream_len stream, { ctx with timestamp := ctx.timestamp + 3000 }⟩
        else ⟨v.buf, v.size, { ctx with timestamp := ctx.timestamp + 3000 }⟩, fs) := by
  have streamed : streamNal stream w.rtpMuxContext v.r v.r_len = some (ctx, fs) := by
    rw [streamNal, if_neg (by omega), slice]
    exact send
  unfold Worker.iterate
  simp only [select, streamed, Option.bind_eq_bind, Option.bind_some]
  split <;> rfl

/-- The loop goes from a unit that it reads whole to the next one, with what the sender leaves. -/
theorem Worker.iterate_whole (file : UnitFile stream nals) (h : w.At stream nals i s)
    (within : stream_len stream ≤ (fileOf nals).length) (whole : ReadsUnit stream nals i)
    {ctx : RTPMuxContext} {fs : List Bytes} (send : rtpSendNALH265 w.rtpMuxContext nals[i]! 0 = some (ctx, fs)) :
    ∃ w', w.iterate stream = some (w', fs) ∧
      w'.rtpMuxContext = { ctx with timestamp := ctx.timestamp + 3000 } ∧ w'.stream_buf ≠ 0 ∧
      nextUnit stream nals i < nals.length ∧
      stream.Holds w'.stream_buf (fileOf (nals.drop (nextUnit stream nals i))) ∧
      w'.stream_len_temp = stream_len stream - startOf nals (nextUnit stream nals i) := by
  obtain ⟨v, select, slice, positive, vNotNull, holds, size⟩ := selectNextNal_at file.units h within whole
  have step := Worker.iterate_send select positive slice send
  have index := h.index
  rcases whole with inner | last
  · -- The next unit follows in the file.
    have next : nextUnit stream nals i = i + 1 := if_neg (by omega)
    have more : i + 1 < nals.length := inside_of_lt (by omega) index
    rw [if_neg (by omega)] at step
    rw [next]
    exact ⟨_, step, rfl, vNotNull, more, holds, size⟩
  · -- All that is read is passed, and the file starts again.
    have next : nextUnit stream nals i = 0 := if_pos last
    rw [if_pos (by omega)] at step
    refine ⟨_, step, rfl, file.notNull, ?_⟩
    rw [next, startOf_zero, Int.natCast_zero, Int.sub_zero]
    exact ⟨Nat.zero_lt_of_lt index, file.holds, rfl⟩

/-- One iteration delivers a unit that is read whole, and moves on. -/
theorem Worker.iterate_unit (file : UnitFile stream nals) (h : w.At stream nals i s)
    (within : stream_len stream ≤ (fileOf nals).length) (whole : ReadsUnit stream nals i) :
    ∃ w' fs packets, w.iterate stream = some (w', fs) ∧ packetsOf fs = some packets ∧
      Hevc.receiveAll none (packets.map Rtp.Packet.payload) = some (none, [nals[i]!]) ∧
      packets.map (fun p => p.seq.toNat) = (List.range' s packets.length).map (· % 65536) ∧
      w'.At stream nals (nextUnit stream nals i) (s + packets.length) := by
  have ok : Streamable nals[i]! := by
    rw [getElem!_pos nals i h.index]
    exact file.units _ (List.getElem_mem h.index)
  obtain ⟨ctx, fs, send, sent, waiting⟩ := rtpSendNALH265_sent (waiting_nil h.empty) nals[i]! 0
  rw [h.aggregation] at sent waiting
  obtain ⟨delivered, none⟩ := receiveAll_single ok 0
  rw [none] at waiting
  obtain ⟨packets, parsed, payloads, numbers, seq⟩ := sent.packets h.seq
  obtain ⟨w', step, context, notNull, index, holds, remaining⟩ := Worker.iterate_whole file h within whole send
  refine ⟨w', fs, packets, step, parsed, by rw [payloads]; exact delivered, numbers, index, holds, remaining, notNull, ?_, ?_, ?_⟩
  all_goals rw [context]
  · exact sent.aggregation.trans h.aggregation
  · exact waiting.length
  · exact seq

/-- A run through units that are read whole delivers these. -/
theorem Worker.run_whole (n : Nat) (file : UnitFile stream nals) (h : w.At stream nals i s)
    (within : stream_len stream ≤ (fileOf nals).length)
    (whole : ∀ j < n, ReadsUnit stream nals ((nextUnit stream nals)^[j] i)) :
    ∃ w' fs packets, w.run stream n = some (w', fs) ∧ packetsOf fs = some packets ∧
      Hevc.receiveAll none (packets.map Rtp.Packet.payload) =
        some (none, (List.range n).map fun j => nals[(nextUnit stream nals)^[j] i]!) ∧
      packets.map (fun p => p.seq.toNat) = (List.range' s packets.length).map (· % 65536) ∧
      w'.At stream nals ((nextUnit stream nals)^[n] i) (s + packets.length) := by
  induction n generalizing i s w with
  | zero => exact ⟨w, [], [], rfl, rfl, rfl, rfl, h⟩
  | succ n ih =>
    obtain ⟨w1, fs, ps, step, parsed, first, numbers, h1⟩ := Worker.iterate_unit file h within (whole 0 (Nat.succ_pos n))
    have later (j : Nat) : (nextUnit stream nals)^[j + 1] i = (nextUnit stream nals)^[j] (nextUnit stream nals i) :=
      Function.iterate_succ_apply _ j i
    obtain ⟨w2, gs, qs, run, parsed', rest, numbers', h2⟩ := ih h1 fun j lt => later j ▸ whole (j + 1) (Nat.succ_lt_succ lt)
    refine ⟨w2, fs ++ gs, ps ++ qs, ?_, packetsOf_append parsed parsed', ?_, ?_, ?_⟩
    · rw [Worker.run, step]
      simp only [Option.bind_eq_bind, Option.bind_some, run, Option.pure_def]
    · rw [List.map_append, Hevc.receiveAll_append first rest, List.range_succ_eq_map, List.map_cons, List.map_map]
      simp only [Function.comp_def, Nat.succ_eq_add_one, later, List.singleton_append, Function.iterate_zero_apply]
    · rw [List.map_append, numbers, numbers', List.length_append, ← List.map_append, List.range'_append_1]
    · rw [List.length_append, ← Nat.add_assoc, later]
      exact h2

theorem Worker.at_start (file : UnitFile stream nals) (ctx : RTPMuxContext) : (Worker.start stream ctx).At stream nals 0 0 := by
  refine ⟨List.length_pos_of_ne_nil file.nonempty, file.holds, ?_, file.notNull, rfl, rfl, rfl⟩
  rw [startOf_zero, Int.natCast_zero, Int.sub_zero, Worker.start]

/-! ### Whole units -/

/-- Where the loop reads the first `k` units, these follow one another cyclically. -/
theorem nextUnit_cyclic (units : ∀ nal ∈ nals, Streamable nal) (reads : startOf nals k = stream_len stream)
    (inside : k ≤ nals.length) (lt : i < k) : ReadsUnit stream nals i ∧ nextUnit stream nals i = (i + 1) % k := by
  unfold ReadsUnit nextUnit
  by_cases more : i + 1 < k
  · have step := startOf_lt units inside more
    rw [if_neg (by omega), Nat.mod_eq_of_lt more]
    exact ⟨.inl (by omega), rfl⟩
  · obtain rfl : i + 1 = k := by omega
    rw [if_pos reads, Nat.mod_self]
    exact ⟨.inr reads, rfl⟩

theorem nextUnit_iterate (units : ∀ nal ∈ nals, Streamable nal) (reads : startOf nals k = stream_len stream)
    (inside : k ≤ nals.length) (lt : i < k) (n : Nat) : (nextUnit stream nals)^[n] i = (i + n) % k := by
  induction n generalizing i with
  | zero => exact (Nat.mod_eq_of_lt lt).symm
  | succ n ih =>
    rw [Function.iterate_succ_apply, (nextUnit_cyclic units reads inside lt).2, ih (Nat.mod_lt _ (by omega)), Nat.mod_add_mod,
      Nat.add_right_comm, Nat.add_assoc]

theorem UnitFile.narrowed (file : UnitFile stream nals) :
    stream_len stream = Int.bmod (fileOf nals).length (2 ^ 32) := by
  unfold stream_len
  exact congrArg (fun n : Nat => Int.bmod n (2 ^ 32)) file.length

theorem StreamableFile.reads (file : StreamableFile stream nals) : startOf nals nals.length = stream_len stream := by
  have fits := file.fits
  rw [startOf_length, file.toUnitFile.narrowed]
  exact (Int.bmod_eq_of_le_mul_two (by omega) (by omega)).symm

theorem StreamableFile.within (file : StreamableFile stream nals) : stream_len stream ≤ (fileOf nals).length :=
  Int.le_of_eq (by rw [← file.reads, startOf_length])

/-- The streaming loop delivers unit `i` and moves on cyclically. -/
theorem Worker.iterate_at (file : StreamableFile stream nals) (h : w.At stream nals i s) :
    ∃ w' fs packets, w.iterate stream = some (w', fs) ∧ packetsOf fs = some packets ∧
      Hevc.receiveAll none (packets.map Rtp.Packet.payload) = some (none, [nals[i]!]) ∧
      packets.map (fun p => p.seq.toNat) = (List.range' s packets.length).map (· % 65536) ∧
      w'.At stream nals ((i + 1) % nals.length) (s + packets.length) := by
  obtain ⟨whole, next⟩ := nextUnit_cyclic file.units file.reads (Nat.le_refl _) h.index
  rw [← next]
  exact Worker.iterate_unit file.toUnitFile h file.within whole

/-- A loop that reads the first `k` units delivers these over and over. -/
theorem Worker.run_cyclic (file : UnitFile stream nals) (reads : startOf nals k = stream_len stream) (positive : 0 < k)
    (inside : k ≤ nals.length) (ctx : RTPMuxContext) (n : Nat) :
    ∃ w fs packets, (Worker.start stream ctx).run stream n = some (w, fs) ∧ packetsOf fs = some packets ∧
      Hevc.receiveAll none (packets.map Rtp.Packet.payload) = some (none, (List.range n).map fun j => nals[j % k]!) ∧
      packets.map (fun p => p.seq.toNat) = (List.range packets.length).map (· % 65536) := by
  have position (j : Nat) : (nextUnit stream nals)^[j] 0 = j % k := by
    rw [nextUnit_iterate file.units reads inside positive, Nat.zero_add]
  have within : stream_len stream ≤ (fileOf nals).length := by
    have length := startOf_drop nals k
    omega
  obtain ⟨w, fs, packets, run, parsed, units, numbers, -⟩ := Worker.run_whole n file (Worker.at_start file ctx) within
    fun j _ => position j ▸ (nextUnit_cyclic file.units reads inside (Nat.mod_lt j positive)).1
  simp only [position] at units
  rw [← List.range_eq_range'] at numbers
  exact ⟨w, fs, packets, run, parsed, units, numbers⟩

end

theorem streamable_two : StreamableFile ⟨1, fileOf [[0x40, 1, 7], [0x42, 1]]⟩ [[0x40, 1, 7], [0x42, 1]] :=
  ⟨⟨by decide, Segment.holds_base ⟨1, fileOf [[0x40, 1, 7], [0x42, 1]]⟩, by decide, by decide⟩, by decide⟩

end RtspServer
