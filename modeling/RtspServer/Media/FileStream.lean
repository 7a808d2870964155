import RtspServer.Media.BufferPackets
import RtspServer.Media.Worker

/-!
# The packets of a file

A file determines the packets of each of its units in every pass, whoever sends
them. The loop of `workerThread` and repeated calls of `rtpSendH265HEVC` send
these packets, and differ in the marker bit only.
-/

namespace RtspServer

/-! ### The stream of a file -/

section

variable (nals : List Bytes)

/-- Behind the last unit the file starts again. -/
def unitAt (j : Nat) : Bytes := nals[j % nals.length]!

def payloadsAt (j : Nat) : List Bytes := RTPEnc.alone fragmentsOf (unitAt nals j)

/-- The packets of the first `j` units. -/
def packetsBefore : Nat → Nat
  | 0 => 0
  | j + 1 => packetsBefore j + (payloadsAt nals j).length

end

/-- The timestamps of the units, exact as long as they fit: beyond that the language leaves `timestamp += 90000.0 / 30` open. -/
structure Clock where
  time : Nat → UInt32
  exact : ∀ j, 3000 * j < 2 ^ 32 → (time j).toNat = 3000 * j

/-- On a machine that takes the sum modulo 2^32. -/
def Clock.wrapping : Clock where
  time j := UInt32.ofNat j * 3000
  exact := by
    intro j fits
    rw [UInt32.toNat_mul, UInt32.toNat_ofNat', Nat.mod_mul_mod, Nat.mul_comm]
    exact Nat.mod_eq_of_lt fits

/-- The packets of unit `j`, without a marker. -/
def packetsAt (clock : Clock) (nals : List Bytes) (j : Nat) : List Bytes :=
  RTPEnc.datagrams (clock.time j) 0x12345678 (UInt32.ofNat (packetsBefore nals j % 65536))
    (RTPEnc.marked 0 (payloadsAt nals j))

/-- The context in front of unit `j`. -/
structure Before (nals : List Bytes) (j : Nat) (ctx : RTPMuxContext) : Prop where
  timestamp : ctx.timestamp = Clock.wrapping.time j
  ssrc : ctx.ssrc = 0x12345678
  seq : ctx.seq = UInt32.ofNat (packetsBefore nals j % 65536)
  off : ctx.aggregation = 0
  empty : ctx.buf_ptr = 0

/-- A datagram with the marker bit off. -/
def withoutMarker (d : Bytes) : Bytes := d.modify 1 (· &&& 0x7f)

theorem nextSeq_ofNat (n s : Nat) : nextSeq^[n] (UInt32.ofNat (s % 65536)) = UInt32.ofNat ((s + n) % 65536) := by
  have small (k : Nat) : (UInt32.ofNat (k % 65536)).toNat = k % 65536 :=
    UInt32.toNat_ofNat_of_lt' (Nat.lt_trans (Nat.mod_lt k (by decide)) (by decide))
  apply UInt32.toNat.inj
  rw [nextSeq_iterate _ n s (small s), small]

theorem withoutMarker_datagram (timestamp ssrc seq : UInt32) (p : Bytes) (mark : Int) :
    withoutMarker (RTPEnc.datagram timestamp ssrc seq (p, mark)) = RTPEnc.datagram timestamp ssrc seq (p, 0) := by
  have off : ((RTP_H264 &&& (0x7f : UInt8)) ||| (UInt8.ofNat (mark % 2).toNat <<< 7)) &&& (0x7f : UInt8) =
      (RTP_H264 &&& (0x7f : UInt8)) ||| (UInt8.ofNat ((0 : Int) % 2).toNat <<< 7) := (mark_byte mark).2
  unfold withoutMarker RTPEnc.datagram rtpHeader
  simp only [List.cons_append, List.modify_succ_cons, List.modify_zero_cons, off]

theorem withoutMarker_datagrams (timestamp ssrc seq : UInt32) (last : Int) (ps : List Bytes) :
    (RTPEnc.datagrams timestamp ssrc seq (RTPEnc.marked last ps)).map withoutMarker =
      RTPEnc.datagrams timestamp ssrc seq (RTPEnc.marked 0 ps) := by
  induction ps generalizing seq with
  | nil => rfl
  | cons p ps ih =>
    by_cases none : ps = []
    · rw [none]
      exact congrArg (fun d => [d]) (withoutMarker_datagram timestamp ssrc seq p last)
    · rw [RTPEnc.marked_cons last p none, RTPEnc.marked_cons 0 p none, RTPEnc.datagrams, RTPEnc.datagrams, List.map_cons,
        withoutMarker_datagram, ih]

/-- Behind the interleaved headers the frames are datagrams without a marker. -/
theorem frames_datagrams (timestamp ssrc seq : UInt32) (ps : List Bytes) :
    (frames timestamp ssrc seq ps).map (·.drop 4) = RTPEnc.datagrams timestamp ssrc seq (RTPEnc.marked 0 ps) := by
  induction ps generalizing seq with
  | nil => rfl
  | cons p ps ih =>
    by_cases none : ps = []
    · rw [none]
      rfl
    · rw [RTPEnc.marked_cons 0 p none, frames, List.map_cons, ih]
      rfl

/-! ### A unit -/

section

variable {nals : List Bytes} {j : Nat} {ctx ctx' : RTPMuxContext}

theorem before_start (ctx : RTPMuxContext) : Before nals 0 (initRTPMuxContext ctx) := ⟨rfl, rfl, rfl, rfl, rfl⟩

/-- The context behind the packets of a unit, with the clock advanced. -/
theorem Before.next (before : Before nals j ctx) (timestamp : ctx'.timestamp = ctx.timestamp) (ssrc : ctx'.ssrc = ctx.ssrc)
    (seq : ctx'.seq = nextSeq^[(payloadsAt nals j).length] ctx.seq) (off : ctx'.aggregation = ctx.aggregation)
    (empty : ctx'.buf_ptr = 0) : Before nals (j + 1) { ctx' with timestamp := ctx'.timestamp + 3000 } where
  timestamp := by
    have advance : UInt32.ofNat (j + 1) = UInt32.ofNat j + 1 := UInt32.ofNat_add j 1
    rw [timestamp, before.timestamp]
    show UInt32.ofNat j * 3000 + 3000 = UInt32.ofNat (j + 1) * 3000
    rw [advance]
    grind
  ssrc := ssrc.trans before.ssrc
  seq := by
    show ctx'.seq = _
    rw [seq, before.seq, nextSeq_ofNat]
    rfl
  off := off.trans before.off
  empty := empty

/-- A call of `CStreamer::rtpSendNALH265` for unit `j`. -/
theorem rtpSendNALH265_packetsAt (before : Before nals j ctx) :
    ∃ ctx' fs, rtpSendNALH265 ctx (unitAt nals j) 0 = some (ctx', fs) ∧ fs.map (·.drop 4) = packetsAt .wrapping nals j ∧
      Before nals (j + 1) { ctx' with timestamp := ctx'.timestamp + 3000 } := by
  obtain ⟨ctx', fs, send, sent, waiting⟩ := rtpSendNALH265_sent (waiting_nil before.empty) (unitAt nals j) 0
  have single : nalPayloads ctx.aggregation [] (unitAt nals j) 0 = (payloadsAt nals j, []) := by
    unfold nalPayloads payloadsAt RTPEnc.alone
    rw [before.off]
    split
    · rw [if_neg (fun both => both.1 rfl)]
    · rfl
  rw [single] at sent waiting
  refine ⟨ctx', fs, send, ?_, before.next sent.timestamp sent.ssrc sent.seq sent.aggregation waiting.length⟩
  rw [sent.frames, frames_datagrams, before.timestamp, before.ssrc, before.seq]
  rfl

theorem RTPEnc.rtpSendNALH265_packetsAt (before : Before nals j ctx) (last : Int) :
    ∃ ctx' ds, RTPEnc.rtpSendNALH265 ctx (unitAt nals j) last = some (ctx', ds) ∧
      ds.map withoutMarker = packetsAt .wrapping nals j ∧
      Before nals (j + 1) { ctx' with timestamp := ctx'.timestamp + 3000 } := by
  have single : Single ctx [] := ⟨before.off, before.empty, rfl⟩
  obtain ⟨ctx', ds, send, emitted, after⟩ : ∃ ctx' ds, RTPEnc.rtpSendNALH265 ctx (unitAt nals j) last = some (ctx', ds) ∧
      Emitted ctx ctx' (marked last (payloadsAt nals j)) ds ∧ Single ctx' [] :=
    rtpSendNALH265_branches.single.sent single trivial rfl
  have seq := emitted.seq
  rw [← List.length_map Prod.fst, marked_fst] at seq
  refine ⟨ctx', ds, send, ?_, before.next emitted.timestamp emitted.ssrc seq emitted.aggregation after.empty⟩
  rw [emitted.datagrams, withoutMarker_datagrams, before.timestamp, before.ssrc, before.seq]
  rfl

end

/-! ### The two paths -/

section

variable {stream : Segment} {nals : List Bytes} {j : Nat} {w : Worker} {ctx : RTPMuxContext}

/-- The loop of `workerThread` is in front of unit `j`. -/
structure Passing (stream : Segment) (nals : List Bytes) (j : Nat) (w : Worker) : Prop where
  position : ∃ s, w.At stream nals (j % nals.length) s
  context : Before nals j w.rtpMuxContext

theorem passing_start (ctx : RTPMuxContext) (file : StreamableFile stream nals) : Passing stream nals 0 (Worker.start stream ctx) := by
  refine ⟨⟨0, ?_⟩, before_start ctx⟩
  rw [Nat.zero_mod]
  exact Worker.at_start file.toUnitFile ctx

/-- An iteration sends the packets of the unit at the position, and goes on to the next one. -/
theorem Passing.iterate (passing : Passing stream nals j w) (file : StreamableFile stream nals) :
    ∃ w' fs, w.iterate stream = some (w', fs) ∧ fs.map (·.drop 4) = packetsAt .wrapping nals j ∧
      Passing stream nals (j + 1) w' := by
  obtain ⟨⟨s, position⟩, context⟩ := passing
  obtain ⟨ctx', fs, send, packets, next⟩ := rtpSendNALH265_packetsAt context
  have whole := (nextUnit_cyclic file.units file.reads (Nat.le_refl _) position.index).1
  obtain ⟨w', iterated, context', -⟩ := Worker.iterate_whole file.toUnitFile position file.within whole send
  obtain ⟨w'', fs', ps, iterated', -, -, -, position'⟩ := Worker.iterate_at file position
  cases iterated.symm.trans iterated'
  rw [Nat.mod_add_mod] at position'
  exact ⟨w', fs, iterated, packets, ⟨s + ps.length, position'⟩, by rw [context']; exact next⟩

theorem Passing.run (n : Nat) (passing : Passing stream nals j w) (file : StreamableFile stream nals) :
    ∃ w' fs, w.run stream n = some (w', fs) ∧
      fs.map (·.drop 4) = (List.range' j n).flatMap (packetsAt .wrapping nals) ∧
      Passing stream nals (j + n) w' := by
  induction n generalizing j w with
  | zero => exact ⟨w, [], rfl, rfl, passing⟩
  | succ n ih =>
    obtain ⟨w1, fs, step, first, passing1⟩ := passing.iterate file
    obtain ⟨w2, gs, run, rest, passing2⟩ := ih passing1
    refine ⟨w2, fs ++ gs, ?_, ?_, ?_⟩
    · rw [Worker.run, step]
      simp only [Option.bind_eq_bind, Option.bind_some, run, Option.pure_def]
    · rw [List.map_append, first, rest, List.range'_succ, List.flatMap_cons]
    · rw [Nat.add_right_comm] at passing2
      exact passing2

/-- The calls for the last `n` units, in pass `r` over the file. -/
theorem sendEach_packetsAt (r n : Nat) {i : Nat} (whole : i + n = nals.length) (before : Before nals (r * nals.length + i) ctx) :
    ∃ ctx' ds, RTPEnc.sendEach RTPEnc.rtpSendNALH265 3000 ctx ((nals.drop i).map (⟨.four, ·⟩)) = some (ctx', ds) ∧
      ds.map withoutMarker = (List.range' (r * nals.length + i) n).flatMap (packetsAt .wrapping nals) ∧
      Before nals (r * nals.length + i + n) ctx' := by
  induction n generalizing i ctx with
  | zero =>
    rw [List.drop_of_length_le (by omega)]
    exact ⟨ctx, [], rfl, rfl, before⟩
  | succ n ih =>
    have inside : i < nals.length := by omega
    have unit : unitAt nals (r * nals.length + i) = nals[i] := by
      rw [unitAt, Nat.add_comm, Nat.add_mul_mod_self_right, Nat.mod_eq_of_lt inside, getElem!_pos nals i inside]
    have split : (nals.drop i).map (⟨.four, ·⟩ : Bytes → NalUnit) =
        ⟨.four, nals[i]⟩ :: (nals.drop (i + 1)).map (⟨.four, ·⟩) := by
      rw [List.drop_eq_getElem_cons inside, List.map_cons]
    obtain ⟨ctx1, ds, send, packets, next⟩ := RTPEnc.rtpSendNALH265_packetsAt before
      (if (nals.drop (i + 1)).map (⟨.four, ·⟩ : Bytes → NalUnit) = [] then 1 else 0)
    rw [unit] at send
    have whole' : i + 1 + n = nals.length := by omega
    obtain ⟨ctx2, more, rest, packets', last⟩ := ih whole' next
    refine ⟨ctx2, ds ++ more, ?_, ?_, ?_⟩
    · rw [split, RTPEnc.sendEach, send]
      simp only [Option.bind_eq_bind, Option.bind_some, rest, Option.pure_def]
    · rw [List.map_append, packets, packets', List.range'_succ, List.flatMap_cons, Nat.add_assoc]
    · rw [show r * nals.length + (i + 1) + n = r * nals.length + i + (n + 1) by omega] at last
      exact last

end

/-- Several calls of `rtpSendH265HEVC` for the same buffer. -/
def RTPEnc.sendPasses (m : Segment) (buf : Nat) (size : Int) : Nat → RTPMuxContext → Option (RTPMuxContext × List Bytes)
  | 0, ctx => some (ctx, [])
  | n + 1, ctx => do
    let (ctx, ds) ← RTPEnc.rtpSendH265HEVC m ctx buf size
    let (ctx, more) ← RTPEnc.sendPasses m buf size n ctx
    return (ctx, ds ++ more)

section

variable {stream : Segment} {nals : List Bytes} {ctx : RTPMuxContext}

/-- A call sends one pass over the file. -/
theorem rtpSendH265HEVC_packetsAt (r : Nat) (before : Before nals (r * nals.length) ctx) (file : UnitFile stream nals) :
    ∃ ctx' ds, RTPEnc.rtpSendH265HEVC stream ctx stream.base (fileOf nals).length = some (ctx', ds) ∧
      ds.map withoutMarker = (List.range' (r * nals.length) nals.length).flatMap (packetsAt .wrapping nals) ∧
      Before nals ((r + 1) * nals.length) ctx' := by
  have held : stream.Holds stream.base ([] ++ fileOf nals ++ []) := by
    rw [List.nil_append, List.append_nil]
    exact file.holds
  have shapes : ∀ u ∈ nals.map (⟨.four, ·⟩ : Bytes → NalUnit), IsUnit u.nal := by
    intro u member
    obtain ⟨nal, inside, rfl⟩ := List.mem_map.mp member
    exact (file.units nal inside).unit.isUnit
  have calls := (RTPEnc.rtpSend_written held file.notNull (by decide) shapes ctx).2
  obtain ⟨ctx', ds, sent, packets, after⟩ := sendEach_packetsAt r nals.length (Nat.zero_add _) before
  refine ⟨ctx', ds, calls.trans sent, packets, ?_⟩
  rw [Nat.succ_mul]
  exact after

theorem sendPasses_packetsAt (r n : Nat) (before : Before nals (r * nals.length) ctx) (file : UnitFile stream nals) :
    ∃ ctx' ds, RTPEnc.sendPasses stream stream.base (fileOf nals).length n ctx = some (ctx', ds) ∧
      ds.map withoutMarker = (List.range' (r * nals.length) (n * nals.length)).flatMap (packetsAt .wrapping nals) := by
  induction n generalizing r ctx with
  | zero =>
    rw [Nat.zero_mul]
    exact ⟨ctx, [], rfl, rfl⟩
  | succ n ih =>
    obtain ⟨ctx1, ds, call, packets, before1⟩ := rtpSendH265HEVC_packetsAt r before file
    obtain ⟨ctx2, more, rest, packets'⟩ := ih (r + 1) before1
    refine ⟨ctx2, ds ++ more, ?_, ?_⟩
    · rw [RTPEnc.sendPasses, call]
      simp only [Option.bind_eq_bind, Option.bind_some, rest, Option.pure_def]
    · rw [List.map_append, packets, packets', Nat.succ_mul, Nat.succ_mul, ← List.flatMap_append, List.range'_append_1,
        Nat.add_comm (n * nals.length)]

end

/-- As often as the file is passed, the loop of `workerThread` sends the packets that as many calls of `rtpSendH265HEVC` send,
but for the marker bit. -/
theorem paths_agree (ctx : RTPMuxContext) (stream : Segment) (nals : List Bytes) (passes : Nat) (file : StreamableFile stream nals) :
    ∃ w fs ctx' ds, (Worker.start stream ctx).run stream (passes * nals.length) = some (w, fs) ∧
      RTPEnc.sendPasses stream stream.base (fileOf nals).length passes (initRTPMuxContext ctx) = some (ctx', ds) ∧
      fs.map (·.drop 4) = ds.map withoutMarker := by
  have start : Before nals (0 * nals.length) (initRTPMuxContext ctx) := by
    rw [Nat.zero_mul]
    exact before_start ctx
  obtain ⟨w, fs, run, streamed, -⟩ := (passing_start ctx file).run (passes * nals.length) file
  obtain ⟨ctx', ds, calls, sent⟩ := sendPasses_packetsAt 0 passes start file.toUnitFile
  refine ⟨w, fs, ctx', ds, run, calls, ?_⟩
  rw [streamed, sent, Nat.zero_mul]

theorem paths_agree_two :
    let nals : List Bytes := [[0x40, 1, 7], [0x42, 1]]
    let ctx : RTPMuxContext := ⟨.zero _, .zero _, 0, 0, 0, 0, 0, 0⟩
    StreamableFile ⟨1, fileOf nals⟩ nals ∧
      ∃ w fs ctx' ds, (Worker.start ⟨1, fileOf nals⟩ ctx).run ⟨1, fileOf nals⟩ 6 = some (w, fs) ∧
        RTPEnc.sendPasses ⟨1, fileOf nals⟩ 1 (fileOf nals).length 3 (initRTPMuxContext ctx) = some (ctx', ds) ∧
        fs.map (·.drop 4) = ds.map withoutMarker := by
  intro nals ctx
  exact ⟨streamable_two, paths_agree ctx ⟨1, fileOf nals⟩ nals 3 streamable_two⟩

end RtspServer
