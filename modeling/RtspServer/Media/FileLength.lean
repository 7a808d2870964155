import Mathlib.Order.Nat
import RtspServer.Media.Worker

/-!
# The length of the file

`readFile` tells the length of the file in an `int`. Of a file of 2^31 bytes or more the loop
streams what the narrowed length covers, if anything, and starts again there.
-/

namespace RtspServer

/-- Over `n` iterations a receiver of the packets gets the first `n` units of the endless repetition of
the file, and the packets are numbered consecutively modulo 2^16. -/
def Lossless (stream : Segment) (ctx : RTPMuxContext) (nals : List Bytes) (n : Nat) : Prop :=
  ∃ w fs packets, (Worker.start stream ctx).run stream n = some (w, fs) ∧
    packetsOf fs = some packets ∧
    Hevc.depacketize (packets.map Rtp.Packet.payload) =
      some ((List.range n).map fun i => nals[i % nals.length]!) ∧
    packets.map (fun p => p.seq.toNat) = (List.range packets.length).map (· % 65536)

/-! ### The rest of a run -/

theorem packetsOf_split {fs gs : List Bytes} {packets : List Rtp.Packet} (h : packetsOf (fs ++ gs) = some packets) :
    ∃ ps qs, packetsOf fs = some ps ∧ packetsOf gs = some qs ∧ packets = ps ++ qs := by
  unfold packetsOf at *
  rw [List.mapM_append] at h
  obtain ⟨ps, front, h⟩ := Option.bind_eq_some_iff.mp h
  obtain ⟨qs, rest, same⟩ := Option.bind_eq_some_iff.mp h
  exact ⟨ps, qs, front, rest, (Option.some.inj same).symm⟩

theorem receiveAll_of_depacketize {ps units : List Bytes} (h : Hevc.depacketize ps = some units) :
    Hevc.receiveAll none ps = some (none, units) := by
  unfold Hevc.depacketize at h
  split at h
  · rename_i received
    rw [received, Option.some.inj h]
  · cases h

/-! ### The end of what is read -/

/-- What a receiver makes of the packets of a piece of a unit: one unit of its length, or nothing at all. -/
theorem receiveAll_piece {piece : Bytes} (type : ∀ h0 ∈ piece.head?, Hevc.nalType h0 < 48) :
    Hevc.receiveAll none (nalPayloads 0 [] piece 0).1 = none ∨
      ∃ unit, unit.length = piece.length ∧ Hevc.receiveAll none (nalPayloads 0 [] piece 0).1 = some (none, [unit]) := by
  unfold nalPayloads
  by_cases small : piece.length ≤ RTP_PAYLOAD_MAX
  · rw [if_pos small, if_neg (by simp)]
    match piece, type with
    | [], _ => exact .inl rfl
    | [_], _ => exact .inl rfl
    | h0 :: h1 :: data, type =>
      have sendable : Hevc.Sendable (h0 :: h1 :: data) := type h0 rfl
      exact .inr ⟨_, rfl, Hevc.receiveAll_one (Hevc.receive_single sendable)⟩
  · rw [if_neg small]
    match piece, small with
    | [], small => exact absurd (Nat.zero_le _) small
    | [_], small => exact absurd (show 1 ≤ 1400 by decide) small
    | h0 :: h1 :: data, _ =>
      have whole : data.take 1397 ++ (Hevc.cut 1397 data.length (data.drop 1397)).flatten = data := by
        rw [Hevc.cut_flatten, List.take_append_drop]
      exact .inr ⟨Hevc.typeField h0 <<< 1 :: 1 :: data, rfl, Hevc.receiveAll_rebuilt h0 (Hevc.cut_ne_nil _ _ _) whole⟩

theorem sendable_head {nal : Bytes} (sendable : Hevc.Sendable nal) : ∀ h0 ∈ nal.head?, Hevc.nalType h0 < 48 := by
  intro h0 head
  match nal, sendable with
  | _ :: _ :: _, sendable =>
    cases head
    exact sendable

section

variable {stream : Segment} {nals : List Bytes} {i k n s : Nat} {w : Worker} {ctx : RTPMuxContext}

/-- Reading to a place inside a unit, or inside the start code behind it, the loop sends a piece. -/
theorem Worker.iterate_piece (file : UnitFile stream nals) (h : w.At stream nals i s)
    (cut : stream_len stream < (fileOf nals).length) (room : startOf nals i + 4 < stream_len stream)
    (short : stream_len stream ≤ startOf nals (i + 1) + 4) :
    ∃ piece w' fs packets, startOf nals i + 4 + piece.length = stream_len stream ∧
      (∀ h0 ∈ piece.head?, Hevc.nalType h0 < 48) ∧ w.iterate stream = some (w', fs) ∧ packetsOf fs = some packets ∧
      packets.map Rtp.Packet.payload = (nalPayloads 0 [] piece 0).1 := by
  obtain ⟨index, holds, remaining, notNull, aggregation, empty, seq⟩ := h
  have ok := file.units nals[i] (List.getElem_mem index)
  have two := ok.unit.two_le
  have total : (⟨.four, nals[i]⟩ : NalUnit).bytes.length = 4 + nals[i].length := List.length_append
  have length := startOf_drop nals i
  have after := startOf_add index
  have limit := holds.limit
  rw [List.drop_eq_getElem_cons index, fileOf_cons] at holds
  have select := selectNextNal_short (u := ⟨.four, nals[i]⟩) (v := ⟨w.stream_buf, w.stream_len_temp, 0, 0⟩) ok.unit holds
    (not_codeAt_fileOf _) notNull (by show 4 < w.stream_len_temp.toNat; omega)
    (by show w.stream_buf + w.stream_len_temp.toNat ≤ _; omega) (by show w.stream_len_temp.toNat ≤ _; omega)
  rw [NalUnit.bytes, List.append_assoc] at holds
  have behind : stream.Holds (w.stream_buf + 4) (nals[i] ++ fileOf (nals.drop (i + 1))) := holds.advance
  have room' := behind.limit
  rw [List.length_append] at room'
  rw [← List.take_append_drop (w.stream_len_temp - 4).toNat (nals[i] ++ fileOf (nals.drop (i + 1)))] at behind
  have size : ((nals[i] ++ fileOf (nals.drop (i + 1))).take (w.stream_len_temp - 4).toNat).length =
      (w.stream_len_temp - 4).toNat := by
    rw [List.length_take, List.length_append]
    omega
  have slice := behind.slice
  rw [size] at slice
  obtain ⟨ctx', fs, send, sent, -⟩ := rtpSendNALH265_sent (waiting_nil empty)
    ((nals[i] ++ fileOf (nals.drop (i + 1))).take (w.stream_len_temp - 4).toNat) 0
  rw [aggregation] at sent
  obtain ⟨packets, parsed, payloads, -⟩ := sent.packets seq
  have step := Worker.iterate_send select (show (0 : Int) ≤ w.stream_len_temp - 4 by omega) slice send
  refine ⟨_, _, fs, packets, by omega, ?_, step, parsed, payloads⟩
  intro h0 head
  have front : (nals[i] ++ fileOf (nals.drop (i + 1))).head? = nals[i].head? :=
    List.head?_append_of_ne_nil _ ok.unit.isUnit.nonempty
  rw [List.head?_take, if_neg (by omega), front] at head
  exact sendable_head ok.sendable h0 head

/-- Reading no unit at all, the loop sends an empty packet or leaves the file. -/
theorem Worker.iterate_blind (file : UnitFile stream nals) (ctx : RTPMuxContext) (small : stream_len stream ≤ 4)
    {w' : Worker} {fs : List Bytes} {packets : List Rtp.Packet}
    (taken : (Worker.start stream ctx).iterate stream = some (w', fs)) (parsed : packetsOf fs = some packets) :
    Hevc.receiveAll none (packets.map Rtp.Packet.payload) = none := by
  by_cases positive : 0 < stream_len stream
  · -- The search goes through to the end, and the skipped zeros lead beyond it.
    exfalso
    have six := startOf_lt file.units (Nat.le_refl _) (List.length_pos_of_ne_nil file.nonempty)
    rw [startOf_length] at six
    have limit := file.holds.limit
    unfold Worker.iterate at taken
    simp only [Option.bind_eq_bind, Option.bind_eq_some_iff] at taken
    obtain ⟨v, select, sent, streamed, -⟩ := taken
    obtain ⟨p, r, r1, start, skip, next, rfl⟩ := (selectNextNal_iff file.notNull positive).mp select
    dsimp only [Worker.start] at start next streamed
    have within : stream.base + (stream_len stream).toNat ≤ stream.base + (fileOf nals).length := by omega
    have through := find_startcode_miss file.holds within fun i room => by
      obtain rfl : i = 0 := by omega
      exact not_codeAt_fileOf nals
    cases start.symm.trans through
    obtain ⟨above, beyond⟩ := skipStartcode_lt skip
    obtain ⟨q, search, le⟩ := find_startcode_le
      (show Readable stream r (stream.base + (stream_len stream).toNat) from ⟨by omega, by omega⟩)
    cases next.symm.trans search
    have negative : (r1 : Int) - r < 0 := by omega
    unfold streamNal at streamed
    rw [if_pos negative] at streamed
    cases streamed
  · -- `param error`: no unit is selected.
    have select : selectNextNal stream ⟨stream.base, stream_len stream, 0, 0⟩ = some ⟨stream.base, stream_len stream, 0, 0⟩ := by
      unfold selectNextNal
      rw [if_pos (.inr (Int.not_lt.mp positive))]
      rfl
    have idle : Waiting (initRTPMuxContext ctx) [] := waiting_nil rfl
    obtain ⟨ctx', gs, send, sent, -⟩ := rtpSendNALH265_sent idle [] 0
    obtain ⟨ps, parsed', payloads, -⟩ := sent.packets (s := 0) rfl
    have nothing : stream.slice 0 (0 : Int).toNat = some [] := rfl
    have step := Worker.iterate_send (w := Worker.start stream ctx) select (Int.le_refl 0) nothing send
    cases taken.symm.trans step
    cases parsed.symm.trans parsed'
    rw [payloads]
    rfl

/-- The first `i` units, as far as the loop reads on behind the start code after them. -/
theorem Worker.run_front (file : UnitFile stream nals) (within : stream_len stream ≤ (fileOf nals).length)
    (front : ∀ j < i, startOf nals (j + 1) + 4 < stream_len stream) (ctx : RTPMuxContext) :
    ∃ w fs packets, (Worker.start stream ctx).run stream i = some (w, fs) ∧ packetsOf fs = some packets ∧
      Hevc.receiveAll none (packets.map Rtp.Packet.payload) = some (none, (List.range i).map fun j => nals[j]!) ∧
      packets.map (fun p => p.seq.toNat) = (List.range packets.length).map (· % 65536) ∧
      w.At stream nals i packets.length := by
  have position (j : Nat) (le : j ≤ i) : (nextUnit stream nals)^[j] 0 = j := by
    induction j with
    | zero => rfl
    | succ j ih =>
      have inner := front j le
      rw [Function.iterate_succ_apply', ih (Nat.le_of_succ_le le), nextUnit, if_neg (by omega)]
  obtain ⟨w, fs, packets, run, parsed, units, numbers, last⟩ := Worker.run_whole i file (Worker.at_start file ctx) within
    fun j lt => .inl (by rw [position j (Nat.le_of_lt lt)]; exact front j lt)
  rw [position i (Nat.le_refl i), Nat.zero_add] at last
  have same : (List.range i).map (fun j => nals[(nextUnit stream nals)^[j] 0]!) = (List.range i).map fun j => nals[j]! :=
    List.map_congr_left fun j member => by rw [position j (Nat.le_of_lt (List.mem_range.mp member))]
  rw [same] at units
  rw [← List.range_eq_range'] at numbers
  exact ⟨w, fs, packets, run, parsed, units, numbers, last⟩

/-- What a lossless run delivers in the iteration behind `units`. -/
theorem Lossless.iterate (lossless : Lossless stream ctx nals n) {fs : List Bytes} {ps : List Rtp.Packet} {units : List Bytes}
    (lt : i < n) (run : (Worker.start stream ctx).run stream i = some (w, fs)) (parsed : packetsOf fs = some ps)
    (received : Hevc.receiveAll none (ps.map Rtp.Packet.payload) = some (none, units)) :
    ∃ w' gs qs t more rest, w.iterate stream = some (w', gs) ∧ packetsOf gs = some qs ∧
      Hevc.receiveAll none (qs.map Rtp.Packet.payload) = some (t, more) ∧
      (List.range n).map (fun j => nals[j % nals.length]!) = units ++ (more ++ rest) := by
  obtain ⟨last, all, packets, whole, parsed', depacketized, -⟩ := lossless
  have all' := receiveAll_of_depacketize depacketized
  obtain ⟨b, rfl⟩ : ∃ b, n = i + (b + 1) := ⟨n - i - 1, by omega⟩
  obtain ⟨hs, rest, rfl⟩ := Worker.run_split i run whole
  rw [Worker.run] at rest
  simp only [Option.bind_eq_bind, Option.bind_eq_some_iff, Prod.exists] at rest
  obtain ⟨w', gs, step, w2, others, -, same⟩ := rest
  cases same
  obtain ⟨ps', tail, parsed'', tailParsed, rfl⟩ := packetsOf_split parsed'
  cases parsed.symm.trans parsed''
  obtain ⟨qs, rs, stepParsed, -, rfl⟩ := packetsOf_split tailParsed
  rw [List.map_append, List.map_append] at all'
  obtain ⟨t, xs, ys, first, second, split⟩ := Hevc.receiveAll_split all'
  cases received.symm.trans first
  obtain ⟨t', more, rest, delivered, -, rfl⟩ := Hevc.receiveAll_split second
  exact ⟨w', gs, qs, t', more, rest, step, stepParsed, delivered, split⟩

end

/-- The loop reads `size` bytes of the file, and these hold the first `n` units of its repetition: it does not
come to the end of what it reads, or that is the end of a unit and the units up to there are repeated. -/
def ReadsEnough (nals : List Bytes) (size : Int) (n : Nat) : Prop :=
  n = 0 ∨ n ≤ nals.length ∧ startOf nals n + 4 < size ∨
    ∃ k, 0 < k ∧ k ≤ nals.length ∧ startOf nals k = size ∧ ∀ j < n, nals[j % nals.length]! = nals[j % k]!

section

variable {stream : Segment} {nals : List Bytes} {n : Nat} {ctx : RTPMuxContext}

theorem startOf_mono (units : ∀ nal ∈ nals, Streamable nal) {i k : Nat} (inside : k ≤ nals.length) (le : i ≤ k) :
    startOf nals i ≤ startOf nals k := by
  rcases Nat.lt_or_eq_of_le le with lt | rfl
  · exact Nat.le_trans (Nat.le_add_right _ 6) (startOf_lt units inside lt)
  · exact Nat.le_refl _

/-- A longer file is not read whole. -/
theorem UnitFile.cut (file : UnitFile stream nals) (long : 2 ^ 31 ≤ (fileOf nals).length) :
    stream_len stream < (fileOf nals).length := by
  have narrow : Int.bmod (fileOf nals).length (2 ^ 32) < (2 ^ 32 + 1) / 2 := Int.bmod_lt (by decide)
  rw [file.narrowed]
  omega

theorem lossless_cyclic {k : Nat} (file : UnitFile stream nals) (reads : startOf nals k = stream_len stream) (positive : 0 < k)
    (inside : k ≤ nals.length) (same : ∀ j < n, nals[j % nals.length]! = nals[j % k]!) : Lossless stream ctx nals n := by
  obtain ⟨w, fs, packets, run, parsed, units, numbers⟩ := Worker.run_cyclic file reads positive inside ctx n
  refine ⟨w, fs, packets, run, parsed, ?_, numbers⟩
  rw [Hevc.depacketize_of_receiveAll units]
  exact congrArg some (List.map_congr_left fun j member => (same j (List.mem_range.mp member)).symm)

/-- Where a file is read less than whole, enough of it is read. -/
theorem lossless_of_readsEnough (file : UnitFile stream nals) (within : stream_len stream ≤ (fileOf nals).length)
    (enough : ReadsEnough nals (stream_len stream) n) : Lossless stream ctx nals n := by
  rcases enough with rfl | ⟨inside, room⟩ | ⟨k, positive, inside, reads, same⟩
  · exact ⟨Worker.start stream ctx, [], [], rfl, rfl, rfl, rfl⟩
  · have front (j : Nat) (lt : j < n) : startOf nals (j + 1) + 4 < stream_len stream := by
      have := startOf_mono file.units inside (show j + 1 ≤ n from lt)
      omega
    obtain ⟨w, fs, packets, run, parsed, units, numbers, -⟩ := Worker.run_front file within front ctx
    refine ⟨w, fs, packets, run, parsed, ?_, numbers⟩
    rw [Hevc.depacketize_of_receiveAll units]
    refine congrArg some (List.map_congr_left fun j member => ?_)
    rw [Nat.mod_eq_of_lt (Nat.lt_of_lt_of_le (List.mem_range.mp member) inside)]
  · exact lossless_cyclic file reads positive inside same

/-- Where the file is not read whole there is a first unit that the loop does not read on behind. -/
theorem first_short (file : UnitFile stream nals) (cut : stream_len stream < (fileOf nals).length) :
    ∃ i < nals.length, stream_len stream ≤ startOf nals (i + 1) + 4 ∧
      ∀ j < i, startOf nals (j + 1) + 4 < stream_len stream := by
  have nonempty := List.length_pos_of_ne_nil file.nonempty
  have last : stream_len stream ≤ startOf nals (nals.length - 1 + 1) + 4 := by
    rw [Nat.sub_add_cancel nonempty, startOf_length]
    omega
  have ends : ∃ i, stream_len stream ≤ startOf nals (i + 1) + 4 := ⟨nals.length - 1, last⟩
  classical
  have first : Nat.find ends ≤ nals.length - 1 := Nat.find_min' ends last
  exact ⟨Nat.find ends, by omega, Nat.find_spec ends, fun j lt => Int.not_le.mp (Nat.find_min ends lt)⟩

theorem Lossless.more_than_code (file : UnitFile stream nals) (positive : 0 < n) (lossless : Lossless stream ctx nals n) :
    4 < stream_len stream := by
  by_contra small
  have start : Hevc.receiveAll none (([] : List Rtp.Packet).map Rtp.Packet.payload) = some (none, []) := rfl
  obtain ⟨w', gs, qs, t, more, rest, taken, parsed, received, -⟩ := lossless.iterate positive rfl rfl start
  rw [Worker.iterate_blind file ctx (Int.not_lt.mp small) taken parsed] at received
  cases received

/-- Where the loop does not read on behind unit `i`, it reads to the end of it: another piece of it would not arrive as this unit. -/
theorem Lossless.reads_end {i : Nat} (file : UnitFile stream nals) (cut : stream_len stream < (fileOf nals).length)
    (lossless : Lossless stream ctx nals n) (index : i < nals.length) (reached : i < n)
    (stop : stream_len stream ≤ startOf nals (i + 1) + 4) (before : ∀ j < i, startOf nals (j + 1) + 4 < stream_len stream) :
    startOf nals (i + 1) = stream_len stream := by
  have room : startOf nals i + 4 < stream_len stream := by
    rcases Nat.eq_zero_or_pos i with rfl | some
    · rw [startOf_zero]
      have := lossless.more_than_code file (Nat.zero_lt_of_lt reached)
      omega
    · have := before (i - 1) (by omega)
      rwa [Nat.sub_add_cancel some] at this
  obtain ⟨w, fs, ps, run, parsed, received, -, position⟩ := Worker.run_front file (Int.le_of_lt cut) before ctx
  obtain ⟨piece, w', gs, qs, size, type, taken, parsed', payloads⟩ := Worker.iterate_piece file position cut room stop
  obtain ⟨w'', gs', qs', t, more, rest, taken', parsed'', delivered, all⟩ := lossless.iterate reached run parsed received
  cases taken.symm.trans taken'
  cases parsed'.symm.trans parsed''
  rw [payloads] at delivered
  rcases receiveAll_piece type with nothing | ⟨unit, length, one⟩
  · rw [nothing] at delivered
    cases delivered
  cases one.symm.trans delivered
  have same : nals[i]! = unit := by
    have here := congrArg (·[i]?) all
    simp only [List.getElem?_map, List.getElem?_range reached, Option.map_some, Nat.mod_eq_of_lt index] at here
    rw [List.getElem?_append_right (by simp), List.length_map, List.length_range, Nat.sub_self] at here
    exact Option.some.inj here
  have after := startOf_add index
  rw [getElem!_pos nals i index] at same
  rw [← same] at length
  omega

/-- What arrives where the loop reads to the end of unit `k`. -/
theorem Lossless.repeats {k : Nat} (file : UnitFile stream nals) (lossless : Lossless stream ctx nals n)
    (reads : startOf nals k = stream_len stream) (positive : 0 < k) (inside : k ≤ nals.length) :
    ∀ j < n, nals[j % nals.length]! = nals[j % k]! := by
  obtain ⟨w1, fs1, packets1, run1, parsed1, units1, -⟩ := Worker.run_cyclic file reads positive inside ctx n
  obtain ⟨w2, fs2, packets2, run2, parsed2, units2, -⟩ := lossless
  cases run1.symm.trans run2
  cases parsed1.symm.trans parsed2
  rw [Hevc.depacketize_of_receiveAll units1, Option.some.injEq, List.map_inj_left] at units2
  exact fun j lt => (units2 j (List.mem_range.mpr lt)).symm

/-- A lossless run on a file that is not read whole. -/
theorem Lossless.readsEnough (file : UnitFile stream nals) (cut : stream_len stream < (fileOf nals).length)
    (lossless : Lossless stream ctx nals n) : ReadsEnough nals (stream_len stream) n := by
  obtain ⟨i, index, stop, before⟩ := first_short file cut
  rcases Nat.eq_zero_or_pos n with none | positive
  · exact .inl none
  · refine .inr ?_
    by_cases reached : i < n
    · have reads := lossless.reads_end file cut index reached stop before
      exact .inr ⟨i + 1, Nat.succ_pos i, index, reads, lossless.repeats file reads (Nat.succ_pos i) index⟩
    · have last := before (n - 1) (by omega)
      rw [Nat.sub_add_cancel positive] at last
      exact .inl ⟨by omega, last⟩

end

/-- Over `n` iterations the loop is lossless exactly when an `int` holds the length of the file, or the length
that `readFile` makes of it still covers what these iterations need. -/
theorem worker_lossless_iff (base : Nat) (ctx : RTPMuxContext) (nals : List Bytes) (n : Nat) (notNull : base ≠ 0)
    (nonempty : nals ≠ []) (units : ∀ nal ∈ nals, Streamable nal) :
    Lossless ⟨base, fileOf nals⟩ ctx nals n ↔
      (fileOf nals).length < 2 ^ 31 ∨ ReadsEnough nals (stream_len ⟨base, fileOf nals⟩) n := by
  have file : UnitFile ⟨base, fileOf nals⟩ nals := ⟨notNull, Segment.holds_base ⟨base, fileOf nals⟩, nonempty, units⟩
  by_cases fits : (fileOf nals).length < 2 ^ 31
  · have whole : StreamableFile ⟨base, fileOf nals⟩ nals := ⟨file, fits⟩
    exact ⟨fun _ => .inl fits, fun _ =>
      lossless_cyclic file whole.reads (List.length_pos_of_ne_nil nonempty) (Nat.le_refl _) fun _ _ => rfl⟩
  · have cut : stream_len ⟨base, fileOf nals⟩ < (fileOf nals).length := file.cut (Nat.not_lt.mp fits)
    rw [or_iff_right fits]
    exact ⟨Lossless.readsEnough file cut, lossless_of_readsEnough file (Int.le_of_lt cut)⟩

theorem worker_lossless_iff_two :
    let nals : List Bytes := [[0x40, 1, 7], [0x42, 1]]
    let ctx : RTPMuxContext := ⟨.zero _, .zero _, 0, 0, 0, 0, 0, 0⟩
    (1 ≠ 0 ∧ nals ≠ [] ∧ ∀ nal ∈ nals, Streamable nal) ∧
      (Lossless ⟨1, fileOf nals⟩ ctx nals 3 ↔
        (fileOf nals).length < 2 ^ 31 ∨ ReadsEnough nals (stream_len ⟨1, fileOf nals⟩) 3) :=
  ⟨⟨streamable_two.notNull, streamable_two.nonempty, streamable_two.units⟩,
    worker_lossless_iff 1 ⟨.zero _, .zero _, 0, 0, 0, 0, 0, 0⟩ _ 3 streamable_two.notNull streamable_two.nonempty
      streamable_two.units⟩

/-! ### A file of 2^31 bytes -/

/-- A unit of `n` bytes behind its header. -/
def longUnit (n : Nat) : Bytes := 0x40 :: 1 :: List.replicate n 1

theorem longUnit_streamable (n : Nat) : Streamable (longUnit n) := by
  have nonzero : 0 ∉ longUnit n := by simp [longUnit]
  refine ⟨⟨Nat.le_add_left 2 _, ?_, ?_⟩, ?_, fun _ => ?_⟩
  · exact fun inside => nonzero (inside.subset List.mem_cons_self)
  · exact fun last => nonzero (List.mem_of_getLast? last)
  · show Hevc.nalType 0x40 < 48
    decide
  · show Hevc.fBit 0x40 = 0 ∧ Hevc.layerId 0x40 1 = 0 ∧ Hevc.tid 1 = 1
    decide

theorem fileOf_longUnit (n : Nat) : (fileOf [longUnit n]).length = n + 6 := by
  simp [fileOf, annexB, NalUnit.bytes, StartCode.bytes, longUnit]

theorem not_lossless_longUnit (ctx : RTPMuxContext) {n : Nat} (long : 2 ^ 31 ≤ n + 6) (narrow : n + 6 < 2 ^ 32) :
    ¬ Lossless ⟨1, fileOf [longUnit n]⟩ ctx [longUnit n] 1 := by
  intro lossless
  have file : UnitFile ⟨1, fileOf [longUnit n]⟩ [longUnit n] :=
    ⟨by simp, Segment.holds_base ⟨1, fileOf [longUnit n]⟩, by simp, List.forall_mem_singleton.mpr (longUnit_streamable n)⟩
  have length := fileOf_longUnit n
  have negative : stream_len ⟨1, fileOf [longUnit n]⟩ < 0 := by
    rw [file.narrowed, length]
    exact (Int.bmod_neg_iff (by omega) (by omega)).mpr (.inr (by omega))
  rcases lossless.readsEnough file (file.cut (by omega)) with none | ⟨-, short⟩ | ⟨k, -, -, reads, -⟩
  · cases none
  · omega
  · omega

/-- One unit of 2147483642 bytes makes a file of 2^31 bytes. -/
theorem not_worker_lossless :
    let nals : List Bytes := [longUnit 2147483642]
    let ctx : RTPMuxContext := ⟨.zero _, .zero _, 0, 0, 0, 0, 0, 0⟩
    (1 ≠ 0 ∧ nals ≠ [] ∧ ∀ nal ∈ nals, Streamable nal) ∧ (fileOf nals).length = 2 ^ 31 ∧
      ¬ Lossless ⟨1, fileOf nals⟩ ctx nals 1 :=
  ⟨⟨by decide, List.cons_ne_nil _ _, List.forall_mem_singleton.mpr (longUnit_streamable 2147483642)⟩,
    fileOf_longUnit 2147483642, not_lossless_longUnit _ (by decide) (by decide)⟩

end RtspServer
