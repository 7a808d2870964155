import RtspServer.Media.H264Sender
import RtspServer.Media.SimStreamer
import Mathlib.Data.List.Forall2

/-!
# The whole-buffer H.264 sender

`rtpSendH264AVC` finds the units of a byte stream and sends them one by one. The
receiver gets exactly the units, whatever their start codes are.
-/

namespace RtspServer.RTPEnc

/-- `while (r < end)`. A negative length makes the copy of the payload leave every array. -/
def sendUnits (m : Segment) (last : Nat) : Nat → RTPMuxContext → Nat → Option (RTPMuxContext × List Bytes)
  | 0, ctx, r => if r < last then none else some (ctx, [])
  | fuel + 1, ctx, r =>
    if r < last then do
      let r ← skipStartcode m r
      let r1 ← ff_avc_find_startcode m r last
      if r1 < r then none
      let (ctx, ds) ← rtpSendNALH264AVC ctx (← m.slice r (r1 - r)) (if r1 = last then 1 else 0)
      -- `timestamp += 90000.0 / 25`: the sum is formed in double and taken modulo 2^32.
      let (ctx, more) ← sendUnits m last fuel { ctx with timestamp := ctx.timestamp + 3600 } r1
      return (ctx, ds ++ more)
    else some (ctx, [])

/-- The context afterwards and the datagrams sent, for a context and a UDP context that are not null.
Every round of the loop moves `r` by one byte at least. -/
def rtpSendH264AVC (m : Segment) (ctx : RTPMuxContext) (buf : Nat) (size : Int) :
    Option (RTPMuxContext × List Bytes) :=
  if buf = 0 ∨ size ≤ 0 then some (ctx, [])
  else do
    let last := buf + size.toNat
    let r ← ff_avc_find_startcode m buf last
    sendUnits m last size.toNat ctx r

/-! ### The packets of a unit -/

theorem parse_datagram (timestamp ssrc seq : UInt32) (payload : Bytes) (mark : Int) :
    ∃ packet, Rtp.parse (datagram timestamp ssrc seq (payload, mark)) = some packet ∧
      packet.marker = decide (mark % 2 = 1) ∧ packet.seq = seq.toUInt16 ∧ packet.timestamp = timestamp ∧
      packet.payload = payload := by
  refine ⟨_, Rtp.parse_fixed _ seq.toUInt16 timestamp ssrc payload, ?_, rfl, rfl, rfl⟩
  rcases Int.emod_two_eq mark with even | odd
  · rw [even]; rfl
  · rw [odd]; rfl

theorem datagrams_packets (timestamp ssrc : UInt32) {seq : UInt32} {s : Nat} (out : List (Bytes × Int))
    (start : seq.toNat = s % 65536) :
    ∃ packets, (datagrams timestamp ssrc seq out).mapM Rtp.parse = some packets ∧
      packets.map Rtp.Packet.payload = out.map Prod.fst ∧ (∀ p ∈ packets, p.timestamp = timestamp) ∧
      packets.map (fun p => p.seq.toNat) = (List.range' s out.length).map (· % 65536) ∧
      packets.map Rtp.Packet.marker = out.map fun o => decide (o.2 % 2 = 1) := by
  induction out generalizing seq s with
  | nil => exact ⟨[], rfl, rfl, fun p member => absurd member List.not_mem_nil, rfl, rfl⟩
  | cons o out ih =>
    have next : (nextSeq seq).toNat = (s + 1) % 65536 := by rw [nextSeq_toNat]; omega
    obtain ⟨packets, parsed, payloads, stamps, numbers, markers⟩ := ih next
    obtain ⟨packet, first, marker, number, stamp, payload⟩ := parse_datagram timestamp ssrc seq o.1 o.2
    refine ⟨packet :: packets, ?_, ?_, List.forall_mem_cons.mpr ⟨stamp, stamps⟩, ?_, ?_⟩
    · rw [datagrams, List.mapM_cons, first, parsed]
      rfl
    · rw [List.map_cons, List.map_cons, payload, payloads]
    · have head : packet.seq.toNat = s % 65536 := by
        rw [number, UInt32.toNat_toUInt16]
        omega
      rw [List.map_cons, numbers, head, List.length_cons, List.range'_succ, List.map_cons]
    · rw [List.map_cons, List.map_cons, marker, markers]

theorem marked_fst (last : Int) (ps : List Bytes) : (marked last ps).map Prod.fst = ps := by
  induction ps with
  | nil => rfl
  | cons p ps ih =>
    cases ps with
    | nil => rfl
    | cons q ps => rw [marked_cons last p (List.cons_ne_nil q ps), List.map_cons, ih]

theorem marked_snd (last : Int) {ps : List Bytes} (some : ps ≠ []) :
    ∃ n, (marked last ps).map Prod.snd = List.replicate n 0 ++ [last] := by
  induction ps with
  | nil => exact absurd rfl some
  | cons p ps ih =>
    cases ps with
    | nil => exact ⟨0, rfl⟩
    | cons q ps =>
      obtain ⟨n, same⟩ := ih (List.cons_ne_nil q ps)
      exact ⟨n + 1, by rw [marked_cons last p (List.cons_ne_nil q ps), List.map_cons, same]; rfl⟩

theorem receiveAll_payloadsOf {nal : Bytes} (sendable : H264.Sendable nal) :
    Rtp.receiveAll H264.receive none (payloadsOf nal) = some (none, [nal]) := by
  unfold payloadsOf
  split
  · exact Rtp.receiveAll_one (H264.receive_single sendable)
  · match nal, sendable with
    | h :: data, ⟨plain, _⟩ =>
      apply H264.receiveAll_fuPayloads plain (Hevc.cut_ne_nil _ _ _)
      rw [Hevc.cut_flatten, List.take_append_drop]

theorem payloadsOf_ne_nil {nal : Bytes} (sendable : H264.Sendable nal) : payloadsOf nal ≠ [] := by
  intro none
  have received := receiveAll_payloadsOf sendable
  rw [none] at received
  cases received

/-- A context between two units, with packet number `s` to come. -/
structure Ready (ctx : RTPMuxContext) (s : Nat) : Prop where
  single : ctx.aggregation = 0
  empty : ctx.buf_ptr = 0
  seq : ctx.seq.toNat = s % 65536

/-- The packets of one unit: a receiver puts them together to the unit, and they share one timestamp. -/
structure Carries (packets : List Rtp.Packet) (nal : Bytes) : Prop where
  received : Rtp.receiveAll H264.receive none (packets.map Rtp.Packet.payload) = some (none, [nal])
  stamped : ∃ timestamp, ∀ p ∈ packets, p.timestamp = timestamp

/-- Only the last packet has the marker bit, and that exactly if `last`. -/
structure MarkedLast (packets : List Rtp.Packet) (last : Bool) : Prop where
  inner : ∀ p ∈ packets.dropLast, p.marker = false
  final : ∀ p ∈ packets.getLast?, p.marker = last

theorem send_unit {ctx : RTPMuxContext} {s : Nat} {nal : Bytes} (ready : Ready ctx s) (sendable : H264.Sendable nal)
    (last : Bool) :
    ∃ ctx' ds packets, rtpSendNALH264AVC ctx nal (if last then 1 else 0) = some (ctx', ds) ∧
      ds.mapM Rtp.parse = some packets ∧ packets ≠ [] ∧ Carries packets nal ∧ MarkedLast packets last ∧
      packets.map (fun p => p.seq.toNat) = (List.range' s packets.length).map (· % 65536) ∧
      Ready ctx' (s + packets.length) := by
  have some := payloadsOf_ne_nil sendable
  obtain ⟨ctx', ds, step, emitted, reset⟩ := rtpSendNALH264AVC_emitted ready.single ready.empty nal (if last then 1 else 0)
  obtain ⟨packets, parsed, payloads, stamps, numbers, markers⟩ :=
    datagrams_packets ctx.timestamp ctx.ssrc (marked (if last then 1 else 0) (payloadsOf nal)) ready.seq
  rw [marked_fst] at payloads
  have count : packets.length = (marked (if last then 1 else 0) (payloadsOf nal)).length := by
    rw [← List.length_map Rtp.Packet.marker, markers, List.length_map]
  obtain ⟨n, marks⟩ := marked_snd (if last then 1 else 0) some
  have bits : packets.map Rtp.Packet.marker = List.replicate n false ++ [last] := by
    have each := congrArg (List.map fun mark : Int => decide (mark % 2 = 1)) marks
    rw [List.map_map] at each
    rw [markers]
    apply each.trans
    rw [List.map_append, List.map_replicate]
    cases last <;> rfl
  refine ⟨ctx', ds, packets, step, by rw [emitted.datagrams]; exact parsed, ?_, ⟨?_, ctx.timestamp, stamps⟩, ⟨?_, ?_⟩, ?_, ?_⟩
  · rintro rfl
    exact some payloads.symm
  · rw [payloads]
    exact receiveAll_payloadsOf sendable
  · intro p member
    have inside : p.marker ∈ (packets.map Rtp.Packet.marker).dropLast := by
      rw [← List.map_dropLast]
      exact List.mem_map_of_mem member
    rw [bits, List.dropLast_concat] at inside
    exact List.eq_of_mem_replicate inside
  · intro p final
    have ends := congrArg List.getLast? bits
    rw [List.getLast?_map, final, List.getLast?_concat] at ends
    exact Option.some.inj ends
  · rw [count]
    exact numbers
  · refine ⟨emitted.aggregation.trans ready.single, reset, ?_⟩
    rw [emitted.seq, count]
    exact nextSeq_iterate _ _ _ ready.seq

/-! ### The loop over the units -/

theorem MarkedLast.append {xs ys : List Rtp.Packet} {last : Bool} (first : MarkedLast xs false) (second : MarkedLast ys last)
    (more : ys ≠ []) : MarkedLast (xs ++ ys) last := by
  constructor
  · intro p member
    rw [List.dropLast_append_of_ne_nil more] at member
    rcases List.mem_append.mp member with early | late
    · have some := List.ne_nil_of_mem early
      rw [← List.dropLast_append_getLast some, List.mem_append, List.mem_singleton] at early
      rcases early with inner | rfl
      · exact first.inner p inner
      · exact first.final _ (List.getLast?_eq_getLast_of_ne_nil some)
    · exact second.inner p late
  · intro p final
    rw [List.getLast?_append_of_ne_nil xs more] at final
    exact second.final p final

variable {m : Segment}

theorem find_first {r : Nat} {u : NalUnit} {us : List NalUnit} (unit : IsUnit u.nal) (h : m.Holds r (annexB (u :: us))) :
    ff_avc_find_startcode m r m.limit = some r ∧ skipStartcode m r = some (r + u.code.bytes.length) := by
  have limit := h.limit
  have positive := List.length_pos_of_ne_nil unit.nonempty
  rw [annexB_cons, NalUnit.bytes, List.append_assoc] at h limit
  rw [List.length_append, List.length_append] at limit
  exact ⟨find_startcode_here u.code h (Nat.le_refl _) (by omega), skipStartcode_code u.code h⟩

theorem find_boundary {r : Nat} {u : NalUnit} {us : List NalUnit} (units : ∀ w ∈ u :: us, IsUnit w.nal)
    (h : m.Holds r (u.nal ++ annexB us)) : ff_avc_find_startcode m r m.limit = some (r + u.nal.length) := by
  have unit := units u List.mem_cons_self
  have limit := h.limit
  cases us with
  | nil =>
    rw [annexB, List.flatMap_nil, List.append_nil] at h limit
    rw [find_startcode_last unit h (Nat.le_of_eq limit), limit]
  | cons next us =>
    have positive := List.length_pos_of_ne_nil (units next (List.mem_cons_of_mem _ List.mem_cons_self)).nonempty
    rw [annexB_cons, NalUnit.bytes, List.append_assoc] at h limit
    simp only [List.length_append] at limit
    exact find_startcode_next next.code unit h (Nat.le_refl _) (by omega)

theorem length_le_annexB (us : List NalUnit) : us.length ≤ (annexB us).length := by
  induction us with
  | nil => exact Nat.zero_le _
  | cons u us ih =>
    have code : 0 < u.code.bytes.length := by cases u.code <;> decide
    rw [annexB_cons, NalUnit.bytes, List.length_append, List.length_append, List.length_cons]
    omega

theorem annexB_length_eq_zero (us : List NalUnit) : (annexB us).length = 0 ↔ us = [] := by
  constructor
  · intro none
    have short := length_le_annexB us
    exact List.eq_nil_of_length_eq_zero (by omega)
  · intro none
    rw [none]
    rfl

theorem Carries.ne_nil {packets : List Rtp.Packet} {nal : Bytes} (carries : Carries packets nal) : packets ≠ [] := by
  rintro rfl
  cases carries.received

/-- What goes out for `us`, with packet number `s` first: a group of packets for each unit. -/
structure Delivers (us : List NalUnit) (s : Nat) (ds : List Bytes) (groups : List (List Rtp.Packet)) : Prop where
  parsed : ds.mapM Rtp.parse = some groups.flatten
  carried : List.Forall₂ (fun packets u => Carries packets u.nal) groups us
  numbers : groups.flatten.map (fun p => p.seq.toNat) = (List.range' s groups.flatten.length).map (· % 65536)
  marked : MarkedLast groups.flatten true

theorem Delivers.flatten_ne_nil {us : List NalUnit} {s : Nat} {ds : List Bytes} {groups : List (List Rtp.Packet)}
    (delivers : Delivers us s ds groups) (some : us ≠ []) : groups.flatten ≠ [] := by
  obtain ⟨_, carried, _, _⟩ := delivers
  cases carried with
  | nil => exact absurd rfl some
  | cons first _ => exact List.append_ne_nil_of_left_ne_nil first.ne_nil _

theorem Delivers.cons {u : NalUnit} {us : List NalUnit} {s : Nat} {ds more : List Bytes} {packets : List Rtp.Packet}
    {groups : List (List Rtp.Packet)} (delivers : Delivers us (s + packets.length) more groups)
    (parsed : ds.mapM Rtp.parse = some packets) (carries : Carries packets u.nal)
    (numbers : packets.map (fun p => p.seq.toNat) = (List.range' s packets.length).map (· % 65536))
    (marked : MarkedLast packets (us = [])) : Delivers (u :: us) s (ds ++ more) (packets :: groups) := by
  refine ⟨?_, .cons carries delivers.carried, ?_, ?_⟩
  · rw [List.mapM_append, parsed, delivers.parsed]
    rfl
  · rw [List.flatten_cons, List.map_append, numbers, delivers.numbers, ← List.map_append, List.length_append]
    congr 1
    rw [← List.range'_append_1]
  · rw [List.flatten_cons]
    by_cases alone : us = []
    · subst alone
      obtain ⟨_, carried, _, _⟩ := delivers
      cases carried
      rw [List.flatten_nil, List.append_nil]
      exact marked
    · exact MarkedLast.append (by rwa [decide_eq_false alone] at marked) delivers.marked (delivers.flatten_ne_nil alone)

/-- `r` stands at a start code or at the end in every round. -/
theorem sendUnits_delivers {us : List NalUnit} {ctx : RTPMuxContext} {r s fuel : Nat} (h : m.Holds r (annexB us))
    (units : ∀ u ∈ us, IsUnit u.nal ∧ H264.Sendable u.nal) (ready : Ready ctx s) (enough : us.length ≤ fuel) :
    ∃ ctx' ds groups, sendUnits m m.limit fuel ctx r = some (ctx', ds) ∧ Delivers us s ds groups := by
  induction us generalizing ctx r s fuel with
  | nil =>
    have here : ¬ r < m.limit := by rw [h.limit]; exact Nat.lt_irrefl r
    refine ⟨ctx, [], [], ?_, ⟨rfl, .nil, rfl, ⟨fun p member => ?_, fun p member => ?_⟩⟩⟩
    · cases fuel <;> exact if_neg here
    · exact absurd member List.not_mem_nil
    · cases member
  | cons u us ih =>
    obtain ⟨fuel, rfl⟩ := Nat.exists_eq_add_of_lt (Nat.lt_of_lt_of_le (Nat.zero_lt_succ us.length) enough)
    have shapes : ∀ w ∈ u :: us, IsUnit w.nal := fun w member => (units w member).1
    obtain ⟨unit, sendable⟩ := units u List.mem_cons_self
    have positive := List.length_pos_of_ne_nil unit.nonempty
    have limit := h.limit
    obtain ⟨-, skip⟩ := find_first unit h
    rw [annexB_cons, NalUnit.bytes, List.append_assoc] at h limit
    have behind := h.advance
    have boundary := find_boundary shapes behind
    have slice := behind.slice
    have rest := behind.advance
    simp only [List.length_append] at limit
    let last : Bool := us = []
    have final : (if r + u.code.bytes.length + u.nal.length = m.limit then (1 : Int) else 0) = if last then 1 else 0 := by
      have more := annexB_length_eq_zero us
      by_cases alone : us = []
      · have none := more.mpr alone
        rw [if_pos (by omega), if_pos (decide_eq_true alone)]
      · have some := mt more.mp alone
        rw [if_neg (by omega), if_neg (by simpa [last] using alone)]
    obtain ⟨ctx1, ds, packets, send, parsed, some, carries, marked, numbers, ready1⟩ := send_unit ready sendable last
    have fuelled : us.length ≤ fuel := by simp only [List.length_cons] at enough; omega
    have ready2 : Ready { ctx1 with timestamp := ctx1.timestamp + 3600 } (s + packets.length) :=
      ⟨ready1.single, ready1.empty, ready1.seq⟩
    obtain ⟨ctx2, more, groups, run, delivers⟩ :=
      ih rest (fun w member => units w (List.mem_cons_of_mem _ member)) ready2 fuelled
    refine ⟨ctx2, ds ++ more, packets :: groups, ?_, delivers.cons parsed carries numbers marked⟩
    rw [Nat.zero_add, sendUnits, if_pos (by omega), skip]
    simp only [Option.bind_eq_bind, Option.bind_some, boundary]
    rw [if_neg (by omega), Nat.add_sub_cancel_left, slice, Option.bind_some, final, send, Option.bind_some, run]
    rfl

theorem receiveAll_groups {groups : List (List Rtp.Packet)} {us : List NalUnit}
    (carried : List.Forall₂ (fun packets u => Carries packets u.nal) groups us) :
    Rtp.receiveAll H264.receive none (groups.flatten.map Rtp.Packet.payload) = some (none, us.map NalUnit.nal) := by
  induction carried with
  | nil => rfl
  | cons carries _ ih =>
    rw [List.flatten_cons, List.map_append]
    exact Rtp.receiveAll_append carries.received ih

/-- The packets of the whole buffer: every unit comes back in its place, the packets are
numbered on from zero, and only the very last one carries the marker bit. -/
theorem rtpSendH264AVC_lossless (base : Nat) (notNull : base ≠ 0) (ctx : RTPMuxContext) (us : List NalUnit)
    (units : ∀ u ∈ us, IsUnit u.nal ∧ H264.Sendable u.nal) :
    ∃ ctx' ds groups,
      rtpSendH264AVC ⟨base, annexB us⟩ (initRTPMuxContext ctx) base (annexB us).length = some (ctx', ds) ∧
      ds.mapM Rtp.parse = some groups.flatten ∧
      List.Forall₂ (fun packets u => Carries packets u.nal) groups us ∧
      H264.depacketize (groups.flatten.map Rtp.Packet.payload) = some (us.map NalUnit.nal) ∧
      groups.flatten.map (fun p => p.seq.toNat) = (List.range groups.flatten.length).map (· % 65536) ∧
      MarkedLast groups.flatten true := by
  have holds : (⟨base, annexB us⟩ : Segment).Holds base (annexB us) := Segment.holds_base ⟨base, annexB us⟩
  have ready : Ready (initRTPMuxContext ctx) 0 := ⟨rfl, rfl, rfl⟩
  obtain ⟨ctx', ds, groups, run, delivers⟩ := sendUnits_delivers holds units ready (length_le_annexB us)
  refine ⟨ctx', ds, groups, ?_, delivers.parsed, delivers.carried,
    H264.depacketize_of_receiveAll (receiveAll_groups delivers.carried), ?_, delivers.marked⟩
  · unfold rtpSendH264AVC
    match us, units, holds, run with
    | [], _, _, run =>
      rw [if_pos (Or.inr (show ((annexB []).length : Int) ≤ 0 from Int.le_refl 0))]
      have done : some (initRTPMuxContext ctx, []) = some (ctx', ds) := (if_neg (Nat.lt_irrefl base)).symm.trans run
      exact done
    | u :: us, units, holds, run =>
      have nonempty := length_le_annexB (u :: us)
      obtain ⟨start, -⟩ := find_first (units u List.mem_cons_self).1 holds
      rw [if_neg (by rw [List.length_cons] at nonempty; omega), Int.toNat_natCast]
      have limit := holds.limit
      rw [limit] at start run
      simp only [Option.bind_eq_bind, start, Option.bind_some, run]
  · rw [delivers.numbers, List.range_eq_range']

/-- The stream `00 00 01 65 01 00 00 00 01 06 09`. -/
theorem rtpSendH264AVC_lossless_mixed :
    let us : List NalUnit := [⟨.three, [0x65, 1]⟩, ⟨.four, [6, 9]⟩]
    let ctx : RTPMuxContext := ⟨.zero _, .zero _, 0, 0, 0, 0, 0, 0⟩
    (64 ≠ 0 ∧ ∀ u ∈ us, IsUnit u.nal ∧ H264.Sendable u.nal) ∧
      ∃ ctx' ds groups, rtpSendH264AVC ⟨64, annexB us⟩ (initRTPMuxContext ctx) 64 11 = some (ctx', ds) ∧
        ds.mapM Rtp.parse = some groups.flatten ∧
        List.Forall₂ (fun packets u => Carries packets u.nal) groups us ∧
        H264.depacketize (groups.flatten.map Rtp.Packet.payload) = some [[0x65, 1], [6, 9]] ∧
        groups.flatten.map (fun p => p.seq.toNat) = (List.range groups.flatten.length).map (· % 65536) ∧
        MarkedLast groups.flatten true :=
  have units : ∀ u ∈ ([⟨.three, [0x65, 1]⟩, ⟨.four, [6, 9]⟩] : List NalUnit), IsUnit u.nal ∧ H264.Sendable u.nal := by
    decide
  ⟨⟨by decide, units⟩, rtpSendH264AVC_lossless 64 (by decide) ⟨.zero _, .zero _, 0, 0, 0, 0, 0, 0⟩ _ units⟩

end RtspServer.RTPEnc
