import RtspServer.Media.Aggregation
import RtspServer.Media.H264Aggregation
import RtspServer.Media.UnitLoop

/-!
# The packets of a buffer

What the whole-buffer senders put on the wire for an arbitrary buffer: a group
of packets for each unit, under one timestamp, and what a receiver makes of it.
-/

namespace RtspServer.RTPEnc

/-! ### Calls with a clock -/

/-- The packets of several calls, the clock advancing after each: one group for each call. -/
structure Posted (ticks timestamp : UInt32) (s : Nat) (outs : List (List (Bytes × Int))) (calls : List (List Bytes))
    (groups : List (List Rtp.Packet)) : Prop where
  parsed : calls.mapM (fun ds => ds.mapM Rtp.parse) = some groups
  payloads : groups.map (List.map Rtp.Packet.payload) = outs.map (List.map Prod.fst)
  markers : groups.map (List.map Rtp.Packet.marker) = outs.map (List.map fun o => decide (o.2 % 2 = 1))
  numbers : groups.flatten.map (fun p => p.seq.toNat) = (List.range' s groups.flatten.length).map (· % 65536)
  stamps : ∀ k, ∀ packets ∈ groups[k]?, ∀ p ∈ packets, p.timestamp = timestamp + UInt32.ofNat k * ticks

section

variable {ticks timestamp : UInt32} {s : Nat}

theorem posted_nil : Posted ticks timestamp s [] [] [] :=
  ⟨rfl, rfl, rfl, rfl, fun _ _ none => by cases none⟩

theorem Posted.cons {out : List (Bytes × Int)} {outs : List (List (Bytes × Int))} {ds : List Bytes}
    {calls : List (List Bytes)} {packets : List Rtp.Packet} {groups : List (List Rtp.Packet)}
    (posted : Posted ticks (timestamp + ticks) (s + packets.length) outs calls groups) (parsed : ds.mapM Rtp.parse = some packets)
    (payloads : packets.map Rtp.Packet.payload = out.map Prod.fst) (stamps : ∀ p ∈ packets, p.timestamp = timestamp)
    (numbers : packets.map (fun p => p.seq.toNat) = (List.range' s packets.length).map (· % 65536))
    (markers : packets.map Rtp.Packet.marker = out.map fun o => decide (o.2 % 2 = 1)) :
    Posted ticks timestamp s (out :: outs) (ds :: calls) (packets :: groups) := by
  refine ⟨?_, ?_, ?_, ?_, ?_⟩
  · rw [List.mapM_cons, parsed, posted.parsed]
    rfl
  · rw [List.map_cons, List.map_cons, payloads, posted.payloads]
  · rw [List.map_cons, List.map_cons, markers, posted.markers]
  · rw [List.flatten_cons, List.map_append, numbers, posted.numbers, ← List.map_append, List.length_append]
    congr 1
    rw [← List.range'_append_1]
  · intro k group member p inside
    cases k with
    | zero =>
      cases member
      rw [stamps p inside]
      simp
    | succ k =>
      have advance : UInt32.ofNat (k + 1) = UInt32.ofNat k + 1 := UInt32.ofNat_add k 1
      rw [posted.stamps k group member p inside, advance]
      grind

theorem mapM_flatten {α β : Type} {f : α → Option β} {xss : List (List α)} {yss : List (List β)}
    (each : xss.mapM (fun xs => xs.mapM f) = some yss) : xss.flatten.mapM f = some yss.flatten := by
  induction xss generalizing yss with
  | nil =>
    cases each
    rfl
  | cons xs xss ih =>
    rw [List.mapM_cons] at each
    simp only [Option.bind_eq_bind, Option.bind_eq_some_iff] at each
    obtain ⟨ys, first, zss, rest, same⟩ := each
    cases same
    rw [List.flatten_cons, List.mapM_append, first, ih rest]
    rfl

/-- A clock that starts at zero, after `k` steps that fit. -/
theorem Posted.clock {outs : List (List (Bytes × Int))} {calls : List (List Bytes)} {groups : List (List Rtp.Packet)} {k : Nat}
    (posted : Posted ticks 0 s outs calls groups) (fits : k * ticks.toNat < 2 ^ 32) :
    ∀ packets ∈ groups[k]?, ∀ p ∈ packets, p.timestamp.toNat = k * ticks.toNat := by
  intro packets member p inside
  rw [posted.stamps k packets member p inside, UInt32.zero_add, UInt32.toNat_mul, UInt32.toNat_ofNat', Nat.mod_mul_mod,
    Nat.mod_eq_of_lt fits]

end

/-- What is known of a sender: in a context that satisfies `Inv` a call for an allowed unit sends what `call` says. -/
structure Calls (send : RTPMuxContext → Bytes → Int → Option (RTPMuxContext × List Bytes))
    (Inv : RTPMuxContext → List Bytes → Prop) (allowed : Bytes → Prop)
    (call : List Bytes → Bytes → Int → Option (List (Bytes × Int) × List Bytes)) : Prop where
  sent : ∀ {ctx waiting nal last out kept}, Inv ctx waiting → allowed nal → call waiting nal last = some (out, kept) →
    ∃ ctx' ds, send ctx nal last = some (ctx', ds) ∧ Emitted ctx ctx' out ds ∧ Inv ctx' kept
  overflow : ∀ {ctx waiting nal last}, Inv ctx waiting → allowed nal → call waiting nal last = none → send ctx nal last = none
  clock : ∀ {ctx waiting} timestamp, Inv ctx waiting → Inv { ctx with timestamp } waiting

/-- What the calls for the units send, each in a list of its own, and the units that wait at the end. -/
def callOuts (call : List Bytes → Bytes → Int → Option (List (Bytes × Int) × List Bytes)) :
    List Bytes → List NalUnit → Option (List (List (Bytes × Int)) × List Bytes)
  | waiting, [] => some ([], waiting)
  | waiting, u :: us =>
    (call waiting u.nal (if us = [] then 1 else 0)).bind fun r => (callOuts call r.2 us).map fun q => (r.1 :: q.1, q.2)

section

variable {send : RTPMuxContext → Bytes → Int → Option (RTPMuxContext × List Bytes)} (ticks : UInt32)
  {Inv : RTPMuxContext → List Bytes → Prop} {allowed : Bytes → Prop}
  {call : List Bytes → Bytes → Int → Option (List (Bytes × Int) × List Bytes)} {ctx : RTPMuxContext}
  {waiting kept : List Bytes} {us : List NalUnit} {outs : List (List (Bytes × Int))} {s : Nat}

theorem sendCalls_posted (calls : Calls send Inv allowed call) (inv : Inv ctx waiting) (units : ∀ u ∈ us, allowed u.nal)
    (seq : ctx.seq.toNat = s % 65536) (run : callOuts call waiting us = some (outs, kept)) :
    ∃ ctx' sent groups, sendCalls send ticks ctx us = some (ctx', sent) ∧
      Posted ticks ctx.timestamp s outs sent groups ∧ Inv ctx' kept := by
  induction us generalizing ctx waiting s outs with
  | nil =>
    cases run
    exact ⟨ctx, [], [], rfl, posted_nil, inv⟩
  | cons u us ih =>
    rw [List.forall_mem_cons] at units
    rw [callOuts, Option.bind_eq_some_iff] at run
    obtain ⟨⟨out, left⟩, first, rest⟩ := run
    rw [Option.map_eq_some_iff] at rest
    obtain ⟨⟨outs', kept'⟩, later, same⟩ := rest
    cases same
    obtain ⟨ctx1, ds, step, emitted, inv1⟩ := calls.sent inv units.1 first
    obtain ⟨packets, parsed, payloads, stamps, numbers, markers⟩ := datagrams_packets ctx.timestamp ctx.ssrc out seq
    have count : packets.length = out.length := by
      rw [← List.length_map Rtp.Packet.payload, payloads, List.length_map]
    have next : ({ ctx1 with timestamp := ctx1.timestamp + ticks } : RTPMuxContext).seq.toNat = (s + packets.length) % 65536 := by
      rw [count]
      show ctx1.seq.toNat = _
      rw [emitted.seq]
      exact nextSeq_iterate _ _ _ seq
    obtain ⟨ctx2, more, groups, go, posted, inv2⟩ := ih (calls.clock (ctx1.timestamp + ticks) inv1) units.2 next later
    refine ⟨ctx2, ds :: more, packets :: groups, ?_, Posted.cons ?_ ?_ payloads stamps ?_ markers, inv2⟩
    · rw [sendCalls, step]
      simp only [Option.bind_eq_bind, Option.bind_some, go, Option.pure_def]
    · rw [← emitted.timestamp]
      exact posted
    · rw [emitted.datagrams]
      exact parsed
    · rw [count]
      exact numbers

theorem sendEach_overflow (calls : Calls send Inv allowed call) (inv : Inv ctx waiting) (units : ∀ u ∈ us, allowed u.nal)
    (run : callOuts call waiting us = none) : sendEach send ticks ctx us = none := by
  induction us generalizing ctx waiting with
  | nil => cases run
  | cons u us ih =>
    rw [List.forall_mem_cons] at units
    rw [sendEach]
    cases first : call waiting u.nal (if us = [] then 1 else 0) with
    | none =>
      rw [calls.overflow inv units.1 first]
      rfl
    | some r =>
      rw [callOuts, first, Option.bind_some, Option.map_eq_none_iff] at run
      obtain ⟨ctx1, ds, step, -, inv1⟩ := calls.sent inv units.1 first
      rw [step]
      simp only [Option.bind_eq_bind, Option.bind_some, ih (calls.clock (ctx1.timestamp + ticks) inv1) units.2 run,
        Option.bind_none]

end

/-! ### Without aggregation -/

/-- The payloads of a unit that is sent for itself. -/
def alone (fragments : Bytes → List Bytes) (nal : Bytes) : List Bytes :=
  if nal.length ≤ RTP_PAYLOAD_MAX then [nal] else fragments nal

/-- Nothing is aggregated, and nothing waits. -/
structure Single (ctx : RTPMuxContext) (waiting : List Bytes) : Prop where
  off : ctx.aggregation = 0
  empty : ctx.buf_ptr = 0
  none : waiting = []

theorem rtpSendNALH264AVC_branches : Branches rtpSendNALH264AVC fragmentNal 2 payloadsOf where
  branches := fun ctx nal last => by rw [← aggregateNal_eq]; rfl
  fragmented := fun last inside long => fragmentNal_emitted inside long last

theorem rtpSendNALH265_branches : Branches rtpSendNALH265 fragmentNalH265 4 fragmentsOf where
  branches := fun _ _ _ => rfl
  fragmented := fun last inside long => fragmentNalH265_emitted inside long last

/-- Without aggregation a call succeeds for every unit, the empty one included. -/
theorem Branches.single {send fragment : RTPMuxContext → Bytes → Int → Option (RTPMuxContext × List Bytes)} {overhead : Nat}
    {fragments : Bytes → List Bytes} (branches : Branches send fragment overhead fragments) :
    Calls send Single (fun _ => True) fun _ nal last => some (marked last (alone fragments nal), []) where
  sent := by
    intro ctx waiting nal last out kept single _ call
    cases call
    rw [branches.branches]
    unfold alone
    by_cases small : nal.length ≤ RTP_PAYLOAD_MAX
    · rw [if_pos small, if_pos small, if_neg (not_not.mpr single.off)]
      obtain ⟨ctx', d, step, emitted, -, reset⟩ := rtpSendData_emitted ctx last small
      exact ⟨ctx', [d], by rw [step]; rfl, emitted, emitted.aggregation.trans single.off, reset, rfl⟩
    · rw [if_neg small, if_neg small]
      have inside : ctx.buf_ptr ≤ RTP_PAYLOAD_MAX := by rw [single.empty]; exact Nat.zero_le _
      obtain ⟨ctx', ds, step, emitted, reset⟩ := branches.fragmented last inside (Nat.lt_of_not_le small)
      rw [buffered, if_pos single.empty] at emitted
      exact ⟨ctx', ds, step, emitted, emitted.aggregation.trans single.off, reset, rfl⟩
  overflow := by
    intro ctx waiting nal last _ _ call
    cases call
  clock := fun _ single => ⟨single.off, single.empty, single.none⟩

/-- The payloads of the units of a buffer, each sent for itself. -/
def unitOuts (fragments : Bytes → List Bytes) : List NalUnit → List (List (Bytes × Int))
  | [] => []
  | u :: us => marked (if us = [] then 1 else 0) (alone fragments u.nal) :: unitOuts fragments us

theorem callOuts_single (fragments : Bytes → List Bytes) (us : List NalUnit) :
    callOuts (fun _ nal last => some (marked last (alone fragments nal), [])) [] us = some (unitOuts fragments us, []) := by
  induction us with
  | nil => rfl
  | cons u us ih =>
    rw [callOuts, Option.bind_some, ih]
    rfl

theorem unitOuts_payloads (fragments : Bytes → List Bytes) (us : List NalUnit) :
    (unitOuts fragments us).map (List.map Prod.fst) = us.map fun u => alone fragments u.nal := by
  induction us with
  | nil => rfl
  | cons u us ih => rw [unitOuts, List.map_cons, marked_fst, ih, List.map_cons]

/-- Of all payloads of the buffer only the last one has the mark. -/
theorem unitOuts_marks {fragments : Bytes → List Bytes} {us : List NalUnit} (some : ∀ u ∈ us, alone fragments u.nal ≠ [])
    (nonempty : us ≠ []) : ∃ n, ((unitOuts fragments us).flatten).map Prod.snd = List.replicate n 0 ++ [1] := by
  induction us with
  | nil => exact absurd rfl nonempty
  | cons u us ih =>
    rw [List.forall_mem_cons] at some
    obtain ⟨n, marks⟩ := marked_snd (if us = [] then 1 else 0) some.1
    rw [unitOuts, List.flatten_cons, List.map_append, marks]
    by_cases last : us = []
    · rw [last]
      exact ⟨n, by rw [if_pos rfl]; exact List.append_nil _⟩
    · obtain ⟨k, later⟩ := ih some.2 last
      refine ⟨n + 1 + k, ?_⟩
      rw [if_neg last, later, ← List.append_assoc, ← List.replicate_succ', ← List.replicate_add]

/-- The packets of a buffer: a group for each unit, from which a receiver puts the unit together if it can be delivered
at all, with one timestamp for the group, numbers from zero on, and the marker on the very last packet only.
The timestamp is that of the clock as long as it fits. -/
structure Transmits (receive : Option Bytes → Bytes → Option (Option Bytes × List Bytes)) (deliverable : Bytes → Prop)
    (ticks : UInt32) (us : List NalUnit) (ds : List Bytes) (groups : List (List Rtp.Packet)) : Prop where
  parsed : ds.mapM Rtp.parse = some groups.flatten
  units : List.Forall₂ (fun packets u => packets ≠ [] ∧ (deliverable u.nal →
    Rtp.receiveAll receive none (packets.map Rtp.Packet.payload) = some (none, [u.nal]))) groups us
  stamps : ∀ k, k * ticks.toNat < 2 ^ 32 → ∀ packets ∈ groups[k]?, ∀ p ∈ packets, p.timestamp.toNat = k * ticks.toNat
  numbers : groups.flatten.map (fun p => p.seq.toNat) = (List.range groups.flatten.length).map (· % 65536)
  marked : MarkedLast groups.flatten true

section

variable {receive : Option Bytes → Bytes → Option (Option Bytes × List Bytes)} {deliverable : Bytes → Prop}
  {ticks timestamp : UInt32} {us : List NalUnit} {calls : List (List Bytes)} {groups : List (List Rtp.Packet)}
  {fragments : Bytes → List Bytes} {s : Nat}

theorem markedLast_of_markers {packets : List Rtp.Packet} {n : Nat} {last : Bool}
    (markers : packets.map Rtp.Packet.marker = List.replicate n false ++ [last]) : MarkedLast packets last := by
  constructor
  · intro p member
    have inside : p.marker ∈ (packets.map Rtp.Packet.marker).dropLast := by
      rw [← List.map_dropLast]
      exact List.mem_map_of_mem member
    rw [markers, List.dropLast_concat] at inside
    exact List.eq_of_mem_replicate inside
  · intro p final
    have ends := congrArg List.getLast? markers
    rw [List.getLast?_map, final, List.getLast?_concat] at ends
    exact Option.some.inj ends

theorem Posted.units (posted : Posted ticks timestamp s (unitOuts fragments us) calls groups)
    (some : ∀ nal, alone fragments nal ≠ [])
    (received : ∀ nal, deliverable nal → Rtp.receiveAll receive none (alone fragments nal) = Option.some (none, [nal])) :
    List.Forall₂ (fun packets u => packets ≠ [] ∧ (deliverable u.nal →
      Rtp.receiveAll receive none (packets.map Rtp.Packet.payload) = Option.some (none, [u.nal]))) groups us := by
  have payloads := posted.payloads.trans (unitOuts_payloads fragments us)
  clear posted
  induction groups generalizing us with
  | nil =>
    rw [List.map_nil] at payloads
    rw [List.map_eq_nil_iff.mp payloads.symm]
    exact .nil
  | cons packets groups ih =>
    obtain ⟨u, us, rfl, first, rest⟩ := List.map_eq_cons_iff.mp payloads.symm
    refine .cons ⟨?_, fun ok => ?_⟩ (ih rest.symm)
    · rintro rfl
      exact some u.nal first
    · rw [← first]
      exact received u.nal ok

theorem Posted.marked (posted : Posted ticks timestamp s (unitOuts fragments us) calls groups)
    (some : ∀ nal, alone fragments nal ≠ []) : MarkedLast groups.flatten true := by
  have markers : groups.flatten.map Rtp.Packet.marker =
      ((unitOuts fragments us).flatten.map Prod.snd).map fun mark => decide (mark % 2 = 1) := by
    rw [List.map_flatten, posted.markers, ← List.map_flatten, List.map_map]
    rfl
  by_cases nonempty : us = []
  · rw [nonempty] at markers
    rw [List.map_eq_nil_iff.mp markers]
    exact ⟨fun p member => absurd member List.not_mem_nil, fun p none => by cases none⟩
  · obtain ⟨n, marks⟩ := unitOuts_marks (fun u _ => some u.nal) nonempty
    rw [marks, List.map_append, List.map_replicate] at markers
    exact markedLast_of_markers markers

end

section

variable {send fragment : RTPMuxContext → Bytes → Int → Option (RTPMuxContext × List Bytes)} {overhead : Nat}
  {fragments : Bytes → List Bytes} {receive : Option Bytes → Bytes → Option (Option Bytes × List Bytes)}
  {deliverable : Bytes → Prop}

theorem Branches.transmits (branches : Branches send fragment overhead fragments) (some : ∀ nal, alone fragments nal ≠ [])
    (received : ∀ nal, deliverable nal → Rtp.receiveAll receive none (alone fragments nal) = Option.some (none, [nal]))
    (ticks : UInt32) {m : Segment} {p : Nat} {t behind : Bytes} (h : m.Holds p (t ++ behind)) (notNull : p ≠ 0)
    (ctx : RTPMuxContext) :
    ∃ ctx' ds groups, sendBufferBy send ticks m (initRTPMuxContext ctx) p t.length = Option.some (ctx', ds) ∧
      Transmits receive deliverable ticks (unitsIn t) ds groups := by
  have start : Single (initRTPMuxContext ctx) [] := ⟨rfl, rfl, rfl⟩
  have first : (initRTPMuxContext ctx).seq.toNat = 0 % 65536 := rfl
  obtain ⟨ctx', calls, groups, run, posted, -⟩ := sendCalls_posted ticks branches.single start
    (fun _ _ => trivial) first (callOuts_single fragments (unitsIn t))
  refine ⟨ctx', calls.flatten, groups, ?_, mapM_flatten posted.parsed, posted.units some received,
    fun _ => posted.clock, ?_, posted.marked some⟩
  · rw [sendBufferBy_units h notNull, sendEach_calls, run]
    rfl
  · rw [posted.numbers, List.range_eq_range']

end

theorem alone_payloadsOf (nal : Bytes) : alone payloadsOf nal = payloadsOf nal := by
  unfold alone
  split
  · rename_i small
    exact (if_pos small).symm
  · rfl

theorem alone_payloadsOf_ne_nil (nal : Bytes) : alone payloadsOf nal ≠ [] := by
  rw [alone_payloadsOf]
  unfold payloadsOf
  split
  · exact List.cons_ne_nil _ _
  · cases nal with
    | nil =>
      rename_i long
      exact absurd (Nat.zero_le _) long
    | cons h data =>
      dsimp only
      rw [fuPayloads_eq h _ (Hevc.cut_ne_nil _ _ _)]
      exact fuPieces_ne_nil _ _ (List.cons_ne_nil _ _)

theorem alone_fragmentsOf_ne_nil (nal : Bytes) : alone fragmentsOf nal ≠ [] := by
  unfold alone
  split
  · exact List.cons_ne_nil _ _
  · rename_i long
    exact fragmentsOf_ne_nil (Nat.lt_of_not_le long)

theorem receiveAll_alone {nal : Bytes} (ok : Aggregable nal) :
    Rtp.receiveAll Hevc.receive none (alone fragmentsOf nal) = some (none, [nal]) := by
  rw [← Hevc.receiveAll_eq]
  unfold alone
  split
  · exact Hevc.receiveAll_one (Hevc.receive_single ok.sendable)
  · rename_i long
    have long := Nat.lt_of_not_le long
    exact receiveAll_fragmentsOf long (ok.plain long)

/-- Both functions return on every buffer. Each unit that a receiver can take at all comes back from the packets of its
own group, whatever the other units are. -/
theorem rtpSend_transmits {m : Segment} {p : Nat} {t behind : Bytes} (h : m.Holds p (t ++ behind)) (notNull : p ≠ 0)
    (ctx : RTPMuxContext) :
    (∃ ctx' ds groups, rtpSendH264AVC m (initRTPMuxContext ctx) p t.length = some (ctx', ds) ∧
        Transmits H264.receive H264.Sendable 3600 (unitsIn t) ds groups) ∧
      ∃ ctx' ds groups, rtpSendH265HEVC m (initRTPMuxContext ctx) p t.length = some (ctx', ds) ∧
        Transmits Hevc.receive Aggregable 3000 (unitsIn t) ds groups := by
  rw [rtpSendH264AVC_eq]
  constructor
  · apply rtpSendNALH264AVC_branches.transmits alone_payloadsOf_ne_nil ?_ 3600 h notNull ctx
    intro nal sendable
    rw [alone_payloadsOf]
    exact receiveAll_payloadsOf sendable
  · exact rtpSendNALH265_branches.transmits alone_fragmentsOf_ne_nil (fun nal ok => receiveAll_alone ok) 3000 h notNull ctx

/-- A buffer with an empty unit in front of one that can be delivered. -/
theorem rtpSend_transmits_empty :
    let t : Bytes := [0, 0, 1, 0, 0, 0, 1, 0x40, 1, 7]
    let ctx : RTPMuxContext := ⟨.zero _, .zero _, 0, 0, 0, 0, 0, 0⟩
    ((⟨16, t⟩ : Segment).Holds 16 (t ++ []) ∧ 16 ≠ 0 ∧ (unitsIn t).map NalUnit.nal = [[], [0x40, 1, 7]] ∧
        ¬ Aggregable [] ∧ Aggregable [0x40, 1, 7]) ∧
      (∃ ctx' ds groups, rtpSendH264AVC ⟨16, t⟩ (initRTPMuxContext ctx) 16 t.length = some (ctx', ds) ∧
        Transmits H264.receive H264.Sendable 3600 (unitsIn t) ds groups) ∧
      ∃ ctx' ds groups, rtpSendH265HEVC ⟨16, t⟩ (initRTPMuxContext ctx) 16 t.length = some (ctx', ds) ∧
        Transmits Hevc.receive Aggregable 3000 (unitsIn t) ds groups := by
  intro t ctx
  have held : (⟨16, t⟩ : Segment).Holds 16 (t ++ []) := Segment.holds_base ⟨16, t⟩
  exact ⟨⟨held, by decide, by decide, by decide, by decide⟩, rtpSend_transmits held (by decide) ctx⟩

/-! ### With aggregation -/

theorem sendable_nonempty {us : List NalUnit} (sendable : ∀ u ∈ us, H264.Sendable u.nal) : ∀ u ∈ us, u.nal ≠ [] := by
  intro u member none
  have unit := sendable u member
  rw [none] at unit
  exact unit

section

variable {waiting : List Bytes} {us : List NalUnit}

theorem callOuts_overflow (gap : ∃ u ∈ us, ¬ Placeable u.nal) : callOuts (callPayloads 2 payloadsOf 1) waiting us = none := by
  induction us generalizing waiting with
  | nil =>
    obtain ⟨u, member, -⟩ := gap
    cases member
  | cons u us ih =>
    rw [callOuts]
    rw [List.exists_mem_cons_iff] at gap
    rcases gap with here | later
    · rw [callPayloads_overflow waiting here]
      rfl
    · cases callPayloads 2 payloadsOf 1 waiting u.nal (if us = [] then 1 else 0) with
      | none => rfl
      | some r => rw [Option.bind_some, ih later]; rfl

theorem Collected.nothing (collected : Collected waiting) : Received waiting [] waiting :=
  ⟨fun _ member => absurd member List.not_mem_nil, ⟨[], rfl, rfl⟩, collected⟩

theorem callOuts_received (collected : Collected waiting) (sendable : ∀ u ∈ us, H264.Sendable u.nal)
    (placeable : ∀ u ∈ us, Placeable u.nal) :
    ∃ outs kept, callOuts (callPayloads 2 payloadsOf 1) waiting us = some (outs, kept) ∧
      Received (waiting ++ us.map NalUnit.nal) outs.flatten kept ∧ (us ≠ [] → kept = []) := by
  induction us generalizing waiting with
  | nil =>
    rw [List.map_nil, List.append_nil]
    exact ⟨[], waiting, rfl, collected.nothing, fun some => absurd rfl some⟩
  | cons u us ih =>
    rw [List.forall_mem_cons] at sendable placeable
    obtain ⟨out, left, call, received, flushed⟩ := callPayloads_received collected sendable.1 placeable.1 (if us = [] then 1 else 0)
    obtain ⟨outs, kept, run, received', final⟩ := ih received.collected sendable.2 placeable.2
    refine ⟨out :: outs, kept, ?_, ?_, fun _ => ?_⟩
    · rw [callOuts, call, Option.bind_some, run]
      rfl
    · rw [List.map_cons, List.flatten_cons, List.append_cons]
      exact received.append received'
    · by_cases last : us = []
      · rw [last] at run
        cases run
        exact flushed (if_pos last)
      · exact final last

/-- Behind each call the units of the calls so far have been sent or wait. -/
theorem callOuts_prefix (collected : Collected waiting) (sendable : ∀ u ∈ us, H264.Sendable u.nal)
    (placeable : ∀ u ∈ us, Placeable u.nal) {outs : List (List (Bytes × Int))} {kept : List Bytes}
    (run : callOuts (callPayloads 2 payloadsOf 1) waiting us = some (outs, kept)) (k : Nat) :
    ∃ left, Received (waiting ++ (us.map NalUnit.nal).take k) (outs.take k).flatten left := by
  induction us generalizing waiting outs k with
  | nil =>
    cases run
    rw [List.map_nil, List.take_nil, List.take_nil, List.append_nil]
    exact ⟨_, collected.nothing⟩
  | cons u us ih =>
    rw [List.forall_mem_cons] at sendable placeable
    obtain ⟨out, left, call, received, -⟩ := callPayloads_received collected sendable.1 placeable.1 (if us = [] then 1 else 0)
    rw [callOuts, call, Option.bind_some, Option.map_eq_some_iff] at run
    obtain ⟨⟨outs', kept'⟩, rest, same⟩ := run
    cases same
    cases k with
    | zero =>
      rw [List.take_zero, List.take_zero, List.append_nil]
      exact ⟨waiting, collected.nothing⟩
    | succ k =>
      obtain ⟨left', received'⟩ := ih received.collected sendable.2 placeable.2 rest k
      rw [List.map_cons, List.take_succ_cons, List.take_succ_cons, List.flatten_cons, List.append_cons]
      exact ⟨left', received.append received'⟩

end

theorem Sends.calls {send : RTPMuxContext → Bytes → Int → Option (RTPMuxContext × List Bytes)} {overhead : Nat}
    {fragments : Bytes → List Bytes} (sends : Sends send overhead fragments) (aggregation : Int) :
    Calls send (fun ctx waiting => Pending ctx waiting ∧ ctx.aggregation = aggregation) (· ≠ [])
      (callPayloads overhead fragments aggregation) where
  sent := by
    intro ctx waiting nal last out kept inv nonempty call
    obtain ⟨pending, rfl⟩ := inv
    obtain ⟨ctx', ds, step, emitted, held⟩ := sends.sent pending nonempty call
    exact ⟨ctx', ds, step, emitted, held, emitted.aggregation⟩
  overflow := by
    intro ctx waiting nal last inv nonempty call
    obtain ⟨pending, rfl⟩ := inv
    exact sends.overflow pending nonempty call
  clock := fun _ inv => ⟨⟨inv.1.length, inv.1.bytes, inv.1.fits⟩, inv.2⟩

/-- The units of the buffer arrive from the packets of the calls, group `k` those of call `k`. Each packet carries the time of
its call, and what arrives up to a call are units that were handed over up to it. -/
def Aggregated (ctx : RTPMuxContext) (m : Segment) (p : Nat) (t : Bytes) : Prop :=
  ∃ ctx' calls, ∃ groups : List (List Rtp.Packet), rtpSendH264AVC m (aggregating ctx) p t.length = some (ctx', calls.flatten) ∧
    sendCalls rtpSendNALH264AVC 3600 (aggregating ctx) (unitsIn t) = some (ctx', calls) ∧
    calls.mapM (fun ds => ds.mapM Rtp.parse) = some groups ∧
    (∀ k, k * 3600 < 2 ^ 32 → ∀ packets ∈ groups[k]?, ∀ p ∈ packets, p.timestamp.toNat = k * 3600) ∧
    (∀ k, ∃ arrived, Rtp.receiveAll H264.receive none ((groups.take k).flatten.map Rtp.Packet.payload) = some (none, arrived) ∧
      arrived <+: ((unitsIn t).map NalUnit.nal).take k) ∧
    groups.flatten.map (fun p => p.seq.toNat) = (List.range groups.flatten.length).map (· % 65536) ∧
    (∀ p ∈ groups.flatten, 1 ≤ p.payload.length ∧ p.payload.length ≤ RTP_PAYLOAD_MAX) ∧
    H264.depacketize (groups.flatten.map Rtp.Packet.payload) = some ((unitsIn t).map NalUnit.nal)

section

variable {m : Segment} {p : Nat} {t behind : Bytes}

theorem pending_aggregating (ctx : RTPMuxContext) : Pending (aggregating ctx) [] ∧ (aggregating ctx).aggregation = 1 :=
  ⟨pending_nil rfl, rfl⟩

theorem aggregated_none (ctx : RTPMuxContext) (h : m.Holds p (t ++ behind)) (notNull : p ≠ 0)
    (sendable : ∀ u ∈ unitsIn t, H264.Sendable u.nal) (gap : ∃ u ∈ unitsIn t, ¬ Placeable u.nal) :
    rtpSendH264AVC m (aggregating ctx) p t.length = none := by
  rw [rtpSendH264AVC_eq, sendBufferBy_units h notNull]
  exact sendEach_overflow 3600 (rtpSendNALH264AVC_sends.calls 1) (pending_aggregating ctx) (sendable_nonempty sendable)
    (callOuts_overflow gap)

/-- What the groups up to a call carry. -/
theorem Posted.payloads_take {ticks timestamp : UInt32} {s : Nat} {outs : List (List (Bytes × Int))} {calls : List (List Bytes)}
    {groups : List (List Rtp.Packet)} (posted : Posted ticks timestamp s outs calls groups) (k : Nat) :
    (groups.take k).flatten.map Rtp.Packet.payload = (outs.take k).flatten.map Prod.fst := by
  rw [List.map_flatten, List.map_take, posted.payloads, ← List.map_take, ← List.map_flatten]

theorem aggregated_all (ctx : RTPMuxContext) (h : m.Holds p (t ++ behind)) (notNull : p ≠ 0)
    (sendable : ∀ u ∈ unitsIn t, H264.Sendable u.nal) (placeable : ∀ u ∈ unitsIn t, Placeable u.nal) : Aggregated ctx m p t := by
  obtain ⟨outs, left, run, whole, done⟩ := callOuts_received collected_nil sendable placeable
  obtain ⟨ctx', calls, groups, sent, posted, -⟩ := sendCalls_posted (s := 0) 3600 (rtpSendNALH264AVC_sends.calls 1)
    (pending_aggregating ctx) (sendable_nonempty sendable) rfl run
  have payloads : groups.flatten.map Rtp.Packet.payload = outs.flatten.map Prod.fst := by
    rw [List.map_flatten, posted.payloads, ← List.map_flatten]
  refine ⟨ctx', calls, groups, ?_, sent, posted.parsed, fun k fits => posted.clock fits, fun k => ?_, ?_, ?_, ?_⟩
  · rw [rtpSendH264AVC_eq, sendBufferBy_units h notNull, sendEach_calls, sent]
    rfl
  · obtain ⟨left, upTo⟩ := callOuts_prefix collected_nil sendable placeable run k
    obtain ⟨units, received, same⟩ := upTo.units
    rw [posted.payloads_take]
    exact ⟨units, received, left, same⟩
  · rw [posted.numbers, List.range_eq_range']
  · intro p member
    have inside : p.payload ∈ outs.flatten.map Prod.fst := by
      rw [← payloads]
      exact List.mem_map_of_mem member
    obtain ⟨o, handed, same⟩ := List.mem_map.mp inside
    rw [← same]
    exact whole.bounds o handed
  · have none : left = [] := by
      by_cases empty : unitsIn t = []
      · rw [empty] at run
        cases run
        rfl
      · exact done empty
    obtain ⟨units, received, same⟩ := whole.units
    rw [none, List.append_nil, List.nil_append] at same
    rw [payloads]
    apply H264.depacketize_of_receiveAll
    rw [received, same]

end

/-- With aggregation the units of a buffer arrive exactly if none has 1398, 1399 or 1400 bytes. -/
theorem rtpSendH264AVC_aggregated {m : Segment} {p : Nat} {t behind : Bytes} (ctx : RTPMuxContext)
    (h : m.Holds p (t ++ behind)) (notNull : p ≠ 0) (sendable : ∀ u ∈ unitsIn t, H264.Sendable u.nal) :
    Aggregated ctx m p t ↔ ∀ u ∈ unitsIn t, Placeable u.nal := by
  constructor
  · intro aggregated u member
    by_contra gap
    obtain ⟨ctx', calls, groups, sent, -⟩ := aggregated
    rw [aggregated_none ctx h notNull sendable ⟨u, member, gap⟩] at sent
    cases sent
  · exact aggregated_all ctx h notNull sendable

theorem rtpSendH264AVC_aggregated_two :
    let t : Bytes := [9, 0, 0, 1, 0x65, 7, 0, 0, 0, 1, 6, 9]
    let ctx : RTPMuxContext := ⟨.zero _, .zero _, 0, 0, 0, 0, 0, 0⟩
    ((⟨16, t⟩ : Segment).Holds 16 (t ++ []) ∧ 16 ≠ 0 ∧ ∀ u ∈ unitsIn t, H264.Sendable u.nal) ∧
      (unitsIn t).map NalUnit.nal = [[0x65, 7], [6, 9]] ∧
      (Aggregated ctx ⟨16, t⟩ 16 t ↔ ∀ u ∈ unitsIn t, Placeable u.nal) := by
  intro t ctx
  have held : (⟨16, t⟩ : Segment).Holds 16 (t ++ []) := Segment.holds_base ⟨16, t⟩
  have sendable : ∀ u ∈ unitsIn t, H264.Sendable u.nal := by decide
  exact ⟨⟨held, by decide, sendable⟩, by decide, rtpSendH264AVC_aggregated ctx held (by decide) sendable⟩

end RtspServer.RTPEnc
