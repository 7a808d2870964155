import RtspServer.Media.SenderRuns

/-!
# What the headers of the packets say

The marker bit and the payload headers of the packets of a call. The sender never
passes a marker on, and its payload headers are plain whatever it sends.
-/

namespace RtspServer

/-! ### The marker bit -/

/-- The marker of the final packet says whether `last` is 1, and the others have none. -/
structure Marked (last : Int) (packets : List Rtp.Packet) : Prop where
  final : ∀ p ∈ packets.getLast?, p.marker = true ↔ last = 1
  others : ∀ p ∈ packets.dropLast, p.marker = false

/-- The packets of a call are marked by its `last`. -/
def MarkerDiscipline (ctx : RTPMuxContext) (nal : Bytes) (last : Int) : Prop :=
  ∃ ctx' fs packets, rtpSendNALH265 ctx nal last = some (ctx', fs) ∧ packetsOf fs = some packets ∧ Marked last packets

theorem packetsOf_cons {f : Bytes} {fs : List Bytes} {packets : List Rtp.Packet} (h : packetsOf (f :: fs) = some packets) :
    ∃ p ps, Rtp.parse (f.drop 4) = some p ∧ packetsOf fs = some ps ∧ packets = p :: ps := by
  unfold packetsOf at h ⊢
  rw [List.mapM_cons] at h
  simp only [Option.bind_eq_bind, Option.bind_eq_some_iff, Option.pure_def, Option.some.injEq] at h
  obtain ⟨p, first, ps, rest, same⟩ := h
  exact ⟨p, ps, first, rest, same.symm⟩

section

variable {ctx ctx' : RTPMuxContext} {nal : Bytes} {last : Int} {fs : List Bytes} {packets : List Rtp.Packet}

theorem unmarked_frames {timestamp ssrc seq : UInt32} {payloads : List Bytes}
    (parsed : packetsOf (frames timestamp ssrc seq payloads) = some packets) : ∀ p ∈ packets, p.marker = false := by
  induction payloads generalizing seq packets with
  | nil =>
    cases parsed
    exact nofun
  | cons payload payloads ih =>
    obtain ⟨p, ps, first, rest, rfl⟩ := packetsOf_cons parsed
    rw [parse_frame] at first
    cases first
    exact List.forall_mem_cons.mpr ⟨rfl, ih rest⟩

theorem unmarked (send : rtpSendNALH265 ctx nal last = some (ctx', fs)) (parsed : packetsOf fs = some packets) :
    ∀ p ∈ packets, p.marker = false := by
  obtain ⟨payloads, sent, -⟩ := rtpSendNALH265_inv send
  rw [sent.frames] at parsed
  exact unmarked_frames parsed

theorem packets_ne_nil (parsed : packetsOf fs = some packets) (nonempty : fs ≠ []) : packets ≠ [] := by
  obtain ⟨f, gs, rfl⟩ := List.exists_cons_of_ne_nil nonempty
  obtain ⟨p, ps, -, -, rfl⟩ := packetsOf_cons parsed
  exact List.cons_ne_nil p ps

/-- A call with `last = 1` sends a packet, and not even the final one is marked. -/
theorem not_marked (send : rtpSendNALH265 ctx nal 1 = some (ctx', fs)) (some : fs ≠ []) : ¬ MarkerDiscipline ctx nal 1 := by
  rintro ⟨ctx'', fs', packets, send', parsed, marked⟩
  rw [send] at send'
  cases send'
  have final := List.getLast?_eq_getLast_of_ne_nil (packets_ne_nil parsed some)
  have clear := unmarked send parsed _ (List.getLast_mem (packets_ne_nil parsed some))
  rw [(marked.final _ final).mpr rfl] at clear
  cases clear

/-- The final packet of a unit sent alone with `last = 1`. -/
theorem not_markerDiscipline_single : ¬ MarkerDiscipline ⟨.zero _, .zero _, 0, 0, 1, 0, 0, 0⟩ [0x40, 1] 1 := by
  have inside : (⟨.zero _, .zero _, 0, 0, 1, 0, 0, 0⟩ : RTPMuxContext).buf_ptr ≤ RTP_PAYLOAD_MAX := Nat.zero_le _
  obtain ⟨ctx, fs, send, some⟩ := rtpSendNALH265_total inside [0x40, 1] 1
  exact not_marked send (some rfl)

/-- The marker bit is right in exactly the calls whose `last` is not 1. -/
theorem markerDiscipline_iff (ctx : RTPMuxContext) (nal : Bytes) (last : Int) (inside : ctx.buf_ptr ≤ RTP_PAYLOAD_MAX) :
    MarkerDiscipline ctx nal last ↔ last ≠ 1 := by
  obtain ⟨ctx', fs, send, some⟩ := rtpSendNALH265_total inside nal last
  constructor
  · rintro marked rfl
    exact not_marked send (some rfl) marked
  · intro inner
    obtain ⟨payloads, sent, -⟩ := rtpSendNALH265_inv send
    obtain ⟨packets, parsed, -⟩ := packetsOf_frames ctx.timestamp ctx.ssrc payloads (rfl : ctx.seq.toNat % 65536 = _ % 65536)
    rw [← sent.frames] at parsed
    have clear := unmarked send parsed
    refine ⟨ctx', fs, packets, send, parsed, fun p final => ?_, fun p member => clear p (List.mem_of_mem_dropLast member)⟩
    rw [clear p (List.mem_of_getLast? final)]
    exact iff_of_false Bool.false_ne_true inner

theorem markerDiscipline_iff_fragments :
    let ctx : RTPMuxContext := ⟨.zero _, .zero _, 6, 0, 1, 0, 0, 0⟩
    let nal : Bytes := 0x42 :: 1 :: List.replicate 1400 7
    6 ≤ RTP_PAYLOAD_MAX ∧ (MarkerDiscipline ctx nal 0 ↔ (0 : Int) ≠ 1) :=
  ⟨by decide, markerDiscipline_iff ⟨.zero _, .zero _, 6, 0, 1, 0, 0, 0⟩ _ 0 (show 6 ≤ RTP_PAYLOAD_MAX by decide)⟩

end

/-! ### The payload headers -/

/-- The payload `p` of a packet sent in the call for `nal` has the header RFC 7798 asks for. -/
structure HeaderConforms (nal p : Bytes) : Prop where
  fragment : Hevc.typeOf p = some 49 → Hevc.fieldsOf p = Hevc.fieldsOf nal
  aggregation : Hevc.typeOf p = some 48 → ∃ units, Hevc.unitsOf p.length (p.drop 2) = some units ∧
    Hevc.fieldsOf p = (units.mapM Hevc.fieldsOf).bind Hevc.joinAll

/-- The units that a receiver puts together of the fragmentation units among the packets. -/
def reassembled (packets : List Rtp.Packet) : Option (List Bytes) :=
  Hevc.depacketize ((packets.map Rtp.Packet.payload).filter fun p => Hevc.typeOf p = some 49)

/-- All payload headers conform, and a fragmented unit gets its own header back. -/
structure HeadersConform (nal : Bytes) (packets : List Rtp.Packet) : Prop where
  payloads : ∀ p ∈ packets, HeaderConforms nal p.payload
  rebuilt : 1400 < nal.length → ∃ unit, reassembled packets = some [unit] ∧ unit.take 2 = nal.take 2

/-- A fragmented unit has a plain header, and so have the units of every aggregation packet together. -/
structure PlainUnits (nal : Bytes) (packets : List Rtp.Packet) : Prop where
  fragmented : 1400 < nal.length → Hevc.fieldsOf nal = some .plain
  aggregated : ∀ p ∈ packets, Hevc.typeOf p.payload = some 48 → ∃ units,
    Hevc.unitsOf p.payload.length (p.payload.drop 2) = some units ∧ (units.mapM Hevc.fieldsOf).bind Hevc.joinAll = some .plain

/-- What the packets of the call for `nal` say in their payload headers. -/
structure PlainHeaders (nal : Bytes) (packets : List Rtp.Packet) : Prop where
  structured : ∀ p ∈ packets, Hevc.typeOf p.payload = some 48 ∨ Hevc.typeOf p.payload = some 49 →
    Hevc.fieldsOf p.payload = some .plain
  single : ∀ p ∈ packets, Hevc.typeOf p.payload ≠ some 48 → Hevc.typeOf p.payload ≠ some 49 → p.payload = nal
  rebuilt : 1400 < nal.length → ∃ unit, reassembled packets = some [unit] ∧ Hevc.fieldsOf unit = some .plain ∧
    Hevc.typeOf unit = Hevc.typeOf nal ∧ unit.drop 2 = nal.drop 2
  conform : HeadersConform nal packets ↔ PlainUnits nal packets

section

variable {nal p : Bytes} {waiting : List Bytes}

theorem sendable_type (ok : Hevc.Sendable nal) : ∃ n, Hevc.typeOf nal = some n ∧ n < 48 := by
  match nal, ok with
  | h0 :: h1 :: data, ok => exact ⟨Hevc.nalType h0, rfl, ok⟩

theorem fuRest_header {type : UInt8} {fs : List Bytes} (member : p ∈ Hevc.fuRest type fs) :
    Hevc.typeOf p = some 49 ∧ Hevc.fieldsOf p = some .plain := by
  induction fs with
  | nil => cases member
  | cons f fs ih =>
    cases fs with
    | nil =>
      rw [Hevc.fuRest, List.mem_singleton] at member
      rw [member]
      exact ⟨rfl, rfl⟩
    | cons g fs =>
      rw [Hevc.fuRest, List.mem_cons] at member
      rcases member with rfl | later
      · exact ⟨rfl, rfl⟩
      · exact ih later

theorem fragmentsOf_header (member : p ∈ fragmentsOf nal) : Hevc.typeOf p = some 49 ∧ Hevc.fieldsOf p = some .plain := by
  match nal, member with
  | h0 :: h1 :: data, member =>
    rcases List.mem_cons.mp member with rfl | later
    · exact ⟨rfl, rfl⟩
    · exact fuRest_header later

/-- The packets of a call: aggregation packets, fragments of the unit, or the unit. -/
theorem nalPayloads_forms (aggregation last : Int) (member : p ∈ (nalPayloads aggregation waiting nal last).1) :
    (∃ units, p = Hevc.apPayload units) ∨ (1400 < nal.length ∧ p ∈ fragmentsOf nal) ∨ (nal.length ≤ 1400 ∧ p = nal) := by
  have packed {kept : List Bytes} (some : kept ≠ []) : ∃ units, apOf kept = Hevc.apPayload units := ⟨kept, if_neg some⟩
  unfold nalPayloads at member
  split at member
  · rename_i small
    split at member
    · have flushed {due : Prop} [Decidable due] (some : due → waiting ≠ []) (inside : p ∈ if due then [apOf waiting] else []) :
          ∃ units, p = Hevc.apPayload units := by
        split at inside
        · rename_i yes
          rw [List.mem_singleton.mp inside]
          exact packed (some yes)
        · cases inside
      dsimp only at member
      split at member
      · rcases List.mem_append.mp member with first | final
        · exact .inl (flushed And.left first)
        · rw [List.mem_singleton.mp final]
          exact .inl (packed (by simp))
      · exact .inl (flushed And.left member)
    · exact .inr (.inr ⟨small, List.mem_singleton.mp member⟩)
  · rename_i large
    rcases List.mem_append.mp member with pending | fragment
    · split at pending
      · cases pending
      · rename_i some
        rw [List.mem_singleton.mp pending]
        exact .inl (packed some)
    · exact .inr (.inl ⟨Nat.lt_of_not_le large, fragment⟩)

theorem nalPayloads_fragments (long : 1400 < nal.length) (aggregation last : Int) :
    (nalPayloads aggregation waiting nal last).1.filter (fun p => Hevc.typeOf p = some 49) = fragmentsOf nal := by
  have front : (if waiting = [] then [] else [apOf waiting]).filter (fun p => Hevc.typeOf p = some 49) = [] := by
    split
    · rfl
    · rename_i some
      rw [apOf, if_neg some]
      rfl
  have back : (fragmentsOf nal).filter (fun p => Hevc.typeOf p = some 49) = fragmentsOf nal :=
    List.filter_eq_self.mpr fun p member => decide_eq_true (fragmentsOf_header member).1
  have large : ¬ nal.length ≤ RTP_PAYLOAD_MAX := Nat.not_le_of_lt long
  unfold nalPayloads
  rw [if_neg large, List.filter_append, front, back, List.nil_append]

theorem receive_fragmentsOf (long : 1400 < nal.length) : ∃ unit, Hevc.depacketize (fragmentsOf nal) = some [unit] ∧
    Hevc.fieldsOf unit = some .plain ∧ Hevc.typeOf unit = Hevc.typeOf nal ∧ unit.drop 2 = nal.drop 2 := by
  match nal, long with
  | h0 :: h1 :: data, _ =>
    obtain ⟨fields, type⟩ := Hevc.fieldsOf_rebuilt h0 data
    refine ⟨(Hevc.typeField h0 <<< 1) :: 1 :: data, Hevc.depacketize_of_receiveAll ?_, fields, type, rfl⟩
    apply Hevc.receiveAll_rebuilt h0 (Hevc.cut_ne_nil _ _ _)
    rw [Hevc.cut_flatten, List.take_append_drop]

theorem fieldsOf_take {a b : Bytes} (same : a.take 2 = b.take 2) : Hevc.fieldsOf a = Hevc.fieldsOf b := by
  have front (x : Bytes) : Hevc.fieldsOf x = Hevc.fieldsOf (x.take 2) := by
    match x with
    | [] => rfl
    | [_] => rfl
    | _ :: _ :: _ => rfl
  rw [front a, front b, same]

/-- Every packet of a call is an aggregation packet or a fragmentation unit with a plain header, or the unit itself. -/
theorem nalPayloads_header (aggregation last : Int) (ok : Hevc.Sendable nal)
    (member : p ∈ (nalPayloads aggregation waiting nal last).1) :
    (Hevc.typeOf p = some 48 ∧ Hevc.fieldsOf p = some .plain) ∨
      (1400 < nal.length ∧ Hevc.typeOf p = some 49 ∧ Hevc.fieldsOf p = some .plain) ∨
      (Hevc.typeOf p ≠ some 48 ∧ Hevc.typeOf p ≠ some 49 ∧ p = nal) := by
  obtain ⟨n, type, small⟩ := sendable_type ok
  have other (m : Nat) (large : 48 ≤ m) : Hevc.typeOf nal ≠ some m := by
    rw [type]
    exact fun same => Nat.not_le_of_lt small (Option.some.inj same ▸ large)
  rcases nalPayloads_forms aggregation last member with ⟨units, rfl⟩ | ⟨long, fragment⟩ | ⟨-, rfl⟩
  · exact .inl ⟨rfl, rfl⟩
  · exact .inr (.inl ⟨long, fragmentsOf_header fragment⟩)
  · exact .inr (.inr ⟨other 48 (Nat.le_refl 48), other 49 (by decide), rfl⟩)

theorem plainHeaders {packets : List Rtp.Packet} {aggregation last : Int} (ok : Hevc.Sendable nal)
    (payloads : packets.map Rtp.Packet.payload = (nalPayloads aggregation waiting nal last).1) : PlainHeaders nal packets := by
  have sent (p : Rtp.Packet) (member : p ∈ packets) : p.payload ∈ (nalPayloads aggregation waiting nal last).1 :=
    payloads ▸ List.mem_map_of_mem member
  have forms (p : Rtp.Packet) (member : p ∈ packets) := nalPayloads_header aggregation last ok (sent p member)
  have structured : ∀ p ∈ packets, Hevc.typeOf p.payload = some 48 ∨ Hevc.typeOf p.payload = some 49 →
      Hevc.fieldsOf p.payload = some .plain := by
    intro p member known
    rcases forms p member with ⟨-, fields⟩ | ⟨-, -, fields⟩ | ⟨notAp, notFu, -⟩
    · exact fields
    · exact fields
    · exact absurd known (not_or.mpr ⟨notAp, notFu⟩)
  have rebuilt (long : 1400 < nal.length) : reassembled packets = Hevc.depacketize (fragmentsOf nal) := by
    rw [reassembled, payloads, nalPayloads_fragments long]
  refine ⟨structured, ?_, ?_, ?_, ?_⟩
  · intro p member notAp notFu
    rcases forms p member with ⟨ap, -⟩ | ⟨-, fu, -⟩ | ⟨-, -, same⟩
    · exact absurd ap notAp
    · exact absurd fu notFu
    · exact same
  · intro long
    rw [rebuilt long]
    exact receive_fragmentsOf long
  · intro conform
    constructor
    · intro long
      obtain ⟨unit, received, same⟩ := conform.rebuilt long
      obtain ⟨unit', received', plain, -⟩ := receive_fragmentsOf long
      rw [rebuilt long, received', Option.some.injEq, List.singleton_inj] at received
      rw [← fieldsOf_take same, ← received, plain]
    · intro p member ap
      obtain ⟨units, split, fields⟩ := (conform.payloads p member).aggregation ap
      exact ⟨units, split, fields.symm.trans (structured p member (.inl ap))⟩
  · intro plain
    constructor
    · intro p member
      constructor
      · intro fu
        rcases forms p member with ⟨ap, -⟩ | ⟨long, -, -⟩ | ⟨-, notFu, -⟩
        · exact absurd (Option.some.inj (ap.symm.trans fu)) (by decide)
        · rw [plain.fragmented long]
          exact structured p member (.inr fu)
        · exact absurd fu notFu
      · intro ap
        obtain ⟨units, split, fields⟩ := plain.aggregated p member ap
        exact ⟨units, split, (structured p member (.inl ap)).trans fields.symm⟩
    · intro long
      refine ⟨nal, ?_, rfl⟩
      rw [rebuilt long]
      exact Hevc.depacketize_of_receiveAll (receiveAll_fragmentsOf long ((Hevc.plainHeader_iff nal).mpr (plain.fragmented long)))

end

/-- The units of the run get their headers from the packets as RFC 7798 has it. -/
def Sender.Conforming (x : Sender) : Prop :=
  ∀ e ∈ x.log, ∃ packets, packetsOf e.2 = some packets ∧ HeadersConform e.1 packets

/-- A unit of 1402 bytes in the temporal layer of TID 2. -/
def layeredNal : Bytes := 0x42 :: 2 :: List.replicate 1400 7

theorem not_conforming_layered : ¬ ∃ x,
    Runs.run Sender.step [⟨0, layeredNal, 0⟩] (Sender.start ⟨.zero _, .zero _, 0, 0, 1, 0, 0, 0⟩) = .ok x ∧ x.Conforming := by
  rintro ⟨x, run, conforming⟩
  obtain ⟨y, -, ctx, fs, packets, taken, rfl, -, parsed, payloads⟩ :=
    holding_step (holding_start ⟨.zero _, .zero _, 0, 0, 1, 0, 0, 0⟩) ⟨0, layeredNal, 0⟩
  rw [Runs.run, taken] at run
  cases run
  obtain ⟨packets', parsed', conform⟩ := conforming (layeredNal, fs) (List.mem_append_right _ (List.mem_singleton_self _))
  cases parsed.symm.trans parsed'
  have ok : Hevc.Sendable layeredNal := by decide
  have long : 1400 < layeredNal.length := by
    rw [layeredNal, List.length_cons, List.length_cons, List.length_replicate]
    decide
  have plain := ((plainHeaders ok payloads).conform.mp conform).fragmented long
  exact absurd (Option.some.inj plain) (by decide)

/-- Every aggregation packet and every fragmentation unit of a run has a plain payload header, and
a fragmented unit arrives with one. -/
theorem payloadHeaders_plain (ctx : RTPMuxContext) (calls : List NalCall) (ok : ∀ c ∈ calls, Hevc.Sendable c.nal) :
    ∃ x, Runs.run Sender.step calls (Sender.start ctx) = .ok x ∧
      ∀ e ∈ x.log, ∃ packets, packetsOf e.2 = some packets ∧ PlainHeaders e.1 packets := by
  have keeps {x : Sender} {c : NalCall} (ok : Hevc.Sendable c.nal)
      (inv : (∃ waiting, x.Holding waiting) ∧ ∀ e ∈ x.log, ∃ packets, packetsOf e.2 = some packets ∧ PlainHeaders e.1 packets) :
      ∃ y, x.step c = .ok y ∧ (∃ waiting, y.Holding waiting) ∧
        ∀ e ∈ y.log, ∃ packets, packetsOf e.2 = some packets ∧ PlainHeaders e.1 packets := by
    obtain ⟨⟨waiting, holding⟩, before⟩ := inv
    obtain ⟨y, waiting', ctx, fs, packets, taken, rfl, holding', parsed, payloads⟩ := holding_step holding c
    refine ⟨_, taken, ⟨waiting', holding'⟩, List.forall_mem_append.mpr ⟨before, List.forall_mem_singleton.mpr ?_⟩⟩
    exact ⟨packets, parsed, plainHeaders ok payloads⟩
  obtain ⟨x, run, -, headers⟩ := Runs.run_total keeps ⟨⟨[], holding_start ctx⟩, nofun⟩ ok
  exact ⟨x, run, headers⟩

theorem payloadHeaders_plain_layered :
    let calls : List NalCall := [⟨1, [0x40, 2, 7], 0⟩, ⟨1, layeredNal, 1⟩]
    (∀ c ∈ calls, Hevc.Sendable c.nal) ∧
      ∃ x, Runs.run Sender.step calls (Sender.start ⟨.zero _, .zero _, 0, 0, 1, 0, 0, 0⟩) = .ok x ∧
        ∀ e ∈ x.log, ∃ packets, packetsOf e.2 = some packets ∧ PlainHeaders e.1 packets := by
  have ok : ∀ c ∈ ([⟨1, [0x40, 2, 7], 0⟩, ⟨1, layeredNal, 1⟩] : List NalCall), Hevc.Sendable c.nal :=
    List.forall_mem_cons.mpr ⟨by decide, List.forall_mem_singleton.mpr (by decide)⟩
  exact ⟨ok, payloadHeaders_plain _ _ ok⟩

end RtspServer
