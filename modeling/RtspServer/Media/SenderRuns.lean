import RtspServer.Base.CString
import RtspServer.Base.Runs
import RtspServer.Media.NalSender

/-!
# Runs of the sender

Units sent one by one with one context, while aggregation is switched on and off
between them. A call that writes outside `buf` or `cache` has no result.
-/

namespace RtspServer

/-- A call of `rtpSendNALH265`, and the aggregation mode set in front of it. -/
structure NalCall where
  aggregation : Int
  nal : Bytes
  last : Int

/-- A context, and the units sent with it so far with the frames of their calls. -/
structure Sender where
  ctx : RTPMuxContext
  log : List (Bytes × List Bytes)

namespace Sender

def start (ctx : RTPMuxContext) : Sender := ⟨initRTPMuxContext ctx, []⟩

def step (x : Sender) (c : NalCall) : Run Sender :=
  match rtpSendNALH265 { x.ctx with aggregation := c.aggregation } c.nal c.last with
  | some (ctx, fs) => return ⟨ctx, x.log ++ [(c.nal, fs)]⟩
  | none => .error .outOfBounds

/-- What holds of the context between the calls, and of the packets sent so far. -/
structure WellFormed (x : Sender) : Prop where
  pointer : x.ctx.buf_ptr = 0 ∨ 4 ≤ x.ctx.buf_ptr ∧ x.ctx.buf_ptr ≤ RTP_PAYLOAD_MAX
  buffered : x.ctx.buf_ptr ≠ 0 →
    ∃ nals, nals <:+ x.log.map Prod.fst ∧ x.ctx.buf.bytes.take x.ctx.buf_ptr = Hevc.apPayload nals
  payloads : ∀ e ∈ x.log, ∃ packets, packetsOf e.2 = some packets ∧ ∀ p ∈ packets, p.payload.length ≤ RTP_PAYLOAD_MAX
  seq : x.ctx.seq.toNat < 2 ^ 16

end Sender

/-! ### The units that wait -/

section

variable {waiting sent : List Bytes}

theorem four_le_apOf (some : waiting ≠ []) : 4 ≤ (apOf waiting).length := by
  obtain ⟨nal, nals, rfl⟩ := List.exists_cons_of_ne_nil some
  have body : Hevc.apBody (nal :: nals) = Rtp.bytes16 (UInt16.ofNat nal.length) ++ nal ++ Hevc.apBody nals := rfl
  rw [apOf, if_neg some, Hevc.apPayload, body]
  simp only [List.length_append, List.length_cons, List.length_nil, Rtp.bytes16_length]
  omega

theorem Waiting.pointer {ctx : RTPMuxContext} (h : Waiting ctx waiting) :
    ctx.buf_ptr = 0 ∨ 4 ≤ ctx.buf_ptr ∧ ctx.buf_ptr ≤ RTP_PAYLOAD_MAX := by
  by_cases none : waiting = []
  · exact .inl (h.empty_iff.mpr none)
  · rw [h.length]
    exact .inr ⟨four_le_apOf none, h.length ▸ h.fits⟩

/-- The units that wait are the last ones sent. -/
theorem nalPayloads_suffix (h : waiting <:+ sent) (aggregation : Int) (nal : Bytes) (last : Int) :
    (nalPayloads aggregation waiting nal last).2 <:+ sent ++ [nal] := by
  unfold nalPayloads
  split
  · split
    · have kept : (if waiting ≠ [] ∧ (apOf waiting).length + 2 + nal.length > RTP_PAYLOAD_MAX then [] else waiting) ++ [nal] <:+
          sent ++ [nal] := by
        split
        · exact List.suffix_append _ _
        · obtain ⟨front, rfl⟩ := h
          exact ⟨front, (List.append_assoc ..).symm⟩
      dsimp only
      split
      · exact List.nil_suffix
      · exact kept
    · exact List.nil_suffix
  · exact List.nil_suffix

end

/-! ### A run keeps the context well formed -/

/-- The buffer holds an aggregation packet of the last units sent. -/
structure Sender.Holding (x : Sender) (waiting : List Bytes) : Prop where
  buffer : Waiting x.ctx waiting
  units : waiting <:+ x.log.map Prod.fst
  payloads : ∀ e ∈ x.log, ∃ packets, packetsOf e.2 = some packets ∧ ∀ p ∈ packets, p.payload.length ≤ RTP_PAYLOAD_MAX
  seq : x.ctx.seq.toNat < 2 ^ 16

section

variable {x : Sender} {waiting : List Bytes}

theorem Sender.Holding.wellFormed (h : x.Holding waiting) : x.WellFormed where
  pointer := h.buffer.pointer
  buffered occupied := by
    have some : waiting ≠ [] := fun none => occupied (h.buffer.empty_iff.mpr none)
    refine ⟨waiting, h.units, ?_⟩
    rw [h.buffer.bytes, apOf, if_neg some]
  payloads := h.payloads
  seq := h.seq

theorem Sender.step_ok {c : NalCall} {ctx : RTPMuxContext} {fs : List Bytes}
    (send : rtpSendNALH265 { x.ctx with aggregation := c.aggregation } c.nal c.last = some (ctx, fs)) :
    x.step c = .ok ⟨ctx, x.log ++ [(c.nal, fs)]⟩ := by
  unfold Sender.step
  rw [send]
  rfl

theorem Sent.seq_lt {ctx ctx' : RTPMuxContext} {payloads fs : List Bytes} (sent : Sent ctx ctx' payloads fs)
    (small : ctx.seq.toNat < 2 ^ 16) : ctx'.seq.toNat < 2 ^ 16 := by
  have number := nextSeq_iterate ctx.seq payloads.length ctx.seq.toNat (Nat.mod_eq_of_lt small).symm
  rw [sent.seq, number]
  exact Nat.mod_lt _ (by decide)

theorem holding_step (h : x.Holding waiting) (c : NalCall) :
    ∃ y waiting' ctx fs packets, x.step c = .ok y ∧ y = ⟨ctx, x.log ++ [(c.nal, fs)]⟩ ∧ y.Holding waiting' ∧
      packetsOf fs = some packets ∧
      packets.map Rtp.Packet.payload = (nalPayloads c.aggregation waiting c.nal c.last).1 := by
  have mode : Waiting { x.ctx with aggregation := c.aggregation } waiting := ⟨h.buffer.length, h.buffer.bytes, h.buffer.fits⟩
  obtain ⟨ctx, fs, send, sent, waiting'⟩ := rtpSendNALH265_sent mode c.nal c.last
  obtain ⟨packets, parsed, payloads, -⟩ := sent.packets (Nat.mod_eq_of_lt h.seq).symm
  refine ⟨_, _, ctx, fs, packets, Sender.step_ok send, rfl, ⟨waiting', ?_, ?_, sent.seq_lt h.seq⟩, parsed, payloads⟩
  · rw [List.map_append]
    exact nalPayloads_suffix h.units c.aggregation c.nal c.last
  · refine List.forall_mem_append.mpr ⟨h.payloads, List.forall_mem_singleton.mpr ⟨packets, parsed, fun p member => ?_⟩⟩
    obtain ⟨payloads, sent', small⟩ := rtpSendNALH265_inv send
    obtain ⟨packets', parsed', same, -⟩ := sent'.packets (Nat.mod_eq_of_lt h.seq).symm
    cases parsed.symm.trans parsed'
    exact small _ (same ▸ List.mem_map_of_mem member)

theorem holding_start (ctx : RTPMuxContext) : (Sender.start ctx).Holding [] where
  buffer := waiting_nil rfl
  units := List.nil_suffix
  payloads := nofun
  seq := Nat.pow_pos (by decide)

end

/-- Whatever is sent with a context of `initRTPMuxContext`, no write leaves its array and the
context stays well formed. -/
theorem sender_wellFormed (ctx : RTPMuxContext) (calls : List NalCall) :
    ∃ x, Runs.run Sender.step calls (Sender.start ctx) = .ok x ∧ x.WellFormed := by
  have keeps {x : Sender} {c : NalCall} (_ : True) (inv : ∃ waiting, x.Holding waiting) :
      ∃ y, x.step c = .ok y ∧ ∃ waiting, y.Holding waiting := by
    obtain ⟨waiting, holding⟩ := inv
    obtain ⟨y, waiting', -, -, -, taken, -, holding', -⟩ := holding_step holding c
    exact ⟨y, taken, waiting', holding'⟩
  obtain ⟨x, run, waiting, holding⟩ := Runs.run_total keeps ⟨[], holding_start ctx⟩ fun c _ => trivial
  exact ⟨x, run, holding.wellFormed⟩

end RtspServer
