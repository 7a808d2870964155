import RtspServer.Media.NalSender

/-!
# Sending with aggregation

A list of units sent with `aggregation` on. The branch for a single unit does not
flush the buffer, and the send it makes empties it: the units waiting are lost.
-/

namespace RtspServer

def sendNals (ctx : RTPMuxContext) : List Bytes → Option (RTPMuxContext × List Bytes)
  | [] => some (ctx, [])
  | nal :: nals => do
    let (ctx, fs) ← rtpSendNALH265 ctx nal (if nals = [] then 1 else 0)
    let (ctx, gs) ← sendNals ctx nals
    return (ctx, fs ++ gs)

/-- The context of `initRTPMuxContext` with aggregation switched on. -/
def aggregating (ctx : RTPMuxContext) : RTPMuxContext := { initRTPMuxContext ctx with aggregation := 1 }

def AggregationLossless (ctx : RTPMuxContext) (nals : List Bytes) : Prop :=
  ∃ ctx' fs packets, sendNals (aggregating ctx) nals = some (ctx', fs) ∧ packetsOf fs = some packets ∧
    Hevc.depacketize (packets.map Rtp.Packet.payload) = some nals ∧ ctx'.buf_ptr = 0

structure Aggregable (nal : Bytes) : Prop where
  sendable : Hevc.Sendable nal
  plain : 1400 < nal.length → Hevc.PlainHeader nal

instance (nal : Bytes) : Decidable (Aggregable nal) :=
  decidable_of_iff (Hevc.Sendable nal ∧ (1400 < nal.length → Hevc.PlainHeader nal))
    ⟨fun ⟨a, b⟩ => ⟨a, b⟩, fun ⟨a, b⟩ => ⟨a, b⟩⟩

/-! ### The units that arrive -/

/-- Too long to be aggregated, too short to be fragmented. -/
def Stranding (nal : Bytes) : Prop := 1396 < nal.length ∧ nal.length ≤ 1400

instance (nal : Bytes) : Decidable (Stranding nal) := inferInstanceAs (Decidable (_ ∧ _))

/-- The buffer has no room for `nal` behind the units waiting. -/
def Full (waiting : List Bytes) (nal : Bytes) : Prop :=
  waiting ≠ [] ∧ (apOf waiting).length + 2 + nal.length > RTP_PAYLOAD_MAX

instance (waiting : List Bytes) (nal : Bytes) : Decidable (Full waiting nal) :=
  inferInstanceAs (Decidable (_ ∧ _))

/-- The units a call delivers, if it is not the last. -/
def delivered (waiting : List Bytes) (nal : Bytes) : List Bytes :=
  if 1400 < nal.length then waiting ++ [nal]
  else if Stranding nal then [nal]
  else if Full waiting nal then waiting else []

/-- The units waiting after the call. -/
def kept (waiting : List Bytes) (nal : Bytes) : List Bytes :=
  if 1396 < nal.length then [] else (if Full waiting nal then [] else waiting) ++ [nal]

/-- The units a receiver gets out of `waiting` and the calls for `nals`. -/
def survivors : List Bytes → List Bytes → List Bytes
  | waiting, [] => waiting
  | waiting, nal :: nals => delivered waiting nal ++ survivors (kept waiting nal) nals

/-- The units a call loses. -/
def lost (waiting : List Bytes) (nal : Bytes) : List Bytes := if Stranding nal then waiting else []

theorem kept_eq_nil_iff (waiting : List Bytes) (nal : Bytes) : kept waiting nal = [] ↔ 1396 < nal.length := by
  unfold kept
  split
  · rename_i long
    exact iff_of_true rfl long
  · rename_i short
    exact iff_of_false (List.append_ne_nil_of_right_ne_nil _ (List.cons_ne_nil _ _)) short

theorem delivered_kept_length (waiting : List Bytes) (nal : Bytes) :
    (delivered waiting nal).length + (kept waiting nal).length + (lost waiting nal).length =
      waiting.length + 1 := by
  unfold delivered kept lost
  by_cases long : 1400 < nal.length
  · have safe : ¬ Stranding nal := fun band => absurd band.2 (Nat.not_le_of_lt long)
    rw [if_pos long, if_pos (by omega), if_neg safe, List.length_append]
    rfl
  by_cases band : 1396 < nal.length
  · have stranding : Stranding nal := ⟨band, Nat.le_of_not_lt long⟩
    rw [if_neg long, if_pos stranding, if_pos band, if_pos stranding, List.length_singleton, List.length_nil]
    omega
  · have safe : ¬ Stranding nal := fun h => band h.1
    rw [if_neg long, if_neg safe, if_neg band, if_neg safe]
    split <;> simp

theorem delivered_kept (waiting : List Bytes) (nal : Bytes) (safe : lost waiting nal = []) :
    delivered waiting nal ++ kept waiting nal = waiting ++ [nal] := by
  unfold delivered kept
  unfold lost at safe
  by_cases long : 1400 < nal.length
  · rw [if_pos long, if_pos (by omega), List.append_nil]
  by_cases band : 1396 < nal.length
  · have stranding : Stranding nal := ⟨band, Nat.le_of_not_lt long⟩
    rw [if_pos stranding] at safe
    rw [if_neg long, if_pos stranding, if_pos band, safe]
    rfl
  · rw [if_neg long, if_neg (fun h => band h.1), if_neg band]
    split
    · rfl
    · rfl

theorem survivors_length (waiting nals : List Bytes) :
    (survivors waiting nals).length ≤ waiting.length + nals.length := by
  induction nals generalizing waiting with
  | nil => exact Nat.le_refl _
  | cons nal nals ih =>
    have step := delivered_kept_length waiting nal
    have rest := ih (kept waiting nal)
    rw [survivors, List.length_append, List.length_cons]
    omega

/-- `a` is not left waiting when a unit of the gap follows. -/
def Keeps (a b : Bytes) : Prop := ¬ (a.length ≤ 1396 ∧ Stranding b)

instance (a b : Bytes) : Decidable (Keeps a b) := inferInstanceAs (Decidable (¬ _))

theorem lost_kept (waiting : List Bytes) (a b : Bytes) : lost (kept waiting a) b = [] ↔ Keeps a b := by
  unfold lost Keeps
  by_cases band : Stranding b
  · rw [if_pos band, kept_eq_nil_iff]
    constructor
    · intro long both
      omega
    · intro keeps
      by_contra short
      exact keeps ⟨by omega, band⟩
  · rw [if_neg band]
    exact iff_of_true rfl fun both => band both.2

/-- All units arrive, in order, exactly when no call loses one. -/
theorem survivors_eq_iff (waiting : List Bytes) (nal : Bytes) (nals : List Bytes) :
    survivors waiting (nal :: nals) = waiting ++ nal :: nals ↔
      lost waiting nal = [] ∧ (nal :: nals).IsChain Keeps := by
  induction nals generalizing waiting nal with
  | nil =>
    rw [survivors, survivors]
    constructor
    · intro all
      have step := delivered_kept_length waiting nal
      have length := congrArg List.length all
      simp only [List.length_append, List.length_singleton] at length
      exact ⟨List.eq_nil_of_length_eq_zero (by omega), List.IsChain.singleton _⟩
    · rintro ⟨safe, -⟩
      exact delivered_kept waiting nal safe
  | cons next nals ih =>
    have step := delivered_kept_length waiting nal
    have bound := survivors_length (kept waiting nal) (next :: nals)
    rw [survivors, List.isChain_cons_cons, ← lost_kept waiting]
    constructor
    · intro all
      have length := congrArg List.length all
      simp only [List.length_append, List.length_cons] at length bound
      have safe : lost waiting nal = [] := List.eq_nil_of_length_eq_zero (by omega)
      have front : waiting ++ nal :: next :: nals =
          delivered waiting nal ++ (kept waiting nal ++ next :: nals) := by
        rw [← List.append_assoc, delivered_kept waiting nal safe, List.append_assoc]
        rfl
      rw [front] at all
      obtain ⟨later, chain⟩ := (ih (kept waiting nal) next).mp (List.append_cancel_left all)
      exact ⟨safe, later, chain⟩
    · rintro ⟨safe, later, chain⟩
      rw [(ih (kept waiting nal) next).mpr ⟨later, chain⟩, ← List.append_assoc,
        delivered_kept waiting nal safe, List.append_assoc]
      rfl

/-! ### The calls deliver the survivors -/

theorem receiveAll_apOf {waiting : List Bytes} (nonempty : waiting ≠ []) (small : ∀ nal ∈ waiting, nal.length ≤ 1396) :
    Hevc.receiveAll none [apOf waiting] = some (none, waiting) := by
  rw [apOf, if_neg nonempty]
  apply Hevc.receiveAll_one
  apply Hevc.receive_ap
  intro nal member
  have := small nal member
  omega

theorem kept_small {waiting : List Bytes} (small : ∀ nal ∈ waiting, nal.length ≤ 1396) (nal : Bytes) :
    ∀ x ∈ kept waiting nal, x.length ≤ 1396 := by
  intro x member
  unfold kept at member
  split at member
  · exact absurd member List.not_mem_nil
  · rename_i short
    rcases List.mem_append.mp member with old | new
    · split at old
      · exact absurd old List.not_mem_nil
      · exact small x old
    · rw [List.mem_singleton.mp new]
      omega

theorem receiveAll_nalPayloads {waiting : List Bytes} {nal : Bytes} (small : ∀ x ∈ waiting, x.length ≤ 1396)
    (ok : Aggregable nal) (last : Int) :
    Hevc.receiveAll none (nalPayloads 1 waiting nal last).1 =
        some (none, delivered waiting nal ++ if last = 1 then kept waiting nal else []) ∧
      (nalPayloads 1 waiting nal last).2 = if last = 1 then [] else kept waiting nal := by
  unfold nalPayloads delivered
  by_cases long : 1400 < nal.length
  · -- The fragmentation branch flushes first.
    have empty : kept waiting nal = [] := (kept_eq_nil_iff waiting nal).mpr (by omega)
    have not : ¬ nal.length ≤ RTP_PAYLOAD_MAX := Nat.not_le_of_lt long
    rw [if_neg not, if_pos long, empty]
    simp only [ite_self, List.append_nil, and_true]
    have fragments := receiveAll_fragmentsOf long (ok.plain long)
    by_cases none : waiting = []
    · rw [if_pos none, none]
      exact fragments
    · rw [if_neg none]
      exact Hevc.receiveAll_append (receiveAll_apOf none small) fragments
  have fits : nal.length ≤ RTP_PAYLOAD_MAX := Nat.le_of_not_lt long
  by_cases band : 1396 < nal.length
  · -- The single unit branch does not look at the buffer.
    have empty : kept waiting nal = [] := (kept_eq_nil_iff waiting nal).mpr band
    have wide : ¬ ((1 : Int) ≠ 0 ∧ nal.length + 4 ≤ RTP_PAYLOAD_MAX) := fun h => by
      have := h.2
      unfold RTP_PAYLOAD_MAX at this
      omega
    rw [if_pos fits, if_neg wide, if_neg long, if_pos ⟨band, Nat.le_of_not_lt long⟩, empty]
    simp only [ite_self, List.append_nil, and_true]
    exact Hevc.receiveAll_one (Hevc.receive_single ok.sendable)
  · -- The aggregation branch.
    have narrow : (1 : Int) ≠ 0 ∧ nal.length + 4 ≤ RTP_PAYLOAD_MAX :=
      ⟨by decide, by unfold RTP_PAYLOAD_MAX; omega⟩
    have keep : kept waiting nal = (if Full waiting nal then [] else waiting) ++ [nal] := if_neg band
    have nonempty : kept waiting nal ≠ [] := mt (kept_eq_nil_iff waiting nal).mp band
    have flushed : Hevc.receiveAll none (if Full waiting nal then [apOf waiting] else []) =
        some (none, if Full waiting nal then waiting else []) := by
      split
      · rename_i full
        exact receiveAll_apOf full.1 small
      · rfl
    have safe : ¬ Stranding nal := fun h => band h.1
    rw [if_pos fits, if_pos narrow, if_neg long, if_neg safe]
    by_cases final : last = 1
    · rw [if_pos final, if_pos final, if_pos final]
      refine ⟨?_, rfl⟩
      have sent := Hevc.receiveAll_append flushed (receiveAll_apOf nonempty (kept_small small nal))
      rw [keep] at sent ⊢
      exact sent
    · rw [if_neg final, if_neg final, if_neg final, List.append_nil]
      exact ⟨flushed, keep.symm⟩

/-- A run of the sender delivers exactly the survivors and leaves the buffer empty. -/
theorem sendNals_received {ctx : RTPMuxContext} {waiting nals : List Bytes} {s : Nat} (h : Waiting ctx waiting)
    (on : ctx.aggregation = 1) (seq : ctx.seq.toNat = s % 65536) (small : ∀ x ∈ waiting, x.length ≤ 1396)
    (ok : ∀ nal ∈ nals, Aggregable nal) (nonempty : nals ≠ []) :
    ∃ ctx' fs packets, sendNals ctx nals = some (ctx', fs) ∧ packetsOf fs = some packets ∧
      Hevc.receiveAll none (packets.map Rtp.Packet.payload) = some (none, survivors waiting nals) ∧
      ctx'.buf_ptr = 0 := by
  induction nals generalizing ctx waiting s with
  | nil => exact absurd rfl nonempty
  | cons nal nals ih =>
    obtain ⟨ctx1, fs, send, sent, waiting1⟩ :=
      rtpSendNALH265_sent h nal (if nals = [] then 1 else 0)
    obtain ⟨received, stays⟩ := receiveAll_nalPayloads small (ok nal List.mem_cons_self)
      (if nals = [] then 1 else 0)
    rw [on] at sent waiting1
    obtain ⟨ps, parsed, payloads, -, seq1⟩ := sent.packets seq
    rw [← payloads] at received
    by_cases final : nals = []
    · subst final
      rw [stays] at waiting1
      refine ⟨ctx1, fs ++ [], ps, ?_, by rw [List.append_nil]; exact parsed, received, waiting1.length⟩
      rw [sendNals, send]
      rfl
    · have more : ¬ (if nals = [] then (1 : Int) else 0) = 1 := by rw [if_neg final]; decide
      rw [stays, if_neg more] at waiting1
      rw [if_neg more, List.append_nil] at received
      obtain ⟨ctx', gs, qs, run, parsed', received', empty⟩ := ih waiting1 (sent.aggregation.trans on) seq1
        (kept_small small nal) (fun x member => ok x (List.mem_cons_of_mem _ member)) final
      refine ⟨ctx', fs ++ gs, ps ++ qs, ?_, packetsOf_append parsed parsed', ?_, empty⟩
      · rw [sendNals, send]
        simp only [Option.bind_eq_bind, Option.bind_some, run, Option.pure_def]
      · rw [List.map_append]
        exact Hevc.receiveAll_append received received'

theorem aggregating_received (ctx : RTPMuxContext) {nals : List Bytes} (nonempty : nals ≠ [])
    (ok : ∀ nal ∈ nals, Aggregable nal) :
    ∃ ctx' fs packets, sendNals (aggregating ctx) nals = some (ctx', fs) ∧ packetsOf fs = some packets ∧
      Hevc.depacketize (packets.map Rtp.Packet.payload) = some (survivors [] nals) ∧ ctx'.buf_ptr = 0 := by
  have start : Waiting (aggregating ctx) [] := waiting_nil rfl
  have first : (aggregating ctx).seq.toNat = 0 % 65536 := rfl
  obtain ⟨ctx', fs, packets, run, parsed, received, empty⟩ :=
    sendNals_received start rfl first (by simp) ok nonempty
  exact ⟨ctx', fs, packets, run, parsed, Hevc.depacketize_of_receiveAll received, empty⟩

theorem aggregationLossless_iff_survivors (ctx : RTPMuxContext) {nals : List Bytes} (nonempty : nals ≠ [])
    (ok : ∀ nal ∈ nals, Aggregable nal) : AggregationLossless ctx nals ↔ survivors [] nals = nals := by
  obtain ⟨ctx', fs, packets, run, parsed, received, empty⟩ := aggregating_received ctx nonempty ok
  constructor
  · rintro ⟨ctx'', fs', packets', run', parsed', received', -⟩
    rw [run, Option.some.injEq, Prod.mk.injEq] at run'
    rw [← run'.2, parsed, Option.some.injEq] at parsed'
    rw [← parsed', received] at received'
    exact Option.some.inj received'
  · intro same
    rw [same] at received
    exact ⟨ctx', fs, packets, run, parsed, received, empty⟩

theorem survivors_nil_iff {nals : List Bytes} (nonempty : nals ≠ []) :
    survivors [] nals = nals ↔ nals.IsChain Keeps := by
  match nals, nonempty with
  | nal :: nals, _ =>
    have nothing : lost [] nal = [] := by unfold lost; split <;> rfl
    have law := survivors_eq_iff [] nal nals
    rw [List.nil_append] at law
    rw [law]
    exact ⟨fun h => h.2, fun h => ⟨nothing, h⟩⟩

/-- Aggregation loses nothing exactly when no unit of 1397 to 1400 bytes directly
follows a unit of at most 1396 bytes. -/
theorem aggregationLossless_iff (ctx : RTPMuxContext) (nals : List Bytes) (nonempty : nals ≠ [])
    (ok : ∀ nal ∈ nals, Aggregable nal) : AggregationLossless ctx nals ↔ nals.IsChain Keeps := by
  rw [aggregationLossless_iff_survivors ctx nonempty ok, survivors_nil_iff nonempty]

theorem aggregationLossless_iff_two :
    let nals : List Bytes := [[0x40, 1], [0x42, 1, 7]]
    let ctx : RTPMuxContext := ⟨.zero _, .zero _, 0, 0, 0, 0, 0, 0⟩
    (nals ≠ [] ∧ ∀ nal ∈ nals, Aggregable nal) ∧ (AggregationLossless ctx nals ↔ nals.IsChain Keeps) :=
  have ok : ∀ nal ∈ ([[0x40, 1], [0x42, 1, 7]] : List Bytes), Aggregable nal := by decide
  ⟨⟨by decide, ok⟩, aggregationLossless_iff ⟨.zero _, .zero _, 0, 0, 0, 0, 0, 0⟩ _ (by decide) ok⟩

def strandingNal : Bytes := 0x40 :: 1 :: List.replicate 1395 1

theorem strandingNal_length : strandingNal.length = 1397 := by
  simp only [strandingNal, List.length_cons, List.length_replicate]

/-- The first unit of these two does not arrive. -/
theorem not_aggregationLossless_two :
    (∀ nal ∈ [[0x42, 1], strandingNal], Aggregable nal) ∧
      ¬ AggregationLossless ⟨.zero _, .zero _, 0, 0, 0, 0, 0, 0⟩ [[0x42, 1], strandingNal] := by
  have length := strandingNal_length
  have ok : ∀ nal ∈ [[0x42, 1], strandingNal], Aggregable nal := by
    intro nal member
    rcases List.mem_cons.mp member with rfl | second
    · decide
    · rw [List.mem_singleton.mp second]
      exact ⟨(by decide : Hevc.nalType 0x40 < 48), fun long => by omega⟩
  refine ⟨ok, ?_⟩
  rw [aggregationLossless_iff_survivors _ (List.cons_ne_nil _ _) ok, survivors_nil_iff (List.cons_ne_nil _ _)]
  intro chain
  have keeps : Keeps [0x42, 1] strandingNal := (List.isChain_cons_cons.mp chain).1
  exact keeps ⟨by decide, by omega, by omega⟩

end RtspServer
