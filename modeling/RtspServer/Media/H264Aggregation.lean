import RtspServer.Media.Aggregation
import RtspServer.Media.H264Stream
import RtspServer.Media.StapBuffer

/-!
# Sending H.264 with aggregation

The test for room leaves out the header of the STAP-A. A unit of 1398, 1399 or
1400 bytes passes for one that is aggregated, and does not fit behind the header
even when the buffer is empty.
-/

namespace RtspServer.RTPEnc

/-- No write leaves the buffer, no payload is empty or too long, and a receiver gets the units. -/
def StapLossless (ctx : RTPMuxContext) (calls : List (Bytes × Int)) : Prop :=
  ∃ ctx' ds packets, sendAll rtpSendNALH264AVC (aggregating ctx) calls = some (ctx', ds) ∧
    ds.mapM Rtp.parse = some packets ∧
    (∀ p ∈ packets, 1 ≤ p.payload.length ∧ p.payload.length ≤ RTP_PAYLOAD_MAX) ∧
    H264.depacketize (packets.map Rtp.Packet.payload) = some (calls.map Prod.fst)

/-- Short enough for the STAP-A, or too long for the aggregation branch. -/
def Placeable (nal : Bytes) : Prop := nal.length < 1398 ∨ 1400 < nal.length

instance (nal : Bytes) : Decidable (Placeable nal) := inferInstanceAs (Decidable (_ ∨ _))

/-! ### The fragments of a unit -/

theorem fuPieces_length {front p : Bytes} {c : UInt8} {fs : List Bytes} (member : p ∈ fuPieces front c fs) :
    ∃ f ∈ fs, p.length = front.length + 1 + f.length := by
  induction fs generalizing c with
  | nil => cases member
  | cons f fs ih =>
    cases fs with
    | nil =>
      rw [fuPieces, List.mem_singleton] at member
      exact ⟨f, List.mem_singleton_self f, by rw [member, List.length_append, List.length_cons]; omega⟩
    | cons g fs =>
      rw [fuPieces] at member
      rcases List.mem_cons.mp member with rfl | later
      · exact ⟨f, List.mem_cons_self, by rw [List.length_append, List.length_cons]; omega⟩
      · obtain ⟨f', inside, length⟩ := ih later
        exact ⟨f', List.mem_cons_of_mem _ inside, length⟩

theorem payloadsOf_bounds {nal p : Bytes} (some : nal ≠ []) (member : p ∈ payloadsOf nal) :
    1 ≤ p.length ∧ p.length ≤ RTP_PAYLOAD_MAX := by
  unfold payloadsOf at member
  split at member
  · rename_i small
    rw [List.mem_singleton.mp member]
    exact ⟨List.length_pos_of_ne_nil some, small⟩
  · cases nal with
    | nil => cases member
    | cons h data =>
      rename_i long
      rw [List.length_cons] at long
      dsimp only at member
      rw [fuPayloads_eq h _ (Hevc.cut_ne_nil _ _ _)] at member
      obtain ⟨f, inside, length⟩ := fuPieces_length member
      have short : f.length ≤ 1398 := by
        rcases List.mem_cons.mp inside with rfl | later
        · exact List.length_take_le _ _
        · apply Hevc.cut_le ?_ later (by decide)
          rw [List.length_drop]
          omega
      rw [length]
      unfold RTP_PAYLOAD_MAX
      exact ⟨by omega, Nat.add_le_add_left short 2⟩

/-! ### A call -/

/-- What the units waiting satisfy between two calls. -/
structure Collected (waiting : List Bytes) : Prop where
  small : ∀ x ∈ waiting, x.length ≤ 1397
  inside : (stapOf waiting).length ≤ RTP_PAYLOAD_MAX

theorem collected_nil : Collected [] := ⟨fun _ member => absurd member List.not_mem_nil, Nat.zero_le _⟩

theorem Collected.received {waiting : List Bytes} (collected : Collected waiting) (some : waiting ≠ []) :
    Rtp.receiveAll H264.receive none [stapOf waiting] = Option.some (none, waiting) := by
  apply Rtp.receiveAll_one
  rw [stapOf, if_neg some]
  apply H264.receive_stap
  intro nal member
  have := collected.small nal member
  omega

theorem stapOf_pos {waiting : List Bytes} (some : waiting ≠ []) : 1 ≤ (stapOf waiting).length := by
  rw [stapOf, if_neg some]
  exact Nat.succ_pos _

section

variable {waiting : List Bytes} {nal : Bytes}

/-- Whatever waits, there is room for the unit behind the header exactly if it is not one of the gap. -/
theorem joined_fits (waiting : List Bytes) (small : nal.length ≤ RTP_PAYLOAD_MAX) :
    (stapOf (joined 2 waiting nal)).length ≤ RTP_PAYLOAD_MAX ↔ Placeable nal := by
  rw [joined_length]
  unfold NoRoom Placeable
  unfold RTP_PAYLOAD_MAX at *
  by_cases none : waiting = []
  · rw [if_pos (.inr none)]
    omega
  · have positive := stapOf_pos none
    split
    · omega
    · rename_i room
      have room := mt Or.inl room
      omega

theorem callPayloads_overflow (waiting : List Bytes) (gap : ¬ Placeable nal) (last : Int) :
    callPayloads 2 payloadsOf 1 waiting nal last = none := by
  have small : nal.length ≤ RTP_PAYLOAD_MAX := by
    unfold Placeable at gap
    unfold RTP_PAYLOAD_MAX
    omega
  exact callPayloads_beyond small Int.one_ne_zero (Nat.lt_of_not_le (mt (joined_fits waiting small).mp gap))

theorem Collected.flushed (collected : Collected waiting) {due : Prop} [Decidable due] (some : due → waiting ≠ []) (mark : Int) :
    let out := if due then [(stapOf waiting, mark)] else []
    (∀ o ∈ out, 1 ≤ o.1.length ∧ o.1.length ≤ RTP_PAYLOAD_MAX) ∧
      Rtp.receiveAll H264.receive none (out.map Prod.fst) = Option.some (none, if due then waiting else []) := by
  by_cases yes : due
  · rw [if_pos yes, if_pos yes]
    exact ⟨List.forall_mem_singleton.mpr ⟨stapOf_pos (some yes), collected.inside⟩, collected.received (some yes)⟩
  · rw [if_neg yes, if_neg yes]
    exact ⟨fun _ member => absurd member List.not_mem_nil, rfl⟩

theorem Collected.joined (collected : Collected waiting) (fits : (stapOf (joined 2 waiting nal)).length ≤ RTP_PAYLOAD_MAX)
    (short : nal.length < 1398) : Collected (joined 2 waiting nal) := by
  refine ⟨fun x member => ?_, fits⟩
  rcases List.mem_append.mp member with old | new
  · split at old
    · exact absurd old List.not_mem_nil
    · exact collected.small x old
  · rw [List.mem_singleton.mp new]
    omega

/-- The payloads of `out` are within the bounds, and the units received of them and those that wait then are `nals`. -/
structure Received (nals : List Bytes) (out : List (Bytes × Int)) (kept : List Bytes) : Prop where
  bounds : ∀ o ∈ out, 1 ≤ o.1.length ∧ o.1.length ≤ RTP_PAYLOAD_MAX
  units : ∃ units, Rtp.receiveAll H264.receive none (out.map Prod.fst) = some (none, units) ∧ units ++ kept = nals
  collected : Collected kept

theorem Received.append {xs ys kept kept' : List Bytes} {out out' : List (Bytes × Int)} (first : Received xs out kept)
    (second : Received (kept ++ ys) out' kept') : Received (xs ++ ys) (out ++ out') kept' := by
  obtain ⟨units, received, whole⟩ := first.units
  obtain ⟨units', received', whole'⟩ := second.units
  refine ⟨List.forall_mem_append.mpr ⟨first.bounds, second.bounds⟩, ⟨units ++ units', ?_, ?_⟩, second.collected⟩
  · rw [List.map_append]
    exact Rtp.receiveAll_append received received'
  · rw [List.append_assoc, whole', ← List.append_assoc, whole]

theorem joined_all (overhead : Nat) (waiting : List Bytes) (nal : Bytes) :
    (if NoRoom overhead waiting nal then waiting else []) ++ joined overhead waiting nal = waiting ++ [nal] := by
  unfold joined
  by_cases full : NoRoom overhead waiting nal
  · rw [if_pos full, if_pos full, List.nil_append]
  · rw [if_neg full, if_neg full, List.nil_append]

theorem aggregated_received (collected : Collected waiting) (small : nal.length ≤ RTP_PAYLOAD_MAX) (placeable : Placeable nal)
    (last : Int) : ∃ out kept, callPayloads 2 payloadsOf 1 waiting nal last = some (out, kept) ∧
      Received (waiting ++ [nal]) out kept ∧ (last = 1 → kept = []) := by
  have fits := (joined_fits waiting small).mpr placeable
  have short : nal.length < 1398 := by
    unfold Placeable at placeable
    unfold RTP_PAYLOAD_MAX at small
    omega
  have waits : NoRoom 2 waiting nal → waiting ≠ [] := by
    intro full none
    rw [none] at full
    have beyond : 0 + 2 + nal.length > 1400 := full
    omega
  have collected' := collected.joined fits short
  obtain ⟨bounds, received⟩ := collected.flushed waits 0
  obtain ⟨bounds', received'⟩ := collected'.flushed (fun _ : last = 1 => List.append_ne_nil_of_right_ne_nil _ (List.cons_ne_nil _ _)) 1
  have both := Rtp.receiveAll_append received received'
  rw [← List.map_append] at both
  refine ⟨_, _, callPayloads_fits small Int.one_ne_zero fits,
    ⟨List.forall_mem_append.mpr ⟨bounds, bounds'⟩, ⟨_, both, ?_⟩, ?_⟩, fun final => if_pos final⟩
  · by_cases final : last = 1
    · rw [if_pos final, if_pos final, List.append_nil, joined_all]
    · rw [if_neg final, if_neg final, List.append_nil, joined_all]
  · split
    · exact collected_nil
    · exact collected'

theorem fragmented_received (collected : Collected waiting) (long : RTP_PAYLOAD_MAX < nal.length) (sendable : H264.Sendable nal)
    (last : Int) : ∃ out, callPayloads 2 payloadsOf 1 waiting nal last = some (out, []) ∧ Received (waiting ++ [nal]) out [] := by
  have nonempty : nal ≠ [] := fun none => by rw [none] at sendable; exact sendable
  obtain ⟨bounds, received⟩ := collected.flushed (fun some : waiting ≠ [] => some) 0
  simp only [ite_not] at bounds received
  refine ⟨_, callPayloads_long long, List.forall_mem_append.mpr ⟨bounds, ?_⟩, ⟨waiting ++ [nal], ?_, List.append_nil _⟩, collected_nil⟩
  · intro o member
    have inside : o.1 ∈ payloadsOf nal := by
      rw [← marked_fst last (payloadsOf nal)]
      exact List.mem_map_of_mem member
    exact payloadsOf_bounds nonempty inside
  · have whole : (if waiting = [] then [] else waiting) = waiting := by
      split
      · rename_i none
        exact none.symm
      · rfl
    rw [whole] at received
    rw [List.map_append, marked_fst]
    exact Rtp.receiveAll_append received (receiveAll_payloadsOf sendable)

theorem callPayloads_received (collected : Collected waiting) (sendable : H264.Sendable nal) (placeable : Placeable nal)
    (last : Int) : ∃ out kept, callPayloads 2 payloadsOf 1 waiting nal last = some (out, kept) ∧
      Received (waiting ++ [nal]) out kept ∧ (last = 1 → kept = []) := by
  by_cases small : nal.length ≤ RTP_PAYLOAD_MAX
  · exact aggregated_received collected small placeable last
  · obtain ⟨out, call, received⟩ := fragmented_received collected (Nat.lt_of_not_le small) sendable last
    exact ⟨out, [], call, received, fun _ => rfl⟩

end

/-! ### A run -/

theorem runPayloads_received {waiting : List Bytes} {calls : List (Bytes × Int)} (collected : Collected waiting)
    (sendable : ∀ c ∈ calls, H264.Sendable c.1) (placeable : ∀ c ∈ calls, Placeable c.1) :
    ∃ out kept, runPayloads 2 payloadsOf 1 waiting calls = some (out, kept) ∧
      Received (waiting ++ calls.map Prod.fst) out kept ∧ ((∀ c ∈ calls.getLast?, c.2 = 1) → calls ≠ [] → kept = []) := by
  induction calls generalizing waiting with
  | nil =>
    rw [List.map_nil, List.append_nil]
    exact ⟨[], waiting, rfl, ⟨fun _ member => absurd member List.not_mem_nil, ⟨[], rfl, rfl⟩, collected⟩,
      fun _ some => absurd rfl some⟩
  | cons c calls ih =>
    rw [List.forall_mem_cons] at sendable placeable
    obtain ⟨out1, kept1, call, received1, flushed⟩ := callPayloads_received collected sendable.1 placeable.1 c.2
    obtain ⟨out2, kept2, run, received2, final2⟩ := ih received1.collected sendable.2 placeable.2
    refine ⟨out1 ++ out2, kept2, ?_, ?_, ?_⟩
    · rw [runPayloads, call, Option.bind_some, run]
      rfl
    · rw [List.map_cons, List.append_cons]
      exact received1.append received2
    · intro final _
      by_cases more : calls = []
      · rw [more] at run final
        cases run
        exact flushed (final c rfl)
      · rw [List.getLast?_cons_of_ne_nil more] at final
        exact final2 final more

theorem runPayloads_overflow {waiting : List Bytes} {calls : List (Bytes × Int)} (gap : ∃ c ∈ calls, ¬ Placeable c.1) :
    runPayloads 2 payloadsOf 1 waiting calls = none := by
  induction calls generalizing waiting with
  | nil =>
    obtain ⟨c, member, -⟩ := gap
    cases member
  | cons c calls ih =>
    rw [runPayloads]
    rw [List.exists_mem_cons_iff] at gap
    rcases gap with here | later
    · rw [callPayloads_overflow waiting here c.2]
      rfl
    · cases callPayloads 2 payloadsOf 1 waiting c.1 c.2 with
      | none => rfl
      | some r => rw [Option.bind_some, ih later]; rfl

section

variable (ctx : RTPMuxContext) {calls : List (Bytes × Int)}

theorem Sendable.ne_nil (sendable : ∀ c ∈ calls, H264.Sendable c.1) : ∀ c ∈ calls, c.1 ≠ [] := by
  intro c member none
  have unit := sendable c member
  rw [none] at unit
  exact unit

theorem not_stapLossless (sendable : ∀ c ∈ calls, H264.Sendable c.1) (gap : ∃ c ∈ calls, ¬ Placeable c.1) :
    ¬ StapLossless ctx calls := by
  intro lossless
  obtain ⟨ctx', ds, packets, sends, -⟩ := lossless
  have pending : Pending (aggregating ctx) [] := pending_nil rfl
  have overflow := sendAll_overflow rtpSendNALH264AVC_sends pending (Sendable.ne_nil sendable) (runPayloads_overflow gap)
  cases sends.symm.trans overflow

/-- The units arrive, within all bounds, exactly if none has 1398, 1399 or 1400 bytes. -/
theorem stapLossless_iff (sendable : ∀ c ∈ calls, H264.Sendable c.1) (final : ∀ c ∈ calls.getLast?, c.2 = 1) :
    StapLossless ctx calls ↔ ∀ c ∈ calls, Placeable c.1 := by
  constructor
  · intro lossless c member
    by_contra gap
    exact not_stapLossless ctx sendable ⟨c, member, gap⟩ lossless
  · intro placeable
    obtain ⟨out, kept, run, arrived, done⟩ := runPayloads_received collected_nil sendable placeable
    obtain ⟨units, received, whole⟩ := arrived.units
    have pending : Pending (aggregating ctx) [] := pending_nil rfl
    obtain ⟨ctx', ds, sends, emitted, -⟩ := sendAll_emitted rtpSendNALH264AVC_sends pending (Sendable.ne_nil sendable) run
    obtain ⟨packets, parsed, payloads, -⟩ := datagrams_packets (aggregating ctx).timestamp (aggregating ctx).ssrc out
      (show (aggregating ctx).seq.toNat = 0 % 65536 from rfl)
    have none : kept = [] := by
      by_cases empty : calls = []
      · rw [empty] at run
        cases run
        rfl
      · exact done final empty
    rw [none, List.append_nil, List.nil_append] at whole
    refine ⟨ctx', ds, packets, sends, by rw [emitted.datagrams]; exact parsed, ?_, ?_⟩
    · intro p member
      have inside : p.payload ∈ out.map Prod.fst := by
        rw [← payloads]
        exact List.mem_map_of_mem member
      obtain ⟨o, sent, same⟩ := List.mem_map.mp inside
      rw [← same]
      exact arrived.bounds o sent
    · apply H264.depacketize_of_receiveAll
      rw [payloads, received, whole]

end

theorem stapLossless_iff_two :
    let calls : List (Bytes × Int) := [([0x67, 1], 0), ([0x65, 2, 3], 1)]
    let ctx : RTPMuxContext := ⟨.zero _, .zero _, 0, 0, 0, 0, 0, 0⟩
    (∀ c ∈ calls, H264.Sendable c.1) ∧ (∀ c ∈ calls.getLast?, c.2 = 1) ∧
      (StapLossless ctx calls ↔ ∀ c ∈ calls, Placeable c.1) :=
  have sendable : ∀ c ∈ ([([0x67, 1], 0), ([0x65, 2, 3], 1)] : List (Bytes × Int)), H264.Sendable c.1 := by decide
  have final : ∀ c ∈ ([([0x67, 1], 0), ([0x65, 2, 3], 1)] : List (Bytes × Int)).getLast?, c.2 = 1 := by decide
  ⟨sendable, final, stapLossless_iff ⟨.zero _, .zero _, 0, 0, 0, 0, 0, 0⟩ sendable final⟩

def gapNal : Bytes := 0x65 :: List.replicate 1397 1

theorem gapNal_length : gapNal.length = 1398 := by
  simp only [gapNal, List.length_cons, List.length_replicate]

/-- With its size and the header of the STAP-A, this unit takes 1401 bytes. -/
theorem not_stapLossless_gap :
    (∀ c ∈ [(gapNal, (1 : Int))], H264.Sendable c.1) ∧ (∀ c ∈ [(gapNal, (1 : Int))].getLast?, c.2 = 1) ∧
      ¬ StapLossless ⟨.zero _, .zero _, 0, 0, 0, 0, 0, 0⟩ [(gapNal, 1)] := by
  have length := gapNal_length
  have unit : H264.Sendable gapNal := show H264.fBit 0x65 = 0 ∧ 1 ≤ H264.nalType 0x65 ∧ H264.nalType 0x65 ≤ 23 by decide
  have sendable : ∀ c ∈ [(gapNal, (1 : Int))], H264.Sendable c.1 := List.forall_mem_singleton.mpr unit
  refine ⟨sendable, fun c last => by cases last; rfl, ?_⟩
  apply not_stapLossless _ sendable
  refine ⟨_, List.mem_singleton_self _, ?_⟩
  unfold Placeable
  dsimp only
  omega

end RtspServer.RTPEnc
