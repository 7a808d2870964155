import RtspServer.Media.NalSender

/-!
# The shape of a fragmented unit

Which packets a unit of more than `RTP_PAYLOAD_MAX` bytes goes out in, whatever
its header and whatever waits in the buffer.
-/

namespace RtspServer

/-- What waits in the buffer, as the payload of its own packet. -/
def pendingOf (ctx : RTPMuxContext) : List Bytes :=
  if ctx.buf_ptr = 0 then [] else [ctx.buf.bytes.take ctx.buf_ptr]

/-- `payloads` are the fragmentation units of `nal`, and `fragments` is what they carry. -/
structure Fragmented (nal : Bytes) (payloads : List Bytes) (fragments : List Hevc.Fragment) : Prop where
  read : payloads.mapM Hevc.fragmentOf = some fragments
  two : 2 ≤ fragments.length
  start : fragments.map Hevc.Fragment.start = true :: List.replicate (fragments.length - 1) false
  stop : fragments.map Hevc.Fragment.stop = List.replicate (fragments.length - 1) false ++ [true]
  type : ∀ f ∈ fragments, (nal.head?.map Hevc.nalType) = some f.type
  full : ∀ p ∈ payloads.dropLast, p.length = 1400
  last : ∀ f ∈ fragments.getLast?, 1 ≤ f.data.length ∧ f.data.length ≤ 1397
  whole : (fragments.map Hevc.Fragment.data).flatten = nal.drop 2

theorem fuRest_lengths (type : UInt8) (fs : List Bytes) :
    (Hevc.fuRest type fs).map List.length = fs.map fun f => f.length + 3 := by
  induction fs with
  | nil => rfl
  | cons f fs ih =>
    cases fs with
    | nil => rfl
    | cons g fs => rw [Hevc.fuRest, List.map_cons, ih]; rfl

/-- The pieces that a unit of more than `RTP_PAYLOAD_MAX` bytes is cut into, behind its header. -/
structure Pieces (data front : Bytes) (rest : List Bytes) : Prop where
  more : rest ≠ []
  whole : front ++ rest.flatten = data
  inner : ∀ f ∈ (front :: rest).dropLast, f.length = 1397
  last : ∀ f ∈ rest.getLast?, 1 ≤ f.length ∧ f.length ≤ 1397

theorem pieces_cut {data : Bytes} (long : 1398 < data.length) :
    Pieces data (data.take 1397) (Hevc.cut 1397 data.length (data.drop 1397)) where
  more := Hevc.cut_ne_nil _ _ _
  whole := by rw [Hevc.cut_flatten, List.take_append_drop]
  inner := by
    have front : (data.take 1397).length = 1397 := by rw [List.length_take]; omega
    rw [List.dropLast_cons_of_ne_nil (Hevc.cut_ne_nil _ _ _)]
    exact List.forall_mem_cons.mpr ⟨front, fun p => Hevc.cut_full⟩
  last p := by
    have rest : (data.drop 1397).length = data.length - 1397 := List.length_drop
    exact Hevc.cut_last (by decide) (List.ne_nil_of_length_pos (by omega)) (by omega)

section

variable {data front : Bytes} {rest : List Bytes}

theorem Pieces.every (pieces : Pieces data front rest) : ∀ f ∈ front :: rest, f.length ≤ 1397 := by
  intro f member
  rw [← List.dropLast_concat_getLast (List.cons_ne_nil front rest)] at member
  rcases List.mem_append.mp member with before | final
  · exact Nat.le_of_eq (pieces.inner f before)
  · rw [List.mem_singleton.mp final, List.getLast_cons pieces.more]
    exact (pieces.last _ (List.getLast?_eq_getLast_of_ne_nil pieces.more)).2

theorem fuPayloads_lengths (type : UInt8) (front : Bytes) (rest : List Bytes) :
    (Hevc.fuPayloads type front rest).map List.length = (front :: rest).map fun f => f.length + 3 := by
  rw [Hevc.fuPayloads, List.map_cons, fuRest_lengths]
  rfl

/-- All payloads but the last are full, and none is longer. -/
theorem Pieces.payloads (pieces : Pieces data front rest) (type : UInt8) :
    (∀ p ∈ (Hevc.fuPayloads type front rest).dropLast, p.length = 1400) ∧
      ∀ p ∈ Hevc.fuPayloads type front rest, p.length ≤ 1400 := by
  have lengths := fuPayloads_lengths type front rest
  constructor
  · intro p member
    have length : p.length ∈ ((front :: rest).map fun f => f.length + 3).dropLast := by
      rw [← lengths, ← List.map_dropLast]
      exact List.mem_map_of_mem member
    rw [← List.map_dropLast] at length
    obtain ⟨f, inside, same⟩ := List.mem_map.mp length
    rw [← same, pieces.inner f inside]
  · intro p member
    have length : p.length ∈ (front :: rest).map fun f => f.length + 3 := by
      rw [← lengths]
      exact List.mem_map_of_mem member
    obtain ⟨f, inside, same⟩ := List.mem_map.mp length
    have small := pieces.every f inside
    omega

end

theorem fragmented {nal : Bytes} (long : 1400 < nal.length) :
    ∃ fragments, Fragmented nal (fragmentsOf nal) fragments ∧ ∀ p ∈ fragmentsOf nal, p.length ≤ 1400 := by
  match nal, long with
  | h0 :: h1 :: data, long =>
    simp only [List.length_cons] at long
    have pieces := pieces_cut (by omega : 1398 < data.length)
    have payloads : fragmentsOf (h0 :: h1 :: data) =
        Hevc.fuPayloads (Hevc.typeField h0) (data.take 1397) (Hevc.cut 1397 data.length (data.drop 1397)) := rfl
    rw [payloads]
    generalize data.take 1397 = front at pieces
    generalize Hevc.cut 1397 data.length (data.drop 1397) = rest at pieces
    obtain ⟨full, small⟩ := pieces.payloads (Hevc.typeField h0)
    have count : (Hevc.fragmentsFrom true (Hevc.nalType h0) (front :: rest)).length = rest.length + 1 :=
      Hevc.fragmentsFrom_length ..
    refine ⟨Hevc.fragmentsFrom true (Hevc.nalType h0) (front :: rest), ⟨?_, ?_, ?_, ?_, ?_, full, ?_, ?_⟩, small⟩
    · exact Hevc.fragments_fuPayloads h0 front pieces.more
    · rw [count]
      exact Nat.succ_le_succ (List.length_pos_of_ne_nil pieces.more)
    · rw [count]
      exact Hevc.fragmentsFrom_start ..
    · rw [count]
      exact Hevc.fragmentsFrom_stop ..
    · intro f member
      rw [Hevc.fragmentsFrom_type _ _ _ f member]
      rfl
    · intro f final
      have data : f.data ∈ rest.getLast? := by
        have mapped := congrArg List.getLast? (Hevc.fragmentsFrom_data true (Hevc.nalType h0) (front :: rest))
        rw [List.getLast?_map, final, List.getLast?_cons_of_ne_nil pieces.more] at mapped
        exact mapped.symm
      exact pieces.last f.data data
    · rw [Hevc.fragmentsFrom_data]
      exact pieces.whole

/-- A unit of more than 1400 bytes goes out behind what waits in the buffer, in two or more
fragmentation units. -/
theorem rtpSendNALH265_fragmented (ctx : RTPMuxContext) (nal : Bytes) (last : Int)
    (inside : ctx.buf_ptr ≤ RTP_PAYLOAD_MAX) (long : 1400 < nal.length) :
    ∃ ctx' fs packets payloads fragments, rtpSendNALH265 ctx nal last = some (ctx', fs) ∧
      packetsOf fs = some packets ∧ packets.map Rtp.Packet.payload = pendingOf ctx ++ payloads ∧
      Fragmented nal payloads fragments ∧ ∀ p ∈ packets, p.payload.length ≤ 1400 := by
  obtain ⟨ctx', fs, step, sent, -⟩ := fragmentNal_pending inside long
  obtain ⟨fragments, shape, small⟩ := fragmented long
  have start : ctx.seq.toNat % 65536 = ctx.seq.toNat % 65536 := rfl
  obtain ⟨packets, parsed, payloads, -⟩ := packetsOf_frames ctx.timestamp ctx.ssrc
    ((if ctx.buf_ptr = 0 then [] else [ctx.buf.bytes.take ctx.buf_ptr]) ++ fragmentsOf nal) start
  have large : ¬ nal.length ≤ RTP_PAYLOAD_MAX := Nat.not_le_of_lt long
  refine ⟨ctx', fs, packets, fragmentsOf nal, fragments, ?_, by rw [sent.frames]; exact parsed, payloads, shape, ?_⟩
  · rw [rtpSendNALH265, if_neg large]
    exact step
  · intro p member
    have among : p.payload ∈ pendingOf ctx ++ fragmentsOf nal := by
      rw [pendingOf, ← payloads]
      exact List.mem_map_of_mem member
    rcases List.mem_append.mp among with pending | fragment
    · unfold pendingOf at pending
      split at pending
      · exact absurd pending List.not_mem_nil
      · rw [List.mem_singleton.mp pending]
        exact Nat.le_trans (List.length_take_le _ _) inside
    · exact small _ fragment

theorem rtpSendNALH265_fragmented_pending :
    let ctx : RTPMuxContext := ⟨.zero _, .zero _, 6, 0, 0, 0, 0, 0⟩
    let nal : Bytes := 0x42 :: 1 :: List.replicate 1400 7
    (6 ≤ RTP_PAYLOAD_MAX ∧ 1400 < nal.length) ∧
      ∃ ctx' fs packets payloads fragments, rtpSendNALH265 ctx nal 1 = some (ctx', fs) ∧
        packetsOf fs = some packets ∧ packets.map Rtp.Packet.payload = pendingOf ctx ++ payloads ∧
        Fragmented nal payloads fragments ∧ ∀ p ∈ packets, p.payload.length ≤ 1400 :=
  have long : 1400 < (0x42 :: 1 :: List.replicate 1400 7 : Bytes).length := by
    rw [List.length_cons, List.length_cons, List.length_replicate]
    decide
  ⟨⟨by decide, long⟩, rtpSendNALH265_fragmented ⟨.zero _, .zero _, 6, 0, 0, 0, 0, 0⟩ _ 1
    (show 6 ≤ RTP_PAYLOAD_MAX by decide) long⟩

end RtspServer
