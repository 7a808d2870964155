import RtspServer.Media.NalSender
import RtspServer.Media.StapBuffer

/-!
# The H.265 sender of RTPEnc.cpp

The static `rtpSendNALH265`. It aggregates as the H.264 sender does, behind the
header of a STAP-A, and fragments as `CStreamer` does.
-/

namespace RtspServer.RTPEnc

/-- The fragmentation unit branch. -/
def fragmentNalH265 (ctx : RTPMuxContext) (nal : Bytes) (last : Int) : Option (RTPMuxContext × List Bytes) := do
  let (ctx, flushed) ← flushBuffer ctx (ctx.buf_ptr > 0) 0
  let h0 ← nal[0]?
  let nalu_type := (h0 >>> 1) &&& 0x3f
  let buf ← ctx.buf.write 0 [(49 : UInt8) <<< 1, 1, nalu_type ||| (1 : UInt8) <<< 7]
  let (ctx, sent) ← sendFragmentsBy header_Size last nal.length { ctx with buf } (nal.drop 2)
  return (ctx, flushed ++ sent)

/-- The test for room adds two bytes for the size of the unit and two for its header. -/
def rtpSendNALH265 (ctx : RTPMuxContext) (nal : Bytes) (last : Int) : Option (RTPMuxContext × List Bytes) :=
  if nal.length ≤ RTP_PAYLOAD_MAX then
    if ctx.aggregation ≠ 0 then aggregateBy (2 + 2) ctx nal last
    else (rtpSendData ctx nal last).map fun (ctx, d) => (ctx, [d])
  else fragmentNalH265 ctx nal last

theorem fuRest_eq_fuPieces {type : UInt8} (clear : type &&& 0x7f = type) (fs : List Bytes) :
    Hevc.fuRest type fs = fuPieces [98, 1] type fs := by
  induction fs with
  | nil => rfl
  | cons f fs ih =>
    cases fs with
    | nil => rfl
    | cons g fs => rw [Hevc.fuRest, ih, fuPieces, clear]; rfl

theorem fragmentNalH265_emitted {ctx : RTPMuxContext} {nal : Bytes} (inside : ctx.buf_ptr ≤ RTP_PAYLOAD_MAX)
    (long : RTP_PAYLOAD_MAX < nal.length) (last : Int) :
    ∃ ctx' ds, fragmentNalH265 ctx nal last = some (ctx', ds) ∧
      Emitted ctx ctx' (buffered ctx ++ marked last (fragmentsOf nal)) ds ∧ ctx'.buf_ptr = 0 := by
  unfold RTP_PAYLOAD_MAX at long
  obtain ⟨h0, rest, rfl⟩ := List.exists_cons_of_length_pos (show 0 < nal.length by omega)
  rw [List.length_cons] at long
  obtain ⟨h1, data, rfl⟩ := List.exists_cons_of_length_pos (show 0 < rest.length by omega)
  rw [List.length_cons] at long
  obtain ⟨ctx1, ds1, flush, emitted1⟩ := flushBuffer_buffered inside
  obtain ⟨buf, ctx2, ds2, write, sends, emitted2, reset⟩ :=
    header_sendFragmentsBy last ctx1 (Hevc.typeField h0 ||| (1 : UInt8) <<< 7) (show ([98, 1] : Bytes).length = 2 from rfl)
      (by decide) (Nat.le_succ data.length)
  refine ⟨ctx2, ds1 ++ ds2, ?_, ?_, reset⟩
  · have write' : ctx1.buf.write 0 [(49 : UInt8) <<< 1, 1, ((h0 >>> 1) &&& (0x3f : UInt8)) ||| (1 : UInt8) <<< 7] =
        some buf := write
    have start : header_Size = 2 + 1 := rfl
    unfold fragmentNalH265
    simp only [flush, start, Option.bind_eq_bind, Option.bind_some, List.getElem?_cons_zero, write',
      List.length_cons, List.drop_succ_cons, List.drop_zero, sends, Option.pure_def]
  · obtain ⟨-, -, -, -, -, -, clear, clear', -⟩ := Hevc.typeField_bits h0
    have pieces : fuPieces [98, 1] (Hevc.typeField h0 ||| (1 : UInt8) <<< 7)
        (Hevc.cut (RTP_PAYLOAD_MAX - (2 + 1)) (data.length + 1) data) = fragmentsOf (h0 :: h1 :: data) := by
      rw [Hevc.cut, if_pos (by unfold RTP_PAYLOAD_MAX; omega), fuPieces_cons _ _ _ (Hevc.cut_ne_nil _ _ _)]
      show _ :: fuPieces [98, 1] ((Hevc.typeField h0 ||| 0x80) &&& 0x7f) _ = _ :: Hevc.fuRest _ _
      rw [clear, fuRest_eq_fuPieces clear']
      rfl
    rw [← pieces]
    exact emitted1.append emitted2

theorem rtpSendNALH265_sends : Sends rtpSendNALH265 4 fragmentsOf :=
  Branches.sends
    { branches := fun _ _ _ => rfl
      fragmented := fun last inside long => fragmentNalH265_emitted inside long last }

end RtspServer.RTPEnc
