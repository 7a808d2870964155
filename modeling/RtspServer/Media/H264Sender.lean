import RtspServer.Base.H264
import RtspServer.Media.RtpEnc

/-!
# The H.264 sender of RTPEnc.cpp

`rtpSendData` and `rtpSendNALH264AVC` as RTPEnc.cpp has them: packets go out by
UDP without an interleaved header, and the last one of a unit takes the marker
from `last`.
-/

namespace RtspServer.RTPEnc

/-- The context after sending `buf`, and the datagram given to `udpSend`. -/
def rtpSendData (ctx : RTPMuxContext) (buf : Bytes) (mark : Int) : Option (RTPMuxContext × Bytes) := do
  let len := buf.length
  let cache ← ctx.cache.write 0 (rtpHeader ctx.seq ctx.timestamp ctx.ssrc mark)
  let cache ← cache.write 12 buf
  let datagram ← cache.front (len + 12)
  let cache ← cache.write 0 (List.replicate (RTP_PAYLOAD_MAX + 10) 0)
  return ({ ctx with cache, buf_ptr := 0, seq := (ctx.seq + 1) &&& 0xffff }, datagram)

/-- Send the buffer, if that is due. -/
def flushBuffer (ctx : RTPMuxContext) (due : Bool) (mark : Int) : Option (RTPMuxContext × List Bytes) :=
  if due then do
    let (ctx, d) ← rtpSendData ctx (← ctx.buf.front ctx.buf_ptr) mark
    return (ctx, [d])
  else some (ctx, [])

/-- The STAP-A header: a new one in front of the first unit, and then the highest NRI. -/
def stapHeader (ctx : RTPMuxContext) (buffered_size : Nat) (curNRI : UInt8) : Option RTPMuxContext :=
  if buffered_size = 0 then do
    let buf ← ctx.buf.write ctx.buf_ptr [(24 : UInt8) ||| curNRI]
    return { ctx with buf, buf_ptr := ctx.buf_ptr + 1 }
  else do
    let buf ← ctx.buf.update 0 fun b => if b &&& 0x60 < curNRI then (b &&& (0x9f : UInt8)) ||| curNRI else b
    return { ctx with buf }

/-- The STAP-A branch. A unit that leaves no room in the buffer has it sent first, also when it is empty. -/
def aggregateNal (ctx : RTPMuxContext) (nal : Bytes) (last : Int) : Option (RTPMuxContext × List Bytes) := do
  let size := nal.length
  let buffered_size := ctx.buf_ptr
  let h ← nal[0]?
  let full : Bool := buffered_size + 2 + size > RTP_PAYLOAD_MAX
  let (ctx, flushed) ← flushBuffer ctx full 0
  let ctx ← stapHeader ctx (if full then 0 else buffered_size) (h &&& 0x60)
  let buf ← ctx.buf.update 0 (· ||| (h &&& 0x80))
  let buf ← buf.write ctx.buf_ptr (Rtp.bytes16 (UInt16.ofNat size))
  let buf ← buf.write (ctx.buf_ptr + 2) nal
  let ctx := { ctx with buf, buf_ptr := ctx.buf_ptr + 2 + size }
  let (ctx, sent) ← flushBuffer ctx (last = 1) 1
  return (ctx, flushed ++ sent)

def headerSize : Nat := 2

/-- The fragmentation loop and the final fragment. `nal` is what is left of the unit. -/
def sendFragments (last : Int) : Nat → RTPMuxContext → Bytes → Option (RTPMuxContext × List Bytes)
  | 0, _, _ => none
  | fuel + 1, ctx, nal =>
    if nal.length + headerSize > RTP_PAYLOAD_MAX then do
      let buf ← ctx.buf.write headerSize (nal.take (RTP_PAYLOAD_MAX - headerSize))
      let (ctx, d) ← rtpSendData { ctx with buf } (← buf.front RTP_PAYLOAD_MAX) 0
      let buf ← ctx.buf.update 1 (· &&& 0x7f)
      let (ctx, ds) ← sendFragments last fuel { ctx with buf } (nal.drop (RTP_PAYLOAD_MAX - headerSize))
      return (ctx, d :: ds)
    else do
      let buf ← ctx.buf.update 1 (· ||| 0x40)
      let buf ← buf.write headerSize nal
      let (ctx, d) ← rtpSendData { ctx with buf } (← buf.front (nal.length + headerSize)) last
      return (ctx, [d])

/-- The fragmentation unit branch. -/
def fragmentNal (ctx : RTPMuxContext) (nal : Bytes) (last : Int) : Option (RTPMuxContext × List Bytes) := do
  let (ctx, flushed) ← flushBuffer ctx (ctx.buf_ptr > 0) 0
  let h ← nal[0]?
  let buf ← ctx.buf.write 0 [(28 : UInt8) ||| (h &&& 0x60), (h &&& (0x1f : UInt8)) ||| (1 : UInt8) <<< 7]
  let (ctx, sent) ← sendFragments last nal.length { ctx with buf } (nal.drop 1)
  return (ctx, flushed ++ sent)

def rtpSendNALH264AVC (ctx : RTPMuxContext) (nal : Bytes) (last : Int) : Option (RTPMuxContext × List Bytes) :=
  if nal.length ≤ RTP_PAYLOAD_MAX then
    if ctx.aggregation ≠ 0 then aggregateNal ctx nal last
    else (rtpSendData ctx nal last).map fun (ctx, d) => (ctx, [d])
  else fragmentNal ctx nal last

/-- The loop of both fragmentation branches, behind a header of `header_Size` bytes. The last of them has
the S and E bits. -/
def sendFragmentsBy (header_Size : Nat) (last : Int) : Nat → RTPMuxContext → Bytes → Option (RTPMuxContext × List Bytes)
  | 0, _, _ => none
  | fuel + 1, ctx, nal =>
    if nal.length + header_Size > RTP_PAYLOAD_MAX then do
      let buf ← ctx.buf.write header_Size (nal.take (RTP_PAYLOAD_MAX - header_Size))
      let (ctx, d) ← rtpSendData { ctx with buf } (← buf.front RTP_PAYLOAD_MAX) 0
      let buf ← ctx.buf.update (header_Size - 1) (· &&& 0x7f)
      let (ctx, ds) ← sendFragmentsBy header_Size last fuel { ctx with buf } (nal.drop (RTP_PAYLOAD_MAX - header_Size))
      return (ctx, d :: ds)
    else do
      let buf ← ctx.buf.update (header_Size - 1) (· ||| 0x40)
      let buf ← buf.write header_Size nal
      let (ctx, d) ← rtpSendData { ctx with buf } (← buf.front (nal.length + header_Size)) last
      return (ctx, [d])

theorem sendFragments_eq (last : Int) (fuel : Nat) (ctx : RTPMuxContext) (nal : Bytes) :
    sendFragments last fuel ctx nal = sendFragmentsBy headerSize last fuel ctx nal := by
  induction fuel generalizing ctx nal with
  | zero => rfl
  | succ fuel ih =>
    rw [sendFragments, sendFragmentsBy]
    simp only [ih]
    rfl

/-! ### Runs of sends -/

def datagram (timestamp ssrc seq : UInt32) (out : Bytes × Int) : Bytes :=
  rtpHeader seq timestamp ssrc out.2 ++ out.1

/-- The datagrams of payloads with their marks. -/
def datagrams (timestamp ssrc : UInt32) : UInt32 → List (Bytes × Int) → List Bytes
  | _, [] => []
  | seq, o :: os => datagram timestamp ssrc seq o :: datagrams timestamp ssrc (nextSeq seq) os

theorem datagrams_append (timestamp ssrc seq : UInt32) (xs ys : List (Bytes × Int)) :
    datagrams timestamp ssrc seq (xs ++ ys) =
      datagrams timestamp ssrc seq xs ++ datagrams timestamp ssrc (nextSeq^[xs.length] seq) ys := by
  induction xs generalizing seq with
  | nil => rfl
  | cons x xs ih => rw [List.cons_append, datagrams, ih, datagrams]; rfl

/-- `ctx'` is `ctx` after the payloads of `out` went out as `ds`. -/
structure Emitted (ctx ctx' : RTPMuxContext) (out : List (Bytes × Int)) (ds : List Bytes) : Prop where
  datagrams : ds = datagrams ctx.timestamp ctx.ssrc ctx.seq out
  seq : ctx'.seq = nextSeq^[out.length] ctx.seq
  timestamp : ctx'.timestamp = ctx.timestamp
  ssrc : ctx'.ssrc = ctx.ssrc
  aggregation : ctx'.aggregation = ctx.aggregation

theorem Emitted.refl (ctx : RTPMuxContext) : Emitted ctx ctx [] [] := ⟨rfl, rfl, rfl, rfl, rfl⟩

theorem Emitted.append {a b c : RTPMuxContext} {xs ys : List (Bytes × Int)} {ds es : List Bytes}
    (first : Emitted a b xs ds) (second : Emitted b c ys es) : Emitted a c (xs ++ ys) (ds ++ es) where
  datagrams := by rw [datagrams_append, first.datagrams, second.datagrams, first.timestamp, first.ssrc, first.seq]
  seq := by rw [second.seq, first.seq, ← Function.iterate_add_apply, List.length_append, Nat.add_comm]
  timestamp := second.timestamp.trans first.timestamp
  ssrc := second.ssrc.trans first.ssrc
  aggregation := second.aggregation.trans first.aggregation

theorem rtpSendData_emitted (ctx : RTPMuxContext) {payload : Bytes} (mark : Int) (fits : payload.length ≤ RTP_PAYLOAD_MAX) :
    ∃ ctx' d, rtpSendData ctx payload mark = some (ctx', d) ∧ Emitted ctx ctx' [(payload, mark)] [d] ∧
      ctx'.buf = ctx.buf ∧ ctx'.buf_ptr = 0 := by
  unfold RTP_PAYLOAD_MAX at fits
  let header := rtpHeader ctx.seq ctx.timestamp ctx.ssrc mark
  have twelve : header.length = 12 := rfl
  obtain ⟨c1, write1, -⟩ := ctx.cache.write_ok
    (show 0 + header.length ≤ RTP_PAYLOAD_MAX + 12 + 4 by rw [twelve]; decide)
  obtain ⟨c2, write2, -⟩ := c1.write_ok
    (show 12 + payload.length ≤ RTP_PAYLOAD_MAX + 12 + 4 by unfold RTP_PAYLOAD_MAX; omega)
  obtain ⟨c3, write3, -⟩ := c2.write_ok
    (show 0 + (List.replicate (RTP_PAYLOAD_MAX + 10) (0 : UInt8)).length ≤ RTP_PAYLOAD_MAX + 12 + 4 by
      rw [List.length_replicate]; decide)
  have front1 : c1.bytes.take 12 = header := Buffer.take_write rfl write1
  have front2 : c2.bytes.take (12 + payload.length) = header ++ payload := Buffer.take_write front1 write2
  have sent := c2.front_ok (show 12 + payload.length ≤ RTP_PAYLOAD_MAX + 12 + 4 by unfold RTP_PAYLOAD_MAX; omega)
  rw [front2] at sent
  refine ⟨{ ctx with cache := c3, buf_ptr := 0, seq := nextSeq ctx.seq }, header ++ payload, ?_,
    ⟨rfl, rfl, rfl, rfl, rfl⟩, rfl, rfl⟩
  unfold rtpSendData
  simp only [write1, write2, write3, Nat.add_comm payload.length 12, sent, Option.bind_eq_bind, Option.bind_some,
    Option.pure_def, header, nextSeq]

/-! ### The fragmentation loop -/

/-- The payloads of a unit with their marks: only the last one has the mark `last`. -/
def marked (last : Int) : List Bytes → List (Bytes × Int)
  | [] => []
  | [p] => [(p, last)]
  | p :: q :: ps => (p, 0) :: marked last (q :: ps)

theorem marked_cons (last : Int) (p : Bytes) {ps : List Bytes} (more : ps ≠ []) :
    marked last (p :: ps) = (p, 0) :: marked last ps := by
  cases ps with
  | nil => exact absurd rfl more
  | cons q ps => rfl

/-- Fragments behind a header whose last byte is `c`. Its S bit stands in the first one only, and its E bit in the last. -/
def fuPieces (front : Bytes) (c : UInt8) : List Bytes → List Bytes
  | [] => []
  | [f] => [front ++ (c ||| 0x40) :: f]
  | f :: g :: fs => (front ++ c :: f) :: fuPieces front (c &&& 0x7f) (g :: fs)

theorem fuPieces_ne_nil (front : Bytes) (c : UInt8) {fs : List Bytes} (some : fs ≠ []) : fuPieces front c fs ≠ [] := by
  cases fs with
  | nil => exact absurd rfl some
  | cons f fs => cases fs <;> exact List.cons_ne_nil _ _

theorem fuPieces_cons (front : Bytes) (c : UInt8) (f : Bytes) {fs : List Bytes} (some : fs ≠ []) :
    fuPieces front c (f :: fs) = (front ++ c :: f) :: fuPieces front (c &&& 0x7f) fs := by
  cases fs with
  | nil => exact absurd rfl some
  | cons g fs => rfl

theorem fuRest_eq (h : UInt8) (fs : List Bytes) :
    H264.fuRest h fs = fuPieces [H264.indicator h] (H264.typeField h) fs := by
  obtain ⟨-, -, -, -, -, -, -, clear, -⟩ := H264.typeField_bits h
  induction fs with
  | nil => rfl
  | cons f fs ih =>
    cases fs with
    | nil => rfl
    | cons g fs => rw [H264.fuRest, ih, fuPieces, clear]; rfl

theorem fuPayloads_eq (h : UInt8) (f : Bytes) {fs : List Bytes} (some : fs ≠ []) :
    H264.fuPayloads h f fs = fuPieces [H264.indicator h] (H264.typeField h ||| 0x80) (f :: fs) := by
  obtain ⟨-, -, -, -, -, -, clear, -⟩ := H264.typeField_bits h
  rw [fuPieces_cons _ _ _ some, clear, H264.fuPayloads, fuRest_eq]
  rfl

section

variable {ctx : RTPMuxContext} {front : Bytes} {c : UInt8} {n : Nat} (last : Int)

theorem header_split (header : ctx.buf.bytes.take (n + 1) = front ++ [c]) :
    ctx.buf.bytes = front ++ c :: ctx.buf.bytes.drop (n + 1) := by
  calc ctx.buf.bytes
      = front ++ [c] ++ ctx.buf.bytes.drop (n + 1) := by rw [← header, List.take_append_drop]
    _ = front ++ c :: ctx.buf.bytes.drop (n + 1) := by rw [List.append_assoc]; rfl

theorem sendFragmentsBy_long (fuel : Nat) (nal : Bytes) (length : front.length = n) (header : ctx.buf.bytes.take (n + 1) = front ++ [c])
    (long : RTP_PAYLOAD_MAX < nal.length + (n + 1)) (room : n + 1 ≤ RTP_PAYLOAD_MAX) :
    ∃ ctx' d, sendFragmentsBy (n + 1) last (fuel + 1) ctx nal =
        (sendFragmentsBy (n + 1) last fuel ctx' (nal.drop (RTP_PAYLOAD_MAX - (n + 1)))).map (fun r => (r.1, d :: r.2)) ∧
      Emitted ctx ctx' [(front ++ c :: nal.take (RTP_PAYLOAD_MAX - (n + 1)), 0)] [d] ∧
      ctx'.buf.bytes.take (n + 1) = front ++ [c &&& 0x7f] := by
  have whole : n + 1 + (nal.take (RTP_PAYLOAD_MAX - (n + 1))).length = RTP_PAYLOAD_MAX := by
    rw [List.length_take]
    omega
  obtain ⟨buf, write, -⟩ := ctx.buf.write_ok (Nat.le_of_eq whole)
  have sent : buf.bytes.take RTP_PAYLOAD_MAX = front ++ c :: nal.take (RTP_PAYLOAD_MAX - (n + 1)) := by
    have filled := Buffer.take_write header write
    rw [whole, List.append_assoc] at filled
    exact filled
  have taken : buf.front RTP_PAYLOAD_MAX = some (front ++ c :: nal.take (RTP_PAYLOAD_MAX - (n + 1))) := by
    rw [buf.front_ok (Nat.le_refl _), sent]
  have kept : buf.bytes.take (n + 1) = front ++ [c] := by
    rw [Buffer.take_write_of_le (Nat.le_refl _) write, header]
  obtain ⟨ctx1, d, send, emitted, same, -⟩ := rtpSendData_emitted { ctx with buf } 0
    (show (front ++ c :: nal.take (RTP_PAYLOAD_MAX - (n + 1))).length ≤ RTP_PAYLOAD_MAX by
      rw [← sent]
      exact List.length_take_le _ _)
  obtain ⟨buf', updated, bytes'⟩ := Buffer.update_ok (· &&& 0x7f)
    (header_split (show ctx1.buf.bytes.take (n + 1) = front ++ [c] by rw [same]; exact kept))
  rw [length] at updated
  refine ⟨{ ctx1 with buf := buf' }, d, ?_,
    ⟨emitted.datagrams, emitted.seq, emitted.timestamp, emitted.ssrc, emitted.aggregation⟩, ?_⟩
  · rw [sendFragmentsBy, if_pos long, write]
    simp only [Option.bind_eq_bind, Option.bind_some, taken, send, Nat.add_sub_cancel, updated]
    cases sendFragmentsBy (n + 1) last fuel { ctx1 with buf := buf' } (nal.drop (RTP_PAYLOAD_MAX - (n + 1))) <;> rfl
  · show buf'.bytes.take (n + 1) = _
    rw [bytes', ← length, List.take_length_add_append]
    rfl

theorem sendFragmentsBy_short (fuel : Nat) (nal : Bytes) (length : front.length = n) (header : ctx.buf.bytes.take (n + 1) = front ++ [c])
    (short : nal.length + (n + 1) ≤ RTP_PAYLOAD_MAX) :
    ∃ ctx' d, sendFragmentsBy (n + 1) last (fuel + 1) ctx nal = some (ctx', [d]) ∧
      Emitted ctx ctx' [(front ++ (c ||| 0x40) :: nal, last)] [d] ∧ ctx'.buf_ptr = 0 := by
  obtain ⟨buf, updated, bytes⟩ := Buffer.update_ok (· ||| 0x40) (header_split header)
  rw [length] at updated
  have fits : n + 1 + nal.length ≤ RTP_PAYLOAD_MAX := by omega
  have ended : buf.bytes.take (n + 1) = front ++ [c ||| 0x40] := by
    rw [bytes, ← length, List.take_length_add_append]
    rfl
  obtain ⟨buf', write, -⟩ := buf.write_ok fits
  have sent : buf'.bytes.take (n + 1 + nal.length) = front ++ (c ||| 0x40) :: nal := by
    have filled := Buffer.take_write ended write
    rw [List.append_assoc] at filled
    exact filled
  have taken : buf'.front (nal.length + (n + 1)) = some (front ++ (c ||| 0x40) :: nal) := by
    rw [Nat.add_comm, buf'.front_ok fits, sent]
  obtain ⟨ctx', d, send, emitted, -, reset⟩ := rtpSendData_emitted { ctx with buf := buf' } last
    (show (front ++ (c ||| 0x40) :: nal).length ≤ RTP_PAYLOAD_MAX by
      rw [← sent]
      exact Nat.le_trans (List.length_take_le _ _) fits)
  refine ⟨ctx', d, ?_, ⟨emitted.datagrams, emitted.seq, emitted.timestamp, emitted.ssrc, emitted.aggregation⟩, reset⟩
  rw [sendFragmentsBy, if_neg (Nat.not_lt.mpr short), Nat.add_sub_cancel, updated]
  simp only [Option.bind_eq_bind, Option.bind_some, write, taken, send, Option.pure_def]

theorem sendFragmentsBy_emitted {fuel : Nat} {nal : Bytes} (length : front.length = n)
    (header : ctx.buf.bytes.take (n + 1) = front ++ [c]) (room : n + 1 < RTP_PAYLOAD_MAX) (enough : nal.length ≤ fuel) :
    ∃ ctx' ds, sendFragmentsBy (n + 1) last (fuel + 1) ctx nal = some (ctx', ds) ∧
      Emitted ctx ctx' (marked last (fuPieces front c (Hevc.cut (RTP_PAYLOAD_MAX - (n + 1)) fuel nal))) ds ∧
      ctx'.buf_ptr = 0 := by
  induction fuel generalizing ctx nal c with
  | zero =>
    obtain ⟨ctx', d, send, sent, reset⟩ := sendFragmentsBy_short last 0 nal length header (by omega)
    exact ⟨ctx', [d], send, sent, reset⟩
  | succ fuel ih =>
    rw [Hevc.cut]
    by_cases long : RTP_PAYLOAD_MAX - (n + 1) < nal.length
    · obtain ⟨ctx1, d, step, sent, header'⟩ :=
        sendFragmentsBy_long last (fuel + 1) nal length header (by omega) (by omega)
      obtain ⟨ctx', ds, rest, sent', reset⟩ := ih header'
        (show (nal.drop (RTP_PAYLOAD_MAX - (n + 1))).length ≤ fuel by rw [List.length_drop]; omega)
      refine ⟨ctx', d :: ds, by rw [step, rest]; rfl, ?_, reset⟩
      have more := Hevc.cut_ne_nil (RTP_PAYLOAD_MAX - (n + 1)) fuel (nal.drop (RTP_PAYLOAD_MAX - (n + 1)))
      rw [if_pos long, fuPieces_cons _ _ _ more, marked_cons last _ (fuPieces_ne_nil _ _ more)]
      exact sent.append sent'
    · obtain ⟨ctx', d, send, sent, reset⟩ := sendFragmentsBy_short last (fuel + 1) nal length header (by omega)
      rw [if_neg long]
      exact ⟨ctx', [d], send, sent, reset⟩

/-- The header goes to the front of the buffer, and the fragments out behind it. -/
theorem header_sendFragmentsBy {fuel : Nat} {nal : Bytes} (ctx : RTPMuxContext) (c : UInt8) (length : front.length = n)
    (room : n + 1 < RTP_PAYLOAD_MAX) (enough : nal.length ≤ fuel) :
    ∃ buf ctx' ds, ctx.buf.write 0 (front ++ [c]) = some buf ∧
      sendFragmentsBy (n + 1) last (fuel + 1) { ctx with buf } nal = some (ctx', ds) ∧
      Emitted ctx ctx' (marked last (fuPieces front c (Hevc.cut (RTP_PAYLOAD_MAX - (n + 1)) fuel nal))) ds ∧
      ctx'.buf_ptr = 0 := by
  have size : (front ++ [c]).length = n + 1 := by
    rw [List.length_append, length]
    rfl
  obtain ⟨buf, write, -⟩ := ctx.buf.write_ok (show 0 + (front ++ [c]).length ≤ RTP_PAYLOAD_MAX by omega)
  have header : buf.bytes.take (n + 1) = front ++ [c] := by
    have filled : buf.bytes.take (0 + (front ++ [c]).length) = [] ++ (front ++ [c]) := Buffer.take_write rfl write
    rwa [size, Nat.zero_add] at filled
  obtain ⟨ctx', ds, sends, emitted, reset⟩ :=
    sendFragmentsBy_emitted last length (show ({ ctx with buf } : RTPMuxContext).buf.bytes.take (n + 1) = _ from header) room enough
  exact ⟨buf, ctx', ds, write, sends,
    ⟨emitted.datagrams, emitted.seq, emitted.timestamp, emitted.ssrc, emitted.aggregation⟩, reset⟩

theorem flushBuffer_emitted {ctx : RTPMuxContext} (inside : ctx.buf_ptr ≤ RTP_PAYLOAD_MAX) (due : Bool) (mark : Int) :
    ∃ ctx' ds, flushBuffer ctx due mark = some (ctx', ds) ∧
      Emitted ctx ctx' (if due then [(ctx.buf.bytes.take ctx.buf_ptr, mark)] else []) ds ∧
      (if due then ctx'.buf_ptr = 0 else ctx' = ctx) := by
  cases due with
  | false => exact ⟨ctx, [], rfl, Emitted.refl ctx, rfl⟩
  | true =>
    obtain ⟨ctx', d, send, emitted, -, reset⟩ := rtpSendData_emitted ctx mark
      (Nat.le_trans (List.length_take_le ctx.buf_ptr ctx.buf.bytes) inside)
    refine ⟨ctx', [d], ?_, emitted, reset⟩
    rw [flushBuffer, if_pos rfl, ctx.buf.front_ok inside]
    simp only [send, Option.bind_eq_bind, Option.bind_some, Option.pure_def]

end

/-- What the buffer holds, if anything. -/
def buffered (ctx : RTPMuxContext) : List (Bytes × Int) :=
  if ctx.buf_ptr = 0 then [] else [(ctx.buf.bytes.take ctx.buf_ptr, 0)]

theorem flushBuffer_buffered {ctx : RTPMuxContext} (inside : ctx.buf_ptr ≤ RTP_PAYLOAD_MAX) :
    ∃ ctx' ds, flushBuffer ctx (ctx.buf_ptr > 0) 0 = some (ctx', ds) ∧ Emitted ctx ctx' (buffered ctx) ds := by
  obtain ⟨ctx', ds, flush, emitted, -⟩ := flushBuffer_emitted inside (decide (ctx.buf_ptr > 0)) 0
  refine ⟨ctx', ds, flush, ?_⟩
  unfold buffered
  by_cases empty : ctx.buf_ptr = 0
  · rw [if_neg (by simp [empty])] at emitted
    rwa [if_pos empty]
  · rw [if_pos (by simpa using Nat.pos_of_ne_zero empty)] at emitted
    rwa [if_neg empty]

/-! ### A call without aggregation -/

/-- The payloads a unit goes out in. -/
def payloadsOf (nal : Bytes) : List Bytes :=
  if nal.length ≤ RTP_PAYLOAD_MAX then [nal]
  else match nal with
    | h :: data => H264.fuPayloads h (data.take 1398) (Hevc.cut 1398 (data.length - 1) (data.drop 1398))
    | [] => []

/-- What waits in the buffer, if anything, and then the fragments of the unit. -/
theorem fragmentNal_emitted {ctx : RTPMuxContext} {nal : Bytes} (inside : ctx.buf_ptr ≤ RTP_PAYLOAD_MAX)
    (long : RTP_PAYLOAD_MAX < nal.length) (last : Int) :
    ∃ ctx' ds, fragmentNal ctx nal last = some (ctx', ds) ∧
      Emitted ctx ctx' (buffered ctx ++ marked last (payloadsOf nal)) ds ∧ ctx'.buf_ptr = 0 := by
  unfold payloadsOf
  rw [if_neg (Nat.not_le_of_lt long)]
  cases nal with
  | nil => cases long
  | cons h data =>
    unfold RTP_PAYLOAD_MAX at long
    rw [List.length_cons] at long
    obtain ⟨ctx1, ds1, flush, emitted1⟩ := flushBuffer_buffered inside
    obtain ⟨buf, ctx2, ds2, write, sends, emitted2, reset⟩ :=
      header_sendFragmentsBy last ctx1 (H264.typeField h ||| (1 : UInt8) <<< 7) (show [H264.indicator h].length = 1 from rfl)
        (by decide) (Nat.le_refl data.length)
    refine ⟨ctx2, ds1 ++ ds2, ?_, ?_, reset⟩
    · have write' : ctx1.buf.write 0 [(28 : UInt8) ||| (h &&& 0x60), (h &&& (0x1f : UInt8)) ||| (1 : UInt8) <<< 7] =
          some buf := write
      have start : headerSize = 1 + 1 := rfl
      unfold fragmentNal
      simp only [flush, sendFragments_eq, start, Option.bind_eq_bind, Option.bind_some, List.getElem?_cons_zero, write',
        List.length_cons, List.drop_succ_cons, List.drop_zero, sends, Option.pure_def]
    · have pieces : Hevc.cut (RTP_PAYLOAD_MAX - (1 + 1)) data.length data =
          data.take 1398 :: Hevc.cut 1398 (data.length - 1) (data.drop 1398) := by
        obtain ⟨m, same⟩ := Nat.exists_eq_add_of_lt (show 0 < data.length by omega)
        rw [same, Hevc.cut, if_pos (by unfold RTP_PAYLOAD_MAX; omega)]
        rfl
      dsimp only
      rw [fuPayloads_eq h _ (Hevc.cut_ne_nil _ _ _), ← pieces]
      exact emitted1.append emitted2

theorem rtpSendNALH264AVC_emitted {ctx : RTPMuxContext} (single : ctx.aggregation = 0) (empty : ctx.buf_ptr = 0)
    (nal : Bytes) (last : Int) :
    ∃ ctx' ds, rtpSendNALH264AVC ctx nal last = some (ctx', ds) ∧
      Emitted ctx ctx' (marked last (payloadsOf nal)) ds ∧ ctx'.buf_ptr = 0 := by
  unfold rtpSendNALH264AVC
  by_cases small : nal.length ≤ RTP_PAYLOAD_MAX
  · have whole : payloadsOf nal = [nal] := if_pos small
    rw [if_pos small, whole, if_neg (not_not.mpr single)]
    obtain ⟨ctx', d, send, sent, -, reset⟩ := rtpSendData_emitted ctx last small
    exact ⟨ctx', [d], by rw [send]; rfl, sent, reset⟩
  · rw [if_neg small]
    have emitted := fragmentNal_emitted (show ctx.buf_ptr ≤ RTP_PAYLOAD_MAX by omega) (Nat.lt_of_not_le small) last
    rwa [buffered, if_pos empty] at emitted

end RtspServer.RTPEnc
