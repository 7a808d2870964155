import RtspServer.Base.Hevc
import RtspServer.Media.RtpEnc

/-!
# Sending one unit

`CStreamer::rtpSendNALH265`, and the payloads it sends as a function of the
unit and of the units waiting in the aggregation buffer.
-/

namespace RtspServer

def header_Size : Nat := 3

/-- The fragmentation loop and the final fragment. `nal` is what is left of the
unit. -/
def sendFragments : Nat → RTPMuxContext → Bytes → Option (RTPMuxContext × List Bytes)
  | 0, _, _ => none
  | fuel + 1, ctx, nal =>
    if nal.length + header_Size > RTP_PAYLOAD_MAX then do
      let buf ← ctx.buf.write header_Size (nal.take (RTP_PAYLOAD_MAX - header_Size))
      let (ctx, f) ← rtpSendData { ctx with buf } (← buf.front RTP_PAYLOAD_MAX) 0
      let buf ← ctx.buf.update 2 (· &&& 0x7f)
      let (ctx, fs) ← sendFragments fuel { ctx with buf } (nal.drop (RTP_PAYLOAD_MAX - header_Size))
      return (ctx, f :: fs)
    else do
      let buf ← ctx.buf.update 2 (· ||| 0x40)
      let buf ← buf.write header_Size nal
      let (ctx, f) ← rtpSendData { ctx with buf } (← buf.front (nal.length + header_Size)) 0
      return (ctx, [f])

/-- Send what the buffer holds, if that is due. -/
def flushBuffer (ctx : RTPMuxContext) (due : Bool) : Option (RTPMuxContext × List Bytes) :=
  if due then do
    let (ctx, f) ← rtpSendData ctx (← ctx.buf.front ctx.buf_ptr) 0
    return (ctx, [f])
  else some (ctx, [])

/-- The first unit in the buffer is preceded by the header of an aggregation packet. -/
def firstEntry (ctx : RTPMuxContext) (buffered_size : Nat) : Option RTPMuxContext :=
  if buffered_size = 0 then do
    let buf ← ctx.buf.write 0 [(48 : UInt8) <<< 1, 1]
    return { ctx with buf, buf_ptr := ctx.buf_ptr + 2 }
  else some ctx

/-- The aggregation packet branch. -/
def aggregateNal (ctx : RTPMuxContext) (nal : Bytes) (last : Int) : Option (RTPMuxContext × List Bytes) := do
  let size := nal.length
  let buffered_size := ctx.buf_ptr
  let full : Bool := buffered_size ≠ 0 ∧ buffered_size + 2 + size > RTP_PAYLOAD_MAX
  let (ctx, flushed) ← flushBuffer ctx full
  let ctx ← firstEntry ctx (if full then 0 else buffered_size)
  let buf ← ctx.buf.write ctx.buf_ptr (Rtp.bytes16 (UInt16.ofNat size))
  let buf ← buf.write (ctx.buf_ptr + 2) nal
  let ctx := { ctx with buf, buf_ptr := ctx.buf_ptr + 2 + size }
  let (ctx, sent) ← flushBuffer ctx (last = 1)
  return (ctx, flushed ++ sent)

/-- The fragmentation unit branch. -/
def fragmentNal (ctx : RTPMuxContext) (nal : Bytes) : Option (RTPMuxContext × List Bytes) := do
  let (ctx, flushed) ← flushBuffer ctx (ctx.buf_ptr > 0)
  let h0 ← nal[0]?
  let nalu_type := (h0 >>> 1) &&& 0x3f
  let buf ← ctx.buf.write 0 [(49 : UInt8) <<< 1, 1, nalu_type ||| (1 : UInt8) <<< 7]
  let (ctx, sent) ← sendFragments nal.length { ctx with buf } (nal.drop 2)
  return (ctx, flushed ++ sent)

/-- The context afterwards and the frames sent. A single unit is sent without a
look at the buffer, and the send forgets what that holds. -/
def rtpSendNALH265 (ctx : RTPMuxContext) (nal : Bytes) (last : Int) :
    Option (RTPMuxContext × List Bytes) :=
  let size := nal.length
  if size ≤ RTP_PAYLOAD_MAX then
    if ctx.aggregation ≠ 0 ∧ size + 4 ≤ RTP_PAYLOAD_MAX then aggregateNal ctx nal last
    else (rtpSendData ctx nal 0).map fun (ctx, f) => (ctx, [f])
  else fragmentNal ctx nal

/-! ### The payloads of a call -/

/-- The aggregation packet of the waiting units; none when no unit waits. -/
def apOf (waiting : List Bytes) : Bytes := if waiting = [] then [] else Hevc.apPayload waiting

/-- What a unit of more than `RTP_PAYLOAD_MAX` bytes is sent as. -/
def fragmentsOf : Bytes → List Bytes
  | h0 :: _ :: data =>
    Hevc.fuPayloads (Hevc.typeField h0) (data.take 1397) (Hevc.cut 1397 data.length (data.drop 1397))
  | _ => []

theorem fragmentsOf_ne_nil {nal : Bytes} (long : 1400 < nal.length) : fragmentsOf nal ≠ [] := by
  match nal, long with
  | h0 :: h1 :: data, _ => exact List.cons_ne_nil _ _

/-- The payloads of one call, and the units that wait afterwards. -/
def nalPayloads (aggregation : Int) (waiting : List Bytes) (nal : Bytes) (last : Int) :
    List Bytes × List Bytes :=
  if nal.length ≤ RTP_PAYLOAD_MAX then
    if aggregation ≠ 0 ∧ nal.length + 4 ≤ RTP_PAYLOAD_MAX then
      let full := waiting ≠ [] ∧ (apOf waiting).length + 2 + nal.length > RTP_PAYLOAD_MAX
      let flushed := if full then [apOf waiting] else []
      let waiting := (if full then [] else waiting) ++ [nal]
      if last = 1 then (flushed ++ [apOf waiting], []) else (flushed, waiting)
    else ([nal], [])
  else ((if waiting = [] then [] else [apOf waiting]) ++ fragmentsOf nal, [])

/-- The buffer holds the aggregation packet of the waiting units. -/
structure Waiting (ctx : RTPMuxContext) (waiting : List Bytes) : Prop where
  length : ctx.buf_ptr = (apOf waiting).length
  bytes : ctx.buf.bytes.take ctx.buf_ptr = apOf waiting
  fits : ctx.buf_ptr ≤ RTP_PAYLOAD_MAX

theorem apOf_length_pos {waiting : List Bytes} (some : waiting ≠ []) : 2 ≤ (apOf waiting).length := by
  rw [apOf, if_neg some, Hevc.apPayload, List.length_append, List.length_cons, List.length_singleton]
  omega

theorem Waiting.empty_iff {ctx : RTPMuxContext} {waiting : List Bytes} (h : Waiting ctx waiting) :
    ctx.buf_ptr = 0 ↔ waiting = [] := by
  constructor
  · intro zero
    by_contra some
    have := apOf_length_pos some
    have := h.length
    omega
  · rintro rfl
    exact h.length

theorem waiting_nil {ctx : RTPMuxContext} (h : ctx.buf_ptr = 0) : Waiting ctx [] :=
  ⟨h, by rw [h]; rfl, by omega⟩

theorem apOf_append (waiting : List Bytes) (nal : Bytes) :
    apOf (waiting ++ [nal]) = (if waiting = [] then [96, 1] else apOf waiting) ++
      (Rtp.bytes16 (UInt16.ofNat nal.length) ++ nal) := by
  rw [apOf, if_neg (by simp), Hevc.apPayload, Hevc.apBody_append, Hevc.apBody_one]
  split
  · rename_i none
    rw [none]
    rfl
  · rename_i some
    rw [apOf, if_neg some, Hevc.apPayload, List.append_assoc]

/-- What waits in the buffer goes out as one packet. -/
theorem flushBuffer_pending {ctx : RTPMuxContext} (inside : ctx.buf_ptr ≤ RTP_PAYLOAD_MAX) (due : Bool) :
    ∃ ctx' fs, flushBuffer ctx due = some (ctx', fs) ∧
      Sent ctx ctx' (if due then [ctx.buf.bytes.take ctx.buf_ptr] else []) fs ∧
      (if due then ctx'.buf_ptr = 0 else ctx' = ctx) := by
  cases due with
  | false => exact ⟨ctx, [], rfl, Sent.refl ctx, rfl⟩
  | true =>
    have front := ctx.buf.front_ok inside
    obtain ⟨ctx', f, send, sent, -, reset⟩ := rtpSendData_sent ctx
      (show (ctx.buf.bytes.take ctx.buf_ptr).length ≤ RTP_PAYLOAD_MAX from
        Nat.le_trans (List.length_take_le _ _) inside)
    refine ⟨ctx', [f], ?_, sent, reset⟩
    rw [flushBuffer, if_pos rfl, front]
    simp only [send, Option.bind_eq_bind, Option.bind_some, Option.pure_def]

theorem flushBuffer_sent {ctx : RTPMuxContext} {waiting : List Bytes} (h : Waiting ctx waiting) (due : Bool) :
    ∃ ctx' fs, flushBuffer ctx due = some (ctx', fs) ∧
      Sent ctx ctx' (if due then [apOf waiting] else []) fs ∧
      Waiting ctx' (if due then [] else waiting) := by
  obtain ⟨ctx', fs, flush, sent, after⟩ := flushBuffer_pending h.fits due
  rw [h.bytes] at sent
  refine ⟨ctx', fs, flush, sent, ?_⟩
  cases due with
  | false => rw [after]; exact h
  | true => exact waiting_nil after

theorem firstEntry_front {ctx : RTPMuxContext} {waiting : List Bytes} (h : Waiting ctx waiting) :
    ∃ ctx', firstEntry ctx ctx.buf_ptr = some ctx' ∧ Sent ctx ctx' [] [] ∧
      ctx'.buf.bytes.take ctx'.buf_ptr = (if waiting = [] then [96, 1] else apOf waiting) ∧
      ctx'.buf_ptr = (if waiting = [] then 2 else ctx.buf_ptr) := by
  by_cases empty : ctx.buf_ptr = 0
  · obtain ⟨buf, write, -⟩ := ctx.buf.write_ok
      (show 0 + ([(48 : UInt8) <<< 1, 1] : Bytes).length ≤ RTP_PAYLOAD_MAX by decide)
    have front : buf.bytes.take 2 = [96, 1] := Buffer.take_write rfl write
    refine ⟨{ ctx with buf, buf_ptr := ctx.buf_ptr + 2 }, ?_, ⟨rfl, rfl, rfl, rfl, rfl⟩, ?_, ?_⟩
    · rw [firstEntry, if_pos empty, write]; rfl
    · rw [if_pos (h.empty_iff.mp empty), empty]; exact front
    · rw [if_pos (h.empty_iff.mp empty), empty]
  · have some : waiting ≠ [] := fun none => empty (h.empty_iff.mpr none)
    refine ⟨ctx, if_neg empty, Sent.refl ctx, ?_, ?_⟩
    · rw [if_neg some]; exact h.bytes
    · rw [if_neg some]

theorem append_waiting {ctx : RTPMuxContext} {waiting : List Bytes} {nal front : Bytes}
    (known : ctx.buf.bytes.take ctx.buf_ptr = front) (length : ctx.buf_ptr = front.length)
    (due : front = if waiting = [] then [96, 1] else apOf waiting)
    (room : ctx.buf_ptr + 2 + nal.length ≤ RTP_PAYLOAD_MAX) :
    ∃ buf1 buf2, ctx.buf.write ctx.buf_ptr (Rtp.bytes16 (UInt16.ofNat nal.length)) = some buf1 ∧
      buf1.write (ctx.buf_ptr + 2) nal = some buf2 ∧
      Waiting { ctx with buf := buf2, buf_ptr := ctx.buf_ptr + 2 + nal.length } (waiting ++ [nal]) := by
  obtain ⟨buf1, write1, -⟩ := ctx.buf.write_ok
    (show ctx.buf_ptr + (Rtp.bytes16 (UInt16.ofNat nal.length)).length ≤ RTP_PAYLOAD_MAX by
      rw [Rtp.bytes16_length]; omega)
  obtain ⟨buf2, write2, -⟩ := buf1.write_ok (show ctx.buf_ptr + 2 + nal.length ≤ RTP_PAYLOAD_MAX from room)
  have front1 : buf1.bytes.take (ctx.buf_ptr + 2) = front ++ Rtp.bytes16 (UInt16.ofNat nal.length) :=
    Buffer.take_write known write1
  have front2 := Buffer.take_write front1 write2
  refine ⟨buf1, buf2, write1, write2, ?_, ?_, room⟩
  · rw [apOf_append, ← due]
    simp only [List.length_append, Rtp.bytes16_length, length, Nat.add_assoc]
  · rw [apOf_append, ← due, ← List.append_assoc]
    exact front2

/-! ### The fragmentation loop -/

variable {ctx : RTPMuxContext} {c type : UInt8} {nal : Bytes}

theorem header_split (header : ctx.buf.bytes.take 3 = [98, 1, c]) :
    ctx.buf.bytes = [98, 1] ++ c :: ctx.buf.bytes.drop 3 := by
  rw [← List.take_append_drop 3 ctx.buf.bytes, header]
  rfl

theorem sendFragments_long (fuel : Nat) (header : ctx.buf.bytes.take 3 = [98, 1, c]) (long : 1397 < nal.length) :
    ∃ ctx' f, sendFragments (fuel + 1) ctx nal =
        (sendFragments fuel ctx' (nal.drop 1397)).map (fun r => (r.1, f :: r.2)) ∧
      Sent ctx ctx' [98 :: 1 :: c :: nal.take 1397] [f] ∧
      ctx'.buf.bytes.take 3 = [98, 1, c &&& 0x7f] ∧ ctx'.buf_ptr = 0 := by
  have chunk : (nal.take 1397).length = 1397 := by rw [List.length_take]; omega
  obtain ⟨buf, write, -⟩ := ctx.buf.write_ok
    (show 3 + (nal.take 1397).length ≤ RTP_PAYLOAD_MAX by rw [chunk]; decide)
  have whole : buf.bytes.take (3 + (nal.take 1397).length) = [98, 1, c] ++ nal.take 1397 :=
    Buffer.take_write header write
  rw [chunk] at whole
  have front : buf.front RTP_PAYLOAD_MAX = some ([98, 1, c] ++ nal.take 1397) := by
    rw [buf.front_ok (Nat.le_refl _), ← whole]
    rfl
  have kept : buf.bytes.take 3 = [98, 1, c] := by
    rw [Buffer.take_write_of_le (Nat.le_refl 3) write, header]
  obtain ⟨ctx1, f, send, sent, same, reset⟩ := rtpSendData_sent { ctx with buf }
    (show ([98, 1, c] ++ nal.take 1397).length ≤ RTP_PAYLOAD_MAX by
      rw [List.length_append, chunk]; exact Nat.le_refl 1400)
  obtain ⟨buf', updated, bytes'⟩ := Buffer.update_ok (· &&& 0x7f)
    (header_split (show ctx1.buf.bytes.take 3 = [98, 1, c] by rw [same]; exact kept))
  refine ⟨{ ctx1 with buf := buf' }, f, ?_, ⟨sent.frames, sent.seq, sent.timestamp, sent.ssrc, sent.aggregation⟩,
    by rw [bytes']; rfl, reset⟩
  have updated' : ctx1.buf.update 2 (· &&& 0x7f) = some buf' := updated
  have size : RTP_PAYLOAD_MAX - header_Size = 1397 := rfl
  have start : header_Size = 3 := rfl
  rw [sendFragments, if_pos (by unfold RTP_PAYLOAD_MAX header_Size; omega), size, start, write]
  simp only [Option.bind_eq_bind, Option.bind_some, front, send, updated']
  cases sendFragments fuel { ctx1 with buf := buf' } (nal.drop 1397) <;> rfl

theorem sendFragments_short (fuel : Nat) (header : ctx.buf.bytes.take 3 = [98, 1, c]) (short : nal.length ≤ 1397) :
    ∃ ctx' f, sendFragments (fuel + 1) ctx nal = some (ctx', [f]) ∧
      Sent ctx ctx' [98 :: 1 :: (c ||| 0x40) :: nal] [f] ∧ ctx'.buf_ptr = 0 := by
  obtain ⟨buf, updated, bytes⟩ := Buffer.update_ok (· ||| 0x40) (header_split header)
  have updated' : ctx.buf.update 2 (· ||| 0x40) = some buf := updated
  have fits : 3 + nal.length ≤ RTP_PAYLOAD_MAX := by unfold RTP_PAYLOAD_MAX; omega
  obtain ⟨buf', write, -⟩ := buf.write_ok fits
  have whole : buf'.bytes.take (3 + nal.length) = [98, 1, c ||| 0x40] ++ nal :=
    Buffer.take_write (by rw [bytes]; rfl) write
  have front : buf'.front (nal.length + 3) = some ([98, 1, c ||| 0x40] ++ nal) := by
    rw [Nat.add_comm, buf'.front_ok fits, whole]
  obtain ⟨ctx', f, send, sent, -, reset⟩ := rtpSendData_sent { ctx with buf := buf' }
    (show ([98, 1, c ||| 0x40] ++ nal).length ≤ RTP_PAYLOAD_MAX by
      rw [List.length_append]; exact fits)
  refine ⟨ctx', f, ?_, ⟨sent.frames, sent.seq, sent.timestamp, sent.ssrc, sent.aggregation⟩, reset⟩
  have start : header_Size = 3 := rfl
  rw [sendFragments, if_neg (by unfold RTP_PAYLOAD_MAX header_Size; omega), start, updated']
  simp only [Option.bind_eq_bind, Option.bind_some, write, front, send, Option.pure_def]

theorem sendFragments_rest {fuel : Nat} (clear : type &&& 0x7f = type) (header : ctx.buf.bytes.take 3 = [98, 1, type])
    (enough : nal.length ≤ fuel) :
    ∃ ctx' fs, sendFragments (fuel + 1) ctx nal = some (ctx', fs) ∧
      Sent ctx ctx' (Hevc.fuRest type (Hevc.cut 1397 fuel nal)) fs ∧ ctx'.buf_ptr = 0 := by
  induction fuel generalizing ctx nal with
  | zero =>
    obtain ⟨ctx', f, send, sent, reset⟩ := sendFragments_short 0 header (Nat.le_trans enough (by omega))
    exact ⟨ctx', [f], send, sent, reset⟩
  | succ fuel ih =>
    rw [Hevc.cut]
    by_cases long : 1397 < nal.length
    · obtain ⟨ctx1, f, step, sent, header', -⟩ := sendFragments_long (fuel + 1) header long
      rw [clear] at header'
      obtain ⟨ctx', fs, rest, sent', reset⟩ := ih header'
        (show (nal.drop 1397).length ≤ fuel by rw [List.length_drop]; omega)
      refine ⟨ctx', f :: fs, by rw [step, rest]; rfl, ?_, reset⟩
      rw [if_pos long]
      cases pieces : Hevc.cut 1397 fuel (nal.drop 1397) with
      | nil => exact absurd pieces (Hevc.cut_ne_nil _ _ _)
      | cons g gs =>
        rw [pieces] at sent'
        exact sent.append sent'
    · obtain ⟨ctx', f, send, sent, reset⟩ := sendFragments_short (fuel + 1) header (Nat.le_of_not_lt long)
      rw [if_neg long]
      exact ⟨ctx', [f], send, sent, reset⟩

/-! ### A call refines the abstract sender -/

theorem aggregateNal_sent {waiting : List Bytes} (h : Waiting ctx waiting)
    (fits : nal.length + 4 ≤ RTP_PAYLOAD_MAX) (last : Int) :
    let full := waiting ≠ [] ∧ (apOf waiting).length + 2 + nal.length > RTP_PAYLOAD_MAX
    let flushed := if full then [apOf waiting] else []
    let kept := (if full then [] else waiting) ++ [nal]
    let result := if last = 1 then (flushed ++ [apOf kept], []) else (flushed, kept)
    ∃ ctx' fs, aggregateNal ctx nal last = some (ctx', fs) ∧
      Sent ctx ctx' result.1 fs ∧ Waiting ctx' result.2 := by
  intro full flushed kept result
  have due : (ctx.buf_ptr ≠ 0 ∧ ctx.buf_ptr + 2 + nal.length > RTP_PAYLOAD_MAX) ↔ full := by
    rw [ne_eq, h.empty_iff, h.length]
  obtain ⟨ctx1, fs1, flush1, sent1, h1⟩ := flushBuffer_sent h (decide full)
  simp only [decide_eq_true_eq] at sent1 h1
  have entry : (if full then 0 else ctx.buf_ptr) = ctx1.buf_ptr := by
    by_cases yes : full
    · rw [if_pos yes] at h1 ⊢
      exact h1.length.symm
    · rw [flushBuffer, if_neg (by simpa using yes)] at flush1
      simp only [Option.some.injEq, Prod.mk.injEq] at flush1
      rw [if_neg yes, flush1.1]
  obtain ⟨ctx2, first, sent2, front, pos⟩ := firstEntry_front h1
  have room : ctx2.buf_ptr + 2 + nal.length ≤ RTP_PAYLOAD_MAX := by
    rw [pos]
    by_cases yes : full
    · rw [if_pos (if_pos yes)]
      omega
    · rw [if_neg yes] at entry ⊢
      split
      · omega
      · rename_i occupied
        rw [← entry, h.length]
        exact Nat.le_of_not_lt fun beyond => yes ⟨occupied, beyond⟩
  have length : ctx2.buf_ptr = (if (if full then [] else waiting) = [] then [96, 1]
      else apOf (if full then [] else waiting)).length := by
    rw [pos]
    by_cases none : (if full then [] else waiting) = []
    · rw [if_pos none, if_pos none]; rfl
    · rw [if_neg none, if_neg none]; exact h1.length
  obtain ⟨buf1, buf2, write1, write2, h3⟩ := append_waiting front length rfl room
  obtain ⟨ctx4, fs4, flush4, sent4, h4⟩ := flushBuffer_sent h3 (decide (last = 1))
  simp only [decide_eq_true_eq] at sent4 h4
  have sent3 : Sent ctx2 ctx4 (if last = 1 then [apOf kept] else []) fs4 :=
    ⟨sent4.frames, sent4.seq, sent4.timestamp, sent4.ssrc, sent4.aggregation⟩
  have total := sent1.append (sent2.append sent3)
  rw [List.nil_append, List.nil_append] at total
  refine ⟨ctx4, fs1 ++ fs4, ?_, ?_⟩
  · unfold aggregateNal
    simp only [due, flush1, Option.bind_eq_bind, Option.bind_some, decide_eq_true_eq, entry, first, write1,
      write2, flush4, Option.pure_def]
  · by_cases final : last = 1
    · have same : result = (flushed ++ [apOf kept], []) := if_pos final
      rw [if_pos final] at total h4
      rw [same]
      exact ⟨total, h4⟩
    · have same : result = (flushed, kept) := if_neg final
      rw [if_neg final] at total h4
      rw [List.append_nil] at total
      rw [same]
      exact ⟨total, h4⟩

theorem fragmentNal_pending (inside : ctx.buf_ptr ≤ RTP_PAYLOAD_MAX) (long : 1400 < nal.length) :
    ∃ ctx' fs, fragmentNal ctx nal = some (ctx', fs) ∧
      Sent ctx ctx' ((if ctx.buf_ptr = 0 then [] else [ctx.buf.bytes.take ctx.buf_ptr]) ++ fragmentsOf nal) fs ∧
      ctx'.buf_ptr = 0 := by
  match nal, long with
  | h0 :: h1 :: data, long =>
    simp only [List.length_cons] at long
    obtain ⟨ctx1, fs1, flush1, sent1, -⟩ := flushBuffer_pending inside (decide (ctx.buf_ptr > 0))
    obtain ⟨buf, write, -⟩ := ctx1.buf.write_ok
      (show 0 + ([(49 : UInt8) <<< 1, 1, Hevc.typeField h0 ||| (1 : UInt8) <<< 7] : Bytes).length ≤ RTP_PAYLOAD_MAX
        from Nat.le_of_ble_eq_true rfl)
    have header : buf.bytes.take 3 = [98, 1, Hevc.typeField h0 ||| 0x80] := Buffer.take_write rfl write
    obtain ⟨-, -, -, -, -, -, clear, clear', -⟩ := Hevc.typeField_bits h0
    obtain ⟨ctx2, f, step, sent2, header2, -⟩ := sendFragments_long
      (data.length + 1) (show ({ ctx1 with buf } : RTPMuxContext).buf.bytes.take 3 = _ from header)
      (show 1397 < data.length by omega)
    rw [clear] at header2
    obtain ⟨ctx3, fs3, rest, sent3, reset⟩ := sendFragments_rest clear' header2
      (show (data.drop 1397).length ≤ data.length by rw [List.length_drop]; omega)
    refine ⟨ctx3, fs1 ++ f :: fs3, ?_, ?_, reset⟩
    · have write' : ctx1.buf.write 0 [(49 : UInt8) <<< 1, 1, ((h0 >>> 1) &&& (0x3f : UInt8)) ||| (1 : UInt8) <<< 7] =
          some buf := write
      unfold fragmentNal
      simp only [flush1, Option.bind_eq_bind, Option.bind_some, List.getElem?_cons_zero, write',
        List.length_cons, List.drop_succ_cons, List.drop_zero, step, rest, Option.map_some, Option.pure_def]
    · have fragments : Sent ctx1 ctx3 (fragmentsOf (h0 :: h1 :: data)) (f :: fs3) :=
        Sent.append (a := ctx1) ⟨sent2.frames, sent2.seq, sent2.timestamp, sent2.ssrc, sent2.aggregation⟩ sent3
      have due : (if decide (ctx.buf_ptr > 0) = true then [ctx.buf.bytes.take ctx.buf_ptr] else []) =
          (if ctx.buf_ptr = 0 then [] else [ctx.buf.bytes.take ctx.buf_ptr]) := by
        by_cases empty : ctx.buf_ptr = 0
        · rw [if_pos empty, if_neg (by simp [empty])]
        · rw [if_neg empty, if_pos (by simpa using Nat.pos_of_ne_zero empty)]
      rw [due] at sent1
      exact sent1.append fragments

theorem fragmentNal_sent {waiting : List Bytes} (h : Waiting ctx waiting) (long : 1400 < nal.length) :
    ∃ ctx' fs, fragmentNal ctx nal = some (ctx', fs) ∧
      Sent ctx ctx' ((if waiting = [] then [] else [apOf waiting]) ++ fragmentsOf nal) fs ∧
      Waiting ctx' [] := by
  obtain ⟨ctx', fs, step, sent, reset⟩ := fragmentNal_pending h.fits long
  simp only [h.bytes, h.empty_iff] at sent
  exact ⟨ctx', fs, step, sent, waiting_nil reset⟩

/-- A call sends the payloads of `nalPayloads` and leaves its units waiting. -/
theorem rtpSendNALH265_sent {waiting : List Bytes} (h : Waiting ctx waiting) (nal : Bytes) (last : Int) :
    ∃ ctx' fs, rtpSendNALH265 ctx nal last = some (ctx', fs) ∧
      Sent ctx ctx' (nalPayloads ctx.aggregation waiting nal last).1 fs ∧
      Waiting ctx' (nalPayloads ctx.aggregation waiting nal last).2 := by
  unfold rtpSendNALH265 nalPayloads
  by_cases small : nal.length ≤ RTP_PAYLOAD_MAX
  · rw [if_pos small, if_pos small]
    by_cases aggregate : ctx.aggregation ≠ 0 ∧ nal.length + 4 ≤ RTP_PAYLOAD_MAX
    · rw [if_pos aggregate, if_pos aggregate]
      exact aggregateNal_sent h aggregate.2 last
    · rw [if_neg aggregate, if_neg aggregate]
      obtain ⟨ctx', f, send, sent, -, reset⟩ := rtpSendData_sent ctx small
      exact ⟨ctx', [f], by rw [send]; rfl, sent, waiting_nil reset⟩
  · rw [if_neg small, if_neg small]
    exact fragmentNal_sent h (Nat.lt_of_not_le small)

/-! ### A call on any context -/

section

variable {ctx' : RTPMuxContext} {payload f : Bytes} {fs : List Bytes} {last : Int}

theorem rtpSendData_inv (h : rtpSendData ctx payload 0 = some (ctx', f)) :
    Sent ctx ctx' [payload] [f] ∧ ∀ p ∈ [payload], p.length ≤ RTP_PAYLOAD_MAX := by
  have fits : payload.length ≤ RTP_PAYLOAD_MAX := by
    unfold rtpSendData at h
    simp only [Option.bind_eq_bind, Option.bind_eq_some_iff] at h
    obtain ⟨c1, -, c2, -, c3, write, -⟩ := h
    have bound := (Buffer.write_bytes write).1
    unfold RTP_PAYLOAD_MAX at bound ⊢
    omega
  obtain ⟨ctx'', f', send, sent, -⟩ := rtpSendData_sent ctx fits
  rw [send] at h
  cases h
  exact ⟨sent, List.forall_mem_singleton.mpr fits⟩

/-- A write to the buffer does not matter for what is sent. -/
theorem Sent.from {buf : Buffer RTP_PAYLOAD_MAX} {ptr : Nat} {payloads : List Bytes}
    (sent : Sent { ctx with buf, buf_ptr := ptr } ctx' payloads fs) : Sent ctx ctx' payloads fs :=
  ⟨sent.frames, sent.seq, sent.timestamp, sent.ssrc, sent.aggregation⟩

theorem flushBuffer_inv {due : Bool} (h : flushBuffer ctx due = some (ctx', fs)) :
    ∃ payloads, Sent ctx ctx' payloads fs ∧ ∀ p ∈ payloads, p.length ≤ RTP_PAYLOAD_MAX := by
  unfold flushBuffer at h
  split at h
  · simp only [Option.bind_eq_bind, Option.bind_eq_some_iff] at h
    obtain ⟨front, -, ⟨ctx1, f⟩, send, same⟩ := h
    cases same
    exact ⟨[front], rtpSendData_inv send⟩
  · cases h
    exact ⟨[], Sent.refl ctx, nofun⟩

theorem sendFragments_inv {fuel : Nat} (h : sendFragments fuel ctx nal = some (ctx', fs)) :
    ∃ payloads, Sent ctx ctx' payloads fs ∧ ∀ p ∈ payloads, p.length ≤ RTP_PAYLOAD_MAX := by
  induction fuel generalizing ctx nal fs with
  | zero => cases h
  | succ fuel ih =>
    rw [sendFragments] at h
    split at h
    · simp only [Option.bind_eq_bind, Option.bind_eq_some_iff] at h
      obtain ⟨buf, -, front, -, ⟨ctx1, f⟩, send, buf1, -, ⟨ctx2, fs'⟩, rest, same⟩ := h
      cases same
      obtain ⟨first, fits⟩ := rtpSendData_inv send
      obtain ⟨payloads, sent, small⟩ := ih rest
      exact ⟨front :: payloads, Sent.append (Sent.from first) (Sent.from sent), List.forall_mem_append.mpr ⟨fits, small⟩⟩
    · simp only [Option.bind_eq_bind, Option.bind_eq_some_iff] at h
      obtain ⟨buf, -, buf1, -, front, -, ⟨ctx1, f⟩, send, same⟩ := h
      cases same
      obtain ⟨sent, fits⟩ := rtpSendData_inv send
      exact ⟨[front], Sent.from sent, fits⟩

theorem firstEntry_inv {size : Nat} (h : firstEntry ctx size = some ctx') : Sent ctx ctx' [] [] := by
  unfold firstEntry at h
  split at h
  · simp only [Option.bind_eq_bind, Option.bind_eq_some_iff] at h
    obtain ⟨buf, -, same⟩ := h
    cases same
    exact ⟨rfl, rfl, rfl, rfl, rfl⟩
  · cases h
    exact Sent.refl ctx

/-- Whatever the context is, the frames of a call are numbered on from its `seq`, and no payload
is too long. -/
theorem rtpSendNALH265_inv (h : rtpSendNALH265 ctx nal last = some (ctx', fs)) :
    ∃ payloads, Sent ctx ctx' payloads fs ∧ ∀ p ∈ payloads, p.length ≤ RTP_PAYLOAD_MAX := by
  unfold rtpSendNALH265 at h
  dsimp only at h
  split at h
  · split at h
    · unfold aggregateNal at h
      simp only [Option.bind_eq_bind, Option.bind_eq_some_iff] at h
      obtain ⟨⟨ctx1, flushed⟩, flush, ctx2, entry, buf1, -, buf2, -, ⟨ctx3, sent⟩, final, same⟩ := h
      cases same
      obtain ⟨ps, sent1, small1⟩ := flushBuffer_inv flush
      obtain ⟨qs, sent2, small2⟩ := flushBuffer_inv final
      exact ⟨_, sent1.append ((firstEntry_inv entry).append (Sent.from sent2)), List.forall_mem_append.mpr ⟨small1, small2⟩⟩
    · obtain ⟨⟨ctx1, f⟩, send, same⟩ := Option.map_eq_some_iff.mp h
      cases same
      exact ⟨[nal], rtpSendData_inv send⟩
  · unfold fragmentNal at h
    simp only [Option.bind_eq_bind, Option.bind_eq_some_iff] at h
    obtain ⟨⟨ctx1, flushed⟩, flush, h0, -, buf, -, ⟨ctx2, sent⟩, fragments, same⟩ := h
    cases same
    obtain ⟨ps, sent1, small1⟩ := flushBuffer_inv flush
    obtain ⟨qs, sent2, small2⟩ := sendFragments_inv fragments
    exact ⟨ps ++ qs, sent1.append (Sent.from sent2), List.forall_mem_append.mpr ⟨small1, small2⟩⟩

/-- A call writes inside the arrays wherever `buf_ptr` points to in `buf`. -/
theorem aggregateNal_total (inside : ctx.buf_ptr ≤ RTP_PAYLOAD_MAX) (fits : nal.length + 4 ≤ RTP_PAYLOAD_MAX) (last : Int) :
    ∃ ctx' fs, aggregateNal ctx nal last = some (ctx', fs) ∧ (last = 1 → fs ≠ []) := by
  obtain ⟨ctx1, fs1, flush1, -, after⟩ :=
    flushBuffer_pending inside (decide (ctx.buf_ptr ≠ 0 ∧ ctx.buf_ptr + 2 + nal.length > RTP_PAYLOAD_MAX))
  simp only [decide_eq_true_eq] at after
  have entry : (if ctx.buf_ptr ≠ 0 ∧ ctx.buf_ptr + 2 + nal.length > RTP_PAYLOAD_MAX then 0 else ctx.buf_ptr) = ctx1.buf_ptr ∧
      (ctx1.buf_ptr = 0 ∨ ctx1.buf_ptr + 2 + nal.length ≤ RTP_PAYLOAD_MAX) := by
    split at after
    · rename_i full
      exact ⟨(if_pos full).trans after.symm, .inl after⟩
    · rename_i room
      rw [after, if_neg room]
      exact ⟨rfl, by omega⟩
  obtain ⟨ctx2, first, room⟩ : ∃ ctx2, firstEntry ctx1 ctx1.buf_ptr = some ctx2 ∧
      ctx2.buf_ptr + 2 + nal.length ≤ RTP_PAYLOAD_MAX := by
    unfold firstEntry
    by_cases empty : ctx1.buf_ptr = 0
    · obtain ⟨buf, write, -⟩ := ctx1.buf.write_ok
        (show 0 + ([(48 : UInt8) <<< 1, 1] : Bytes).length ≤ RTP_PAYLOAD_MAX by decide)
      rw [if_pos empty, write]
      refine ⟨_, rfl, ?_⟩
      show ctx1.buf_ptr + 2 + 2 + nal.length ≤ RTP_PAYLOAD_MAX
      omega
    · rw [if_neg empty]
      exact ⟨ctx1, rfl, entry.2.resolve_left empty⟩
  obtain ⟨buf1, write1, -⟩ := ctx2.buf.write_ok
    (show ctx2.buf_ptr + (Rtp.bytes16 (UInt16.ofNat nal.length)).length ≤ RTP_PAYLOAD_MAX by rw [Rtp.bytes16_length]; omega)
  obtain ⟨buf2, write2, -⟩ := buf1.write_ok (show ctx2.buf_ptr + 2 + nal.length ≤ RTP_PAYLOAD_MAX from room)
  obtain ⟨ctx3, fs3, flush3, sent3, -⟩ :=
    @flushBuffer_pending { ctx2 with buf := buf2, buf_ptr := ctx2.buf_ptr + 2 + nal.length } room (decide (last = 1))
  refine ⟨ctx3, fs1 ++ fs3, ?_, fun final => ?_⟩
  · unfold aggregateNal
    simp only [flush1, Option.bind_eq_bind, Option.bind_some, decide_eq_true_eq, entry.1, first, write1, write2, flush3,
      Option.pure_def]
  · rw [if_pos (decide_eq_true final)] at sent3
    rw [sent3.frames]
    exact List.append_ne_nil_of_right_ne_nil _ (List.cons_ne_nil _ _)

theorem rtpSendNALH265_total (inside : ctx.buf_ptr ≤ RTP_PAYLOAD_MAX) (nal : Bytes) (last : Int) :
    ∃ ctx' fs, rtpSendNALH265 ctx nal last = some (ctx', fs) ∧ (last = 1 → fs ≠ []) := by
  unfold rtpSendNALH265
  dsimp only
  split
  · rename_i small
    split
    · rename_i aggregate
      exact aggregateNal_total inside aggregate.2 last
    · obtain ⟨ctx', f, send, -⟩ := rtpSendData_sent ctx small
      exact ⟨ctx', [f], by rw [send]; rfl, fun _ => List.cons_ne_nil _ _⟩
  · rename_i large
    have long : 1400 < nal.length := Nat.lt_of_not_le large
    obtain ⟨ctx', fs, send, sent, -⟩ := fragmentNal_pending inside long
    refine ⟨ctx', fs, send, fun _ none => ?_⟩
    have number := congrArg List.length (none.symm.trans sent.frames)
    rw [frames_length, List.length_append] at number
    have fragments := fragmentsOf_ne_nil long
    exact fragments (List.length_eq_zero_iff.mp (Nat.add_eq_zero_iff.mp number.symm).2)

end

/-! ### What a receiver gets -/

theorem receiveAll_fragmentsOf {nal : Bytes} (long : 1400 < nal.length) (plain : Hevc.PlainHeader nal) :
    Hevc.receiveAll none (fragmentsOf nal) = some (none, [nal]) := by
  match nal, plain with
  | h0 :: h1 :: data, plain =>
    apply Hevc.receiveAll_fuPayloads plain (Hevc.cut_ne_nil _ _ _)
    rw [Hevc.cut_flatten, List.take_append_drop]

end RtspServer
