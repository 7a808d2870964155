import RtspServer.Media.H264Sender

/-!
# The aggregation buffer of RTPEnc.cpp

Both senders of RTPEnc.cpp collect units in `buf` behind the header of a STAP-A,
and differ in the test for room. A unit that does not fit behind the header is
written over the end of `buf`.
-/

namespace RtspServer.RTPEnc

/-- The aggregation branch of both senders. `overhead` is what the test for room adds to the unit. -/
def aggregateBy (overhead : Nat) (ctx : RTPMuxContext) (nal : Bytes) (last : Int) : Option (RTPMuxContext × List Bytes) := do
  let size := nal.length
  let buffered_size := ctx.buf_ptr
  let h ← nal[0]?
  let full : Bool := buffered_size + overhead + size > RTP_PAYLOAD_MAX
  let (ctx, flushed) ← flushBuffer ctx full 0
  let ctx ← stapHeader ctx (if full then 0 else buffered_size) (h &&& 0x60)
  let buf ← ctx.buf.update 0 (· ||| (h &&& 0x80))
  let buf ← buf.write ctx.buf_ptr (Rtp.bytes16 (UInt16.ofNat size))
  let buf ← buf.write (ctx.buf_ptr + 2) nal
  let ctx := { ctx with buf, buf_ptr := ctx.buf_ptr + 2 + size }
  let (ctx, sent) ← flushBuffer ctx (last = 1) 1
  return (ctx, flushed ++ sent)

theorem aggregateNal_eq (ctx : RTPMuxContext) (nal : Bytes) (last : Int) :
    aggregateNal ctx nal last = aggregateBy 2 ctx nal last := rfl

/-! ### The units that wait -/

/-- What the buffer holds of the units that wait. -/
def stapOf (waiting : List Bytes) : Bytes := if waiting = [] then [] else H264.stapPayload waiting

theorem stapOf_append (waiting : List Bytes) (nal : Bytes) : stapOf (waiting ++ [nal]) =
    H264.joinHeader (H264.stapHeader waiting) nal :: Hevc.apBody waiting ++
      Rtp.bytes16 (UInt16.ofNat nal.length) ++ nal := by
  rw [stapOf, if_neg (List.append_ne_nil_of_right_ne_nil _ (List.cons_ne_nil _ _)), H264.stapPayload,
    H264.stapHeader_append, Hevc.apBody_append, Hevc.apBody_one]
  simp only [List.cons_append, List.append_assoc]

theorem stapOf_append_length (waiting : List Bytes) (nal : Bytes) :
    (stapOf (waiting ++ [nal])).length = 1 + (Hevc.apBody waiting).length + 2 + nal.length := by
  rw [stapOf_append, List.length_append, List.length_append, List.length_cons, Rtp.bytes16_length, Nat.add_comm 1]

/-- The buffer holds the STAP-A of the units waiting. -/
structure Pending (ctx : RTPMuxContext) (waiting : List Bytes) : Prop where
  length : ctx.buf_ptr = (stapOf waiting).length
  bytes : ctx.buf.bytes.take ctx.buf_ptr = stapOf waiting
  fits : ctx.buf_ptr ≤ RTP_PAYLOAD_MAX

theorem pending_nil {ctx : RTPMuxContext} (empty : ctx.buf_ptr = 0) : Pending ctx [] :=
  ⟨empty, by rw [empty]; rfl, by omega⟩

section

variable {ctx : RTPMuxContext} {waiting : List Bytes} {h : UInt8} {body : Bytes}

theorem Pending.empty_iff (pending : Pending ctx waiting) : ctx.buf_ptr = 0 ↔ waiting = [] := by
  rw [pending.length]
  constructor
  · intro zero
    by_contra some
    rw [stapOf, if_neg some] at zero
    cases zero
  · intro none
    rw [none]
    rfl

theorem Pending.buffered (pending : Pending ctx waiting) :
    buffered ctx = if waiting = [] then [] else [(stapOf waiting, 0)] := by
  rw [RTPEnc.buffered, pending.bytes]
  simp only [pending.empty_iff]

theorem flushBuffer_pending (pending : Pending ctx waiting) (due : Bool) (mark : Int) :
    ∃ ctx' ds, flushBuffer ctx due mark = some (ctx', ds) ∧
      Emitted ctx ctx' (if due then [(stapOf waiting, mark)] else []) ds ∧ Pending ctx' (if due then [] else waiting) ∧
      ctx'.buf_ptr = if due then 0 else ctx.buf_ptr := by
  obtain ⟨ctx', ds, flush, emitted, after⟩ := flushBuffer_emitted pending.fits due mark
  rw [pending.bytes] at emitted
  refine ⟨ctx', ds, flush, emitted, ?_⟩
  cases due with
  | false =>
    obtain rfl := after
    exact ⟨pending, rfl⟩
  | true => exact ⟨pending_nil after, after⟩

/-! ### A unit joins -/

/-- The first unit gives the header its NRI. -/
theorem first_header (h : UInt8) (body : Bytes) :
    ((24 : UInt8) ||| (h &&& 0x60)) ||| (h &&& 0x80) = H264.joinHeader (H264.stapHeader []) (h :: body) := by
  show _ = (if (24 : UInt8) &&& 0x60 < h &&& 0x60 then ((24 : UInt8) &&& (0x9f : UInt8)) ||| (h &&& 0x60) else 24) ||| (h &&& 0x80)
  by_cases more : (24 : UInt8) &&& 0x60 < h &&& 0x60
  · rw [if_pos more]
    rfl
  · have none : h &&& 0x60 = 0 := by
      apply UInt8.toNat.inj
      rw [UInt8.lt_iff_toNat_lt] at more
      exact Nat.eq_zero_of_not_pos more
    rw [if_neg more, none]
    rfl

/-- The header is written and updated: the unit may join. -/
def Headed (ctx : RTPMuxContext) (waiting : List Bytes) (h : UInt8) (body : Bytes) : Prop :=
  ∃ ctx' buf, stapHeader ctx ctx.buf_ptr (h &&& 0x60) = some ctx' ∧ ctx'.buf.update 0 (· ||| (h &&& 0x80)) = some buf ∧
    Emitted ctx ctx' [] [] ∧ ctx'.buf_ptr = 1 + (Hevc.apBody waiting).length ∧
    buf.bytes.take ctx'.buf_ptr = H264.joinHeader (H264.stapHeader waiting) (h :: body) :: Hevc.apBody waiting

theorem headed_first (empty : ctx.buf_ptr = 0) (body : Bytes) : Headed ctx [] h body := by
  obtain ⟨buf, write, bytes⟩ := ctx.buf.write_ok
    (show ctx.buf_ptr + [(24 : UInt8) ||| (h &&& 0x60)].length ≤ RTP_PAYLOAD_MAX by rw [empty]; exact Nat.le_of_ble_eq_true rfl)
  rw [empty] at bytes
  have first : buf.bytes = [] ++ ((24 : UInt8) ||| (h &&& 0x60)) :: ctx.buf.bytes.drop 1 := bytes
  obtain ⟨buf', updated, bytes'⟩ := Buffer.update_ok (· ||| (h &&& 0x80)) first
  refine ⟨{ ctx with buf, buf_ptr := ctx.buf_ptr + 1 }, buf', ?_, updated, ⟨rfl, rfl, rfl, rfl, rfl⟩, ?_, ?_⟩
  · rw [stapHeader, if_pos empty, write]
    rfl
  · show ctx.buf_ptr + 1 = 1
    rw [empty]
  · show buf'.bytes.take (ctx.buf_ptr + 1) = _
    rw [bytes', empty, ← first_header]
    rfl

theorem Pending.split (pending : Pending ctx waiting) (some : waiting ≠ []) :
    ctx.buf_ptr = (Hevc.apBody waiting).length + 1 ∧ ∃ rest, ctx.buf.bytes = H264.stapHeader waiting :: rest ∧
      rest.take (Hevc.apBody waiting).length = Hevc.apBody waiting := by
  have length := pending.length
  have held := pending.bytes
  rw [stapOf, if_neg some, H264.stapPayload] at length held
  rw [List.length_cons] at length
  cases same : ctx.buf.bytes with
  | nil =>
    rw [same, List.take_nil] at held
    cases held
  | cons b rest =>
    rw [same, length, List.take_succ_cons] at held
    obtain ⟨header, body⟩ := List.cons.inj held
    exact ⟨length, rest, by rw [header], body⟩

theorem headed_later (pending : Pending ctx waiting) (some : waiting ≠ []) (body : Bytes) : Headed ctx waiting h body := by
  obtain ⟨length, rest, bytes, units⟩ := pending.split some
  have occupied : ctx.buf_ptr ≠ 0 := by
    rw [length]
    exact Nat.succ_ne_zero _
  obtain ⟨buf, updated, bytes⟩ := Buffer.update_ok
    (fun b => if b &&& 0x60 < h &&& 0x60 then (b &&& (0x9f : UInt8)) ||| (h &&& 0x60) else b)
    (show ctx.buf.bytes = [] ++ H264.stapHeader waiting :: rest from bytes)
  obtain ⟨buf', updated', bytes'⟩ := Buffer.update_ok (· ||| (h &&& 0x80)) bytes
  have updated0 : ctx.buf.update 0
      (fun b => if b &&& 0x60 < h &&& 0x60 then (b &&& (0x9f : UInt8)) ||| (h &&& 0x60) else b) = Option.some buf := updated
  refine ⟨{ ctx with buf }, buf', ?_, updated', ⟨rfl, rfl, rfl, rfl, rfl⟩, ?_, ?_⟩
  · rw [stapHeader, if_neg occupied, updated0]
    rfl
  · show ctx.buf_ptr = _
    rw [length, Nat.add_comm]
  · show buf'.bytes.take ctx.buf_ptr = _
    rw [bytes', length, List.nil_append, List.take_succ_cons, units]
    rfl

theorem stapHeader_pending (pending : Pending ctx waiting) (body : Bytes) : Headed ctx waiting h body := by
  by_cases empty : ctx.buf_ptr = 0
  · obtain rfl := pending.empty_iff.mp empty
    exact headed_first empty body
  · exact headed_later pending (fun none => empty (pending.empty_iff.mpr none)) body

end

/-! ### A call that aggregates -/

/-- The test for room fails. -/
def NoRoom (overhead : Nat) (waiting : List Bytes) (nal : Bytes) : Prop :=
  (stapOf waiting).length + overhead + nal.length > RTP_PAYLOAD_MAX

instance (overhead : Nat) (waiting : List Bytes) (nal : Bytes) : Decidable (NoRoom overhead waiting nal) :=
  inferInstanceAs (Decidable (_ > _))

/-- The units that the header in front of `nal` is for. -/
def joined (overhead : Nat) (waiting : List Bytes) (nal : Bytes) : List Bytes :=
  (if NoRoom overhead waiting nal then [] else waiting) ++ [nal]

theorem joined_length (overhead : Nat) (waiting : List Bytes) (nal : Bytes) : (stapOf (joined overhead waiting nal)).length =
    if NoRoom overhead waiting nal ∨ waiting = [] then 3 + nal.length else (stapOf waiting).length + 2 + nal.length := by
  unfold joined
  rw [stapOf_append_length]
  by_cases full : NoRoom overhead waiting nal
  · rw [if_pos full, if_pos (.inl full)]
    rfl
  rw [if_neg full]
  by_cases none : waiting = []
  · rw [if_pos (.inr none), none]
    rfl
  · rw [if_neg (not_or.mpr ⟨full, none⟩), stapOf, if_neg none, H264.stapPayload, List.length_cons, Nat.add_comm 1]

section

variable {ctx : RTPMuxContext} {waiting : List Bytes} {nal : Bytes}

theorem aggregateBy_step (overhead : Nat) (pending : Pending ctx waiting) (nonempty : nal ≠ []) (last : Int) :
    ∃ (ctx1 : RTPMuxContext) (ds : List Bytes) (buf : Buffer RTP_PAYLOAD_MAX), Emitted ctx ctx1 (if NoRoom overhead waiting nal then [(stapOf waiting, 0)] else []) ds ∧
      stapOf (joined overhead waiting nal) = buf.bytes.take ctx1.buf_ptr ++ Rtp.bytes16 (UInt16.ofNat nal.length) ++ nal ∧
      (stapOf (joined overhead waiting nal)).length = ctx1.buf_ptr + 2 + nal.length ∧
      aggregateBy overhead ctx nal last =
        (buf.write ctx1.buf_ptr (Rtp.bytes16 (UInt16.ofNat nal.length))).bind fun buf =>
          (buf.write (ctx1.buf_ptr + 2) nal).bind fun buf =>
            (flushBuffer { ctx1 with buf, buf_ptr := ctx1.buf_ptr + 2 + nal.length } (last = 1) 1).bind fun r =>
              some (r.1, ds ++ r.2) := by
  obtain ⟨h, body, rfl⟩ := List.exists_cons_of_ne_nil nonempty
  obtain ⟨ctx0, ds, flush, emitted, pending', pointer⟩ :=
    flushBuffer_pending pending (decide (NoRoom overhead waiting (h :: body))) 0
  simp only [decide_eq_true_eq] at emitted pending' pointer
  obtain ⟨ctx1, buf, header, updated, emitted', length, bytes⟩ := stapHeader_pending pending' (h := h) body
  have whole := stapOf_append (if NoRoom overhead waiting (h :: body) then [] else waiting) (h :: body)
  have size := stapOf_append_length (if NoRoom overhead waiting (h :: body) then [] else waiting) (h :: body)
  refine ⟨ctx1, ds, buf, ?_, ?_, ?_, ?_⟩
  · have both := emitted.append emitted'
    rwa [List.append_nil, List.append_nil] at both
  · rw [bytes]
    exact whole
  · rw [length]
    exact size
  · have due : (decide (ctx.buf_ptr + overhead + (h :: body).length > RTP_PAYLOAD_MAX)) =
        decide (NoRoom overhead waiting (h :: body)) := by
      rw [pending.length]
      rfl
    unfold aggregateBy
    simp only [due, flush, List.getElem?_cons_zero, Option.bind_eq_bind, Option.bind_some, decide_eq_true_eq,
      ← pointer, header, updated]
    rfl

/-- A unit that fits behind the header joins the units waiting, and is sent with them if it is the last. -/
theorem aggregateBy_emitted (overhead : Nat) (pending : Pending ctx waiting) (some : nal ≠ []) (last : Int)
    (fits : (stapOf (joined overhead waiting nal)).length ≤ RTP_PAYLOAD_MAX) :
    ∃ ctx' ds, aggregateBy overhead ctx nal last = Option.some (ctx', ds) ∧
      Emitted ctx ctx' ((if NoRoom overhead waiting nal then [(stapOf waiting, 0)] else []) ++
        if last = 1 then [(stapOf (joined overhead waiting nal), 1)] else []) ds ∧
      Pending ctx' (if last = 1 then [] else joined overhead waiting nal) := by
  obtain ⟨ctx1, ds, buf, emitted, whole, length, step⟩ := aggregateBy_step overhead pending some last
  obtain ⟨buf1, write1, -⟩ := buf.write_ok
    (show ctx1.buf_ptr + (Rtp.bytes16 (UInt16.ofNat nal.length)).length ≤ RTP_PAYLOAD_MAX by
      rw [Rtp.bytes16_length]
      omega)
  obtain ⟨buf2, write2, -⟩ := buf1.write_ok (show ctx1.buf_ptr + 2 + nal.length ≤ RTP_PAYLOAD_MAX by omega)
  have held : Pending { ctx1 with buf := buf2, buf_ptr := ctx1.buf_ptr + 2 + nal.length } (joined overhead waiting nal) := by
    refine ⟨length.symm, ?_, show ctx1.buf_ptr + 2 + nal.length ≤ RTP_PAYLOAD_MAX by omega⟩
    rw [whole]
    exact Buffer.take_write (Buffer.take_write rfl write1) write2
  obtain ⟨ctx', ds', flush, emitted', pending', -⟩ := flushBuffer_pending held (decide (last = 1)) 1
  simp only [decide_eq_true_eq] at emitted' pending'
  refine ⟨ctx', ds ++ ds', ?_, ?_, pending'⟩
  · rw [step]
    simp only [write1, write2, flush, Option.bind_some]
  · exact emitted.append
      ⟨emitted'.datagrams, emitted'.seq, emitted'.timestamp, emitted'.ssrc, emitted'.aggregation⟩

/-- A unit that does not is written over the end of the buffer. -/
theorem aggregateBy_overflow (overhead : Nat) (pending : Pending ctx waiting) (some : nal ≠ []) (last : Int)
    (beyond : RTP_PAYLOAD_MAX < (stapOf (joined overhead waiting nal)).length) : aggregateBy overhead ctx nal last = none := by
  obtain ⟨ctx1, ds, buf, -, -, length, step⟩ := aggregateBy_step overhead pending some last
  rw [step]
  cases write1 : buf.write ctx1.buf_ptr (Rtp.bytes16 (UInt16.ofNat nal.length)) with
  | none => rfl
  | some buf1 =>
    have outside : buf1.write (ctx1.buf_ptr + 2) nal = none := dif_neg (by omega)
    simp only [outside, Option.bind_some, Option.bind_none]

end

/-! ### Calls of a sender -/

/-- What a call sends, and the units that wait afterwards. A unit that overflows the buffer has no result. -/
def callPayloads (overhead : Nat) (fragments : Bytes → List Bytes) (aggregation : Int) (waiting : List Bytes) (nal : Bytes)
    (last : Int) : Option (List (Bytes × Int) × List Bytes) :=
  if nal.length ≤ RTP_PAYLOAD_MAX then
    if aggregation ≠ 0 then
      let units := joined overhead waiting nal
      if (stapOf units).length ≤ RTP_PAYLOAD_MAX then
        some ((if NoRoom overhead waiting nal then [(stapOf waiting, 0)] else []) ++
          (if last = 1 then [(stapOf units, 1)] else []), if last = 1 then [] else units)
      else none
    else some ([(nal, last)], [])
  else some ((if waiting = [] then [] else [(stapOf waiting, 0)]) ++ marked last (fragments nal), [])

section

variable {overhead : Nat} {fragments : Bytes → List Bytes} {aggregation : Int} {waiting : List Bytes} {nal : Bytes} {last : Int}

theorem callPayloads_long (long : RTP_PAYLOAD_MAX < nal.length) : callPayloads overhead fragments aggregation waiting nal last =
    some ((if waiting = [] then [] else [(stapOf waiting, 0)]) ++ marked last (fragments nal), []) :=
  if_neg (Nat.not_le_of_lt long)

theorem callPayloads_single (small : nal.length ≤ RTP_PAYLOAD_MAX) (off : ¬ aggregation ≠ 0) :
    callPayloads overhead fragments aggregation waiting nal last = some ([(nal, last)], []) := by
  rw [callPayloads, if_pos small, if_neg off]

theorem callPayloads_fits (small : nal.length ≤ RTP_PAYLOAD_MAX) (on : aggregation ≠ 0)
    (fits : (stapOf (joined overhead waiting nal)).length ≤ RTP_PAYLOAD_MAX) :
    callPayloads overhead fragments aggregation waiting nal last =
      some ((if NoRoom overhead waiting nal then [(stapOf waiting, 0)] else []) ++
        (if last = 1 then [(stapOf (joined overhead waiting nal), 1)] else []),
        if last = 1 then [] else joined overhead waiting nal) := by
  rw [callPayloads, if_pos small, if_pos on]
  exact if_pos fits

theorem callPayloads_beyond (small : nal.length ≤ RTP_PAYLOAD_MAX) (on : aggregation ≠ 0)
    (beyond : RTP_PAYLOAD_MAX < (stapOf (joined overhead waiting nal)).length) :
    callPayloads overhead fragments aggregation waiting nal last = none := by
  rw [callPayloads, if_pos small, if_pos on]
  exact if_neg (Nat.not_le_of_lt beyond)

end

/-- The sender sends the payloads of `callPayloads`. -/
structure Sends (send : RTPMuxContext → Bytes → Int → Option (RTPMuxContext × List Bytes)) (overhead : Nat)
    (fragments : Bytes → List Bytes) : Prop where
  sent : ∀ {ctx waiting nal last out kept}, Pending ctx waiting → nal ≠ [] →
    callPayloads overhead fragments ctx.aggregation waiting nal last = some (out, kept) →
    ∃ ctx' ds, send ctx nal last = some (ctx', ds) ∧ Emitted ctx ctx' out ds ∧ Pending ctx' kept
  overflow : ∀ {ctx waiting nal last}, Pending ctx waiting → nal ≠ [] →
    callPayloads overhead fragments ctx.aggregation waiting nal last = none → send ctx nal last = none

/-- The branches of both senders of RTPEnc.cpp. -/
structure Branches (send fragment : RTPMuxContext → Bytes → Int → Option (RTPMuxContext × List Bytes)) (overhead : Nat)
    (fragments : Bytes → List Bytes) : Prop where
  branches : ∀ ctx nal last, send ctx nal last =
    if nal.length ≤ RTP_PAYLOAD_MAX then
      if ctx.aggregation ≠ 0 then aggregateBy overhead ctx nal last
      else (rtpSendData ctx nal last).map fun r => (r.1, [r.2])
    else fragment ctx nal last
  fragmented : ∀ {ctx nal} last, ctx.buf_ptr ≤ RTP_PAYLOAD_MAX → RTP_PAYLOAD_MAX < nal.length →
    ∃ ctx' ds, fragment ctx nal last = some (ctx', ds) ∧
      Emitted ctx ctx' (buffered ctx ++ marked last (fragments nal)) ds ∧ ctx'.buf_ptr = 0

section

variable {send fragment : RTPMuxContext → Bytes → Int → Option (RTPMuxContext × List Bytes)} {overhead : Nat}
  {fragments : Bytes → List Bytes}

theorem Branches.call (branches : Branches send fragment overhead fragments) {ctx : RTPMuxContext} {waiting : List Bytes}
    {nal : Bytes} (pending : Pending ctx waiting) (nonempty : nal ≠ []) (last : Int) :
    (∃ ctx' ds out kept, callPayloads overhead fragments ctx.aggregation waiting nal last = some (out, kept) ∧
      send ctx nal last = some (ctx', ds) ∧ Emitted ctx ctx' out ds ∧ Pending ctx' kept) ∨
    (callPayloads overhead fragments ctx.aggregation waiting nal last = none ∧ send ctx nal last = none) := by
  rw [branches.branches]
  by_cases small : nal.length ≤ RTP_PAYLOAD_MAX
  · rw [if_pos small]
    by_cases on : ctx.aggregation ≠ 0
    · rw [if_pos on]
      by_cases fits : (stapOf (joined overhead waiting nal)).length ≤ RTP_PAYLOAD_MAX
      · obtain ⟨ctx', ds, step, emitted, held⟩ := aggregateBy_emitted overhead pending nonempty last fits
        exact .inl ⟨ctx', ds, _, _, callPayloads_fits small on fits, step, emitted, held⟩
      · have beyond := Nat.lt_of_not_le fits
        exact .inr ⟨callPayloads_beyond small on beyond, aggregateBy_overflow overhead pending nonempty last beyond⟩
    · rw [if_neg on]
      obtain ⟨ctx', d, step, emitted, -, reset⟩ := rtpSendData_emitted ctx last small
      exact .inl ⟨ctx', [d], _, _, callPayloads_single small on, by rw [step]; rfl, emitted, pending_nil reset⟩
  · rw [if_neg small]
    have long := Nat.lt_of_not_le small
    obtain ⟨ctx', ds, step, emitted, reset⟩ := branches.fragmented last pending.fits long
    rw [pending.buffered] at emitted
    exact .inl ⟨ctx', ds, _, _, callPayloads_long long, step, emitted, pending_nil reset⟩

theorem Branches.sends (branches : Branches send fragment overhead fragments) : Sends send overhead fragments where
  sent := by
    intro ctx waiting nal last out kept pending nonempty call
    rcases branches.call pending nonempty last with ⟨ctx', ds, out', kept', payloads, step, emitted, held⟩ | ⟨none, -⟩
    · cases call.symm.trans payloads
      exact ⟨ctx', ds, step, emitted, held⟩
    · cases call.symm.trans none
  overflow := by
    intro ctx waiting nal last pending nonempty call
    rcases branches.call pending nonempty last with ⟨ctx', ds, out', kept', payloads, -⟩ | ⟨-, step⟩
    · cases call.symm.trans payloads
    · exact step

end

theorem rtpSendNALH264AVC_sends : Sends rtpSendNALH264AVC 2 payloadsOf :=
  Branches.sends
    { branches := fun ctx nal last => by rw [← aggregateNal_eq]; rfl
      fragmented := fun last inside long => fragmentNal_emitted inside long last }

/-! ### Runs of a sender -/

/-- One call for each unit, with its `last`. -/
def sendAll (send : RTPMuxContext → Bytes → Int → Option (RTPMuxContext × List Bytes)) :
    RTPMuxContext → List (Bytes × Int) → Option (RTPMuxContext × List Bytes)
  | ctx, [] => some (ctx, [])
  | ctx, c :: calls => do
    let (ctx, ds) ← send ctx c.1 c.2
    let (ctx, more) ← sendAll send ctx calls
    return (ctx, ds ++ more)

/-- What the calls send, and the units that wait at the end. -/
def runPayloads (overhead : Nat) (fragments : Bytes → List Bytes) (aggregation : Int) :
    List Bytes → List (Bytes × Int) → Option (List (Bytes × Int) × List Bytes)
  | waiting, [] => some ([], waiting)
  | waiting, c :: calls =>
    (callPayloads overhead fragments aggregation waiting c.1 c.2).bind fun r =>
      (runPayloads overhead fragments aggregation r.2 calls).map fun q => (r.1 ++ q.1, q.2)

section

variable {send : RTPMuxContext → Bytes → Int → Option (RTPMuxContext × List Bytes)} {overhead : Nat}
  {fragments : Bytes → List Bytes}

theorem sendAll_cons {ctx ctx1 : RTPMuxContext} {c : Bytes × Int} {ds : List Bytes} (calls : List (Bytes × Int))
    (first : send ctx c.1 c.2 = some (ctx1, ds)) :
    sendAll send ctx (c :: calls) = (sendAll send ctx1 calls).map fun r => (r.1, ds ++ r.2) := by
  rw [sendAll, first]
  simp only [Option.bind_eq_bind, Option.bind_some]
  cases sendAll send ctx1 calls <;> rfl

theorem sendAll_emitted (sends : Sends send overhead fragments) {ctx : RTPMuxContext} {waiting kept : List Bytes}
    {calls out : List (Bytes × Int)} (pending : Pending ctx waiting) (nonempty : ∀ c ∈ calls, c.1 ≠ [])
    (run : runPayloads overhead fragments ctx.aggregation waiting calls = some (out, kept)) :
    ∃ ctx' ds, sendAll send ctx calls = some (ctx', ds) ∧ Emitted ctx ctx' out ds ∧ Pending ctx' kept := by
  induction calls generalizing ctx waiting out with
  | nil =>
    cases run
    exact ⟨ctx, [], rfl, Emitted.refl ctx, pending⟩
  | cons c calls ih =>
    rw [runPayloads, Option.bind_eq_some_iff] at run
    obtain ⟨⟨out1, kept1⟩, call, rest⟩ := run
    rw [Option.map_eq_some_iff] at rest
    obtain ⟨⟨out2, kept2⟩, later, same⟩ := rest
    cases same
    obtain ⟨ctx1, ds, step, emitted, pending1⟩ := sends.sent pending (nonempty c List.mem_cons_self) call
    obtain ⟨ctx2, more, go, emitted', pending2⟩ :=
      ih pending1 (fun c' member => nonempty c' (List.mem_cons_of_mem _ member)) (by rw [emitted.aggregation]; exact later)
    exact ⟨ctx2, ds ++ more, by rw [sendAll_cons calls step, go]; rfl, emitted.append emitted', pending2⟩

theorem sendAll_overflow (sends : Sends send overhead fragments) {ctx : RTPMuxContext} {waiting : List Bytes}
    {calls : List (Bytes × Int)} (pending : Pending ctx waiting) (nonempty : ∀ c ∈ calls, c.1 ≠ [])
    (run : runPayloads overhead fragments ctx.aggregation waiting calls = none) : sendAll send ctx calls = none := by
  induction calls generalizing ctx waiting with
  | nil => cases run
  | cons c calls ih =>
    have head := nonempty c List.mem_cons_self
    cases call : callPayloads overhead fragments ctx.aggregation waiting c.1 c.2 with
    | none =>
      rw [sendAll, sends.overflow pending head call]
      rfl
    | some r =>
      rw [runPayloads, call, Option.bind_some, Option.map_eq_none_iff] at run
      obtain ⟨ctx1, ds, step, emitted, pending1⟩ := sends.sent pending head call
      rw [sendAll_cons calls step, ih pending1 (fun c' member => nonempty c' (List.mem_cons_of_mem _ member))
        (by rw [emitted.aggregation]; exact run)]
      rfl

end

end RtspServer.RTPEnc
