import RtspServer.Session.Text

/-!
# One session over its reads

What the calls of `handleRequests` on one session do and send, and what a call
does with a request that comes in one read.
-/

namespace RtspServer

/-- A session with the streamer and the receive buffer it uses. -/
structure Conn where
  streamer : CStreamer
  session : CRtspSession
  receiver : Receiver

def Conn.fresh (udp : UdpSockets) (random : Nat) : Conn :=
  ⟨CStreamer.create udp, CRtspSession.create random, Receiver.empty⟩

def Turn.conn (t : Turn) : Conn := ⟨t.streamer, t.session, t.receiver⟩

def Conn.read (c : Conn) (read : SocketRead) : Run Turn := c.session.handleRequests c.streamer c.receiver read

/-- The calls for `reads`, and the responses sent in them. -/
def Conn.run : List SocketRead → Conn → Run (Conn × List Response)
  | [], c => return (c, [])
  | read :: reads, c => do
    let t ← c.read read
    let (c, sent) ← Conn.run reads t.conn
    return (c, t.sent ++ sent)

/-! ### The buffer -/

/-- `RecvBuf` when it holds the text `q`. -/
def bufferOf (q : Bytes) : Bytes := q ++ NUL :: List.replicate (499 - q.length) NUL

theorem Receiver.recvBuf_eq (r : Receiver) : r.RecvBuf = bufferOf r.received := by
  have room : RTSP_BUFFER_SIZE - r.bufPos = (499 - r.received.length) + 1 := by
    have := r.fits
    unfold Receiver.bufPos RTSP_BUFFER_SIZE at *
    omega
  rw [Receiver.RecvBuf, room, List.replicate_succ, bufferOf]

theorem Receiver.strstr_recvBuf {r : Receiver} (clean : NUL ∉ r.received) (part : Bytes) :
    strstr r.RecvBuf part ↔ part <:+: r.received := by
  rw [strstr, recvBuf_eq, bufferOf, cString_text clean]

theorem endOfHeader_iff {r : Receiver} (clean : NUL ∉ r.received) : endOfHeader r ↔ CRLF ++ CRLF <:+ r.received := by
  have four : (CRLF ++ CRLF).length = 4 := rfl
  unfold endOfHeader
  by_cases long : r.bufPos > 4
  · have last : (r.received.drop (r.received.length - 4)).length = 4 := by
      rw [List.length_drop]
      unfold Receiver.bufPos at long
      omega
    have clean' : NUL ∉ r.received.drop (r.received.length - 4) := fun member => clean (List.mem_of_mem_drop member)
    rw [if_pos long, strstr, Receiver.recvBuf_eq, bufferOf, Receiver.bufPos,
      List.drop_append_of_le_length (Nat.sub_le _ _), cString_text clean', List.suffix_iff_eq_drop, four]
    constructor
    · intro inside
      exact List.IsInfix.eq_of_length_le inside (Nat.le_of_eq last)
    · intro same
      rw [← same]
  · rw [if_neg long, Receiver.strstr_recvBuf clean]
    constructor
    · intro inside
      have same := List.IsInfix.eq_of_length_le inside (Nat.le_of_not_lt long)
      exact ⟨[], same⟩
    · exact List.IsSuffix.isInfix

/-! ### A call -/

section

variable {st : CStreamer} {s : CRtspSession} {r : Receiver}

theorem handleRequests_data {bytes : Bytes} (live : s.m_stopped = false) (nonempty : bytes ≠ [])
    (fits : (r.refresh.received ++ bytes).length < RTSP_BUFFER_SIZE) :
    s.handleRequests st r (.data bytes) =
      answer st (findMethod s (r.refresh.append bytes fits)).1 (findMethod s (r.refresh.append bytes fits)).2
        bytes.length := by
  unfold CRtspSession.handleRequests
  rw [live, if_neg Bool.false_ne_true]
  dsimp only
  rw [if_neg nonempty, dif_pos fits]

theorem handleRequests_timeout : s.handleRequests st r .timeout =
    .ok ⟨st, s, if s.m_stopped then r else r.refresh, [], false⟩ := by
  unfold CRtspSession.handleRequests
  split <;> rfl

theorem handleRequests_cases {read : SocketRead} {t : Turn} (live : s.m_stopped = false)
    (h : s.handleRequests st r read = .ok t) :
    (read = .timeout ∧ t = ⟨st, s, r.refresh, [], false⟩) ∨
    (read = .closed ∧ t = ⟨st, { s with m_stopped := true }, r.refresh, [], true⟩) ∨
    (∃ bytes fits, read = .data bytes ∧ bytes ≠ [] ∧
      answer st (findMethod s (r.refresh.append bytes fits)).1 (findMethod s (r.refresh.append bytes fits)).2
        bytes.length = .ok t) := by
  unfold CRtspSession.handleRequests at h
  rw [live, if_neg Bool.false_ne_true] at h
  cases read with
  | timeout => exact .inl ⟨rfl, (pure_ok h).symm⟩
  | data bytes =>
    dsimp only at h
    split at h
    · rename_i closed
      subst closed
      exact .inr (.inl ⟨rfl, (pure_ok h).symm⟩)
    rename_i nonempty
    split at h
    · rename_i fits
      exact .inr (.inr ⟨bytes, fits, rfl, nonempty, h⟩)
    · cases h

theorem handleRequests_stopped {read : SocketRead} (stopped : s.m_stopped = true) :
    s.handleRequests st r read = .ok ⟨st, s, r, [], false⟩ := if_pos stopped

theorem answer_cases {res : Nat} {t : Turn} (h : answer st s r res = .ok t) :
    (r.state ≠ .hdrStateUnknown ∧ ¬ endOfHeader r ∧ t = ⟨st, s, r, [], true⟩) ∨
    (r.state = .hdrStateInvalid ∧ endOfHeader r ∧
      t = ⟨st, s, { Receiver.empty with state := r.state }, [.badRequest s.m_CSeq], false⟩) ∨
    (∃ st' s' sent, s.Handle_RtspRequest st r.RecvBuf res = .ok (st', s', sent) ∧
      t = ⟨st', s'.markCommand, Receiver.empty, sent, true⟩) := by
  unfold answer at h
  split at h
  · rename_i waiting
    exact .inl ⟨waiting.1, waiting.2, (pure_ok h).symm⟩
  rename_i ended
  split at h
  · rename_i invalid
    refine .inr (.inl ⟨invalid, ?_, (pure_ok h).symm⟩)
    by_contra more
    exact ended ⟨by rw [invalid]; decide, more⟩
  · obtain ⟨⟨st', s', sent⟩, handled, rest⟩ := bind_ok h
    exact .inr (.inr ⟨st', s', sent, handled, (pure_ok rest).symm⟩)

/-- What `ParseRtspRequest` is called with, and the state of the receive buffer then. -/
structure ParseCall where
  session : CRtspSession
  text : Bytes
  size : Nat
  state : HdrState
  deriving DecidableEq

def ParseCall.parse (c : ParseCall) : Run (CRtspSession × Bool) := ParseRtspRequest c.session (bufferOf c.text) c.size

/-- The call of `ParseRtspRequest` that a call of `handleRequests` makes, if any. -/
def CRtspSession.parseCall (s : CRtspSession) (r : Receiver) : SocketRead → Option ParseCall
  | .timeout => none
  | .data bytes =>
    if s.m_stopped ∨ bytes = [] then none
    else if fits : (r.refresh.received ++ bytes).length < RTSP_BUFFER_SIZE then
      let (s, r) := findMethod s (r.refresh.append bytes fits)
      if r.state = .hdrStateUnknown ∨ (r.state = .hdrStateGotMethod ∧ endOfHeader r) then
        some ⟨s, r.received, bytes.length, r.state⟩
      else none
    else none

theorem parseCall_found {read : SocketRead} {c : ParseCall} (h : s.parseCall r read = some c) :
    ∃ bytes, ∃ fits : (r.refresh.received ++ bytes).length < RTSP_BUFFER_SIZE,
      read = .data bytes ∧ s.m_stopped = false ∧ bytes ≠ [] ∧
      ((findMethod s (r.refresh.append bytes fits)).2.state = .hdrStateUnknown ∨
        (findMethod s (r.refresh.append bytes fits)).2.state = .hdrStateGotMethod ∧
          endOfHeader (findMethod s (r.refresh.append bytes fits)).2) ∧
      c = ⟨(findMethod s (r.refresh.append bytes fits)).1, (findMethod s (r.refresh.append bytes fits)).2.received,
        bytes.length, (findMethod s (r.refresh.append bytes fits)).2.state⟩ := by
  cases read with
  | timeout => cases h
  | data bytes =>
    unfold CRtspSession.parseCall at h
    dsimp only at h
    split at h
    · cases h
    rename_i going
    obtain ⟨live, nonempty⟩ := not_or.mp going
    split at h
    · rename_i fits
      split at h
      · rename_i due
        exact ⟨bytes, fits, rfl, by simpa using live, nonempty, due, (Option.some.inj h).symm⟩
      · cases h
    · cases h

/-- Where the parser is not called, the header has not ended, or the method is known to be wrong. -/
theorem parseCall_none {bytes : Bytes} (live : s.m_stopped = false) (nonempty : bytes ≠ [])
    (fits : (r.refresh.received ++ bytes).length < RTSP_BUFFER_SIZE) (none : s.parseCall r (.data bytes) = none) :
    let found := (findMethod s (r.refresh.append bytes fits)).2
    found.state ≠ .hdrStateUnknown ∧ (found.state = .hdrStateInvalid ∨ ¬ endOfHeader found) := by
  unfold CRtspSession.parseCall at none
  dsimp only at none
  rw [if_neg (not_or.mpr ⟨by simpa using live, nonempty⟩), dif_pos fits] at none
  split at none
  · cases none
  rename_i other
  obtain ⟨known, waiting⟩ := not_or.mp other
  refine ⟨known, ?_⟩
  cases state : (findMethod s (r.refresh.append bytes fits)).2.state with
  | hdrStateGotMethod => exact .inr fun ended => waiting ⟨state, ended⟩
  | hdrStateUnknown => exact absurd state known
  | hdrStateInvalid => exact .inl rfl

theorem handleRequests_parseCall {read : SocketRead} {c : ParseCall} (h : s.parseCall r read = some c) :
    s.handleRequests st r read = (do
      let (st, s, sent) ← c.session.Handle_RtspRequest st (bufferOf c.text) c.size
      return ⟨st, s.markCommand, Receiver.empty, sent, true⟩) := by
  obtain ⟨bytes, fits, rfl, live, nonempty, due, rfl⟩ := parseCall_found h
  have parses : ¬ ((findMethod s (r.refresh.append bytes fits)).2.state ≠ .hdrStateUnknown ∧
      ¬ endOfHeader (findMethod s (r.refresh.append bytes fits)).2) := by
    rintro ⟨known, more⟩
    rcases due with unknown | ⟨-, ended⟩
    · exact known unknown
    · exact more ended
  have valid : (findMethod s (r.refresh.append bytes fits)).2.state ≠ .hdrStateInvalid := by
    rcases due with unknown | ⟨got, -⟩
    · rw [unknown]
      exact HdrState.noConfusion
    · rw [got]
      exact HdrState.noConfusion
  rw [handleRequests_data live nonempty fits]
  unfold answer
  rw [if_neg parses, if_neg valid, Receiver.recvBuf_eq]

theorem Handle_RtspRequest_cases {aRequest : Bytes} {size : Nat} {st' : CStreamer} {s' : CRtspSession}
    {sent : List Response} (h : s.Handle_RtspRequest st aRequest size = .ok (st', s', sent)) :
    (∃ s1, ParseRtspRequest s aRequest size = .ok (s1, true) ∧ (st', s', sent) = s1.dispatch st) ∨
    (ParseRtspRequest s aRequest size = .ok (s', false) ∧ st' = st ∧ sent = []) := by
  unfold CRtspSession.Handle_RtspRequest at h
  obtain ⟨⟨s1, accepted⟩, parsed, rest⟩ := bind_ok h
  cases accepted with
  | true => exact .inl ⟨s1, parsed, (pure_ok rest).symm⟩
  | false =>
    have same := pure_ok rest
    simp only [Prod.mk.injEq] at same
    obtain ⟨rfl, rfl, rfl⟩ := same
    exact .inr ⟨parsed, rfl, rfl⟩

theorem dispatch_sent (st : CStreamer) (s : CRtspSession) :
    (s.dispatch st).2.2.length =
      if s.m_RtspCmdType = .RTSP_TEARDOWN ∨ s.m_RtspCmdType = .RTSP_UNKNOWN then 0 else 1 := by
  unfold CRtspSession.dispatch
  cases s.m_RtspCmdType with
  | RTSP_OPTIONS => rfl
  | RTSP_DESCRIBE =>
    show (s.Handle_RtspDESCRIBE st).2.length = 1
    unfold CRtspSession.Handle_RtspDESCRIBE
    dsimp only
    split <;> rfl
  | RTSP_SETUP =>
    show (s.Handle_RtspSETUP st).2.2.length = 1
    unfold CRtspSession.Handle_RtspSETUP
    dsimp only
    rfl
  | RTSP_PLAY => rfl
  | RTSP_TEARDOWN => rfl
  | RTSP_UNKNOWN => rfl

theorem handleRequests_sent_le {read : SocketRead} {t : Turn} (h : s.handleRequests st r read = .ok t) :
    t.sent.length ≤ 1 := by
  by_cases stopped : s.m_stopped = true
  · rw [handleRequests_stopped stopped] at h
    cases h
    exact Nat.zero_le 1
  rcases handleRequests_cases (by simpa using stopped) h with ⟨-, rfl⟩ | ⟨-, rfl⟩ | ⟨bytes, fits, -, -, answered⟩
  · exact Nat.zero_le 1
  · exact Nat.zero_le 1
  rcases answer_cases answered with ⟨-, -, rfl⟩ | ⟨-, -, rfl⟩ | ⟨st', s', sent, handled, rfl⟩
  · exact Nat.zero_le 1
  · exact Nat.le_refl 1
  rcases Handle_RtspRequest_cases handled with ⟨s1, -, same⟩ | ⟨-, -, rfl⟩
  · have count := dispatch_sent st s1
    rw [← same] at count
    show sent.length ≤ 1
    rw [count]
    split <;> decide
  · exact Nat.zero_le 1

end

/-! ### A request in one read -/

/-- The bytes of one read that are a request: text of at most 499 bytes that ends
in an empty line. -/
structure WholeRequest (q : Bytes) : Prop where
  clean : NUL ∉ q
  ended : CRLF ++ CRLF <:+ q
  fits : q.length < RTSP_BUFFER_SIZE

/-- The session when the parser starts on the request in `buf`. -/
def CRtspSession.recognised (s : CRtspSession) (buf : Bytes) : CRtspSession :=
  { s.newCommandInit with m_RtspCmdType := recognise buf }

section

variable {st : CStreamer} {s : CRtspSession} {r : Receiver} {q : Bytes}

theorem refresh_idle (idle : r.Idle) : r.refresh = Receiver.empty := if_pos idle

theorem append_idle (idle : r.Idle) (fits : (r.refresh.received ++ q).length < RTSP_BUFFER_SIZE)
    (fits' : q.length < RTSP_BUFFER_SIZE) : r.refresh.append q fits = ⟨q, .hdrStateUnknown, fits'⟩ := by
  unfold Receiver.append
  simp only [refresh_idle idle, Receiver.empty, List.nil_append]

theorem WholeRequest.nonempty (whole : WholeRequest q) : q ≠ [] := by
  rintro rfl
  exact absurd (List.suffix_nil.mp whole.ended) (by decide)

theorem handleRequests_whole (whole : WholeRequest q) (live : s.m_stopped = false) (idle : r.Idle)
    (long : 6 ≤ q.length) :
    s.handleRequests st r (.data q) =
      if recognise (bufferOf q) = .RTSP_UNKNOWN then
        .ok ⟨st, s.recognised (bufferOf q), { Receiver.empty with state := .hdrStateInvalid },
          [.badRequest s.m_CSeq], false⟩
      else do
        let (st, s, sent) ← (s.recognised (bufferOf q)).Handle_RtspRequest st (bufferOf q) q.length
        return ⟨st, s.markCommand, Receiver.empty, sent, true⟩ := by
  have fits : (r.refresh.received ++ q).length < RTSP_BUFFER_SIZE := by
    rw [refresh_idle idle]
    exact whole.fits
  rw [handleRequests_data live whole.nonempty fits, append_idle idle fits whole.fits]
  have inside : CRLF <:+: q := (List.infix_append' [] CRLF CRLF).trans whole.ended.isInfix
  have found : findMethod s ⟨q, .hdrStateUnknown, whole.fits⟩ = (s.recognised (bufferOf q),
      ⟨q, if recognise (bufferOf q) ≠ .RTSP_UNKNOWN then .hdrStateGotMethod else .hdrStateInvalid, whole.fits⟩) := by
    unfold findMethod
    rw [if_pos ⟨rfl, long, (Receiver.strstr_recvBuf whole.clean CRLF).mpr inside⟩, Receiver.recvBuf_eq]
    rfl
  have ended : ∀ state, endOfHeader ⟨q, state, whole.fits⟩ := fun state => (endOfHeader_iff whole.clean).mpr whole.ended
  rw [found]
  unfold answer
  by_cases unknown : recognise (bufferOf q) = .RTSP_UNKNOWN
  · rw [if_pos unknown, if_neg (fun waiting => waiting.2 (ended _)), if_pos (if_neg (not_not.mpr unknown)),
      if_neg (not_not.mpr unknown)]
    rfl
  · rw [if_neg unknown, if_neg (fun waiting => waiting.2 (ended _)),
      if_neg (by rw [if_pos unknown]; exact HdrState.noConfusion), Receiver.recvBuf_eq]

theorem RequestText.whole {t : RequestText} (fits : t.bytes.length < RTSP_BUFFER_SIZE) : WholeRequest t.bytes :=
  ⟨t.clean, t.ended, fits⟩

theorem recognise_text (t : RequestText) : recognise (bufferOf t.bytes) = t.method := by
  rw [bufferOf, RequestText.bytes, List.append_assoc (t.line.bytes ++ CRLF)]
  exact recognise_line t.line _

theorem read_whole_idle {c : Conn} {turn : Turn} (whole : WholeRequest q) (idle : c.receiver.Idle)
    (h : c.read (.data q) = .ok turn) : turn.receiver.Idle := by
  unfold Conn.read at h
  by_cases stopped : c.session.m_stopped = true
  · rw [handleRequests_stopped stopped] at h
    cases h
    exact idle
  have fits : (c.receiver.refresh.received ++ q).length < RTSP_BUFFER_SIZE := by
    rw [refresh_idle idle]
    exact whole.fits
  rw [handleRequests_data (by simpa using stopped) whole.nonempty fits] at h
  have text : (findMethod c.session (c.receiver.refresh.append q fits)).2.received = q := by
    have kept : (findMethod c.session (c.receiver.refresh.append q fits)).2.received =
        (c.receiver.refresh.append q fits).received := by
      unfold findMethod
      split <;> rfl
    rw [kept, append_idle idle fits whole.fits]
  rcases answer_cases h with ⟨-, more, -⟩ | ⟨-, -, rfl⟩ | ⟨st', s', sent, -, rfl⟩
  · refine absurd ((endOfHeader_iff ?_).mpr ?_) more
    · rw [text]; exact whole.clean
    · rw [text]; exact whole.ended
  · exact .inl rfl
  · exact .inl rfl

end

end RtspServer
