import RtspServer.Session.Answers
import RtspServer.Session.Fragments
import RtspServer.Session.ResponseStream

/-!
# Answers out of the shared buffer

All sessions of a process read into one `RecvBuf`. A request that comes in one read is
answered once or not at all, as the text that it makes there behind what was left of
other reads: the parser rejects in silence, and so does TEARDOWN.
-/

namespace RtspServer

/-- The method of the request is not recognised, or the parser rejects it as it was sent. -/
def Malformed (c : Conn) (q : Bytes) : Prop := recognise (bufferOf q) = .RTSP_UNKNOWN ∨ ¬ Accepts c.session q

/-- The call sends one response, a 4xx to what is malformed. -/
def AnsweredOnce (c : Conn) (q : Bytes) : Prop :=
  ∃ t x, c.read (.data q) = .ok t ∧ t.sent = [x] ∧ (Malformed c q → 400 ≤ x.status ∧ x.status < 500)

/-- What is in `RecvBuf` when the request `q` has come. -/
def Conn.joined (c : Conn) (q : Bytes) : Bytes := c.receiver.refresh.received ++ q

/-- The call of `ParseRtspRequest` that is due on `q`; none where the method is known to be wrong. -/
def Conn.due (c : Conn) (q : Bytes) : Option ParseCall :=
  match c.receiver.refresh.state with
  | .hdrStateInvalid => none
  | .hdrStateGotMethod => some ⟨c.session, c.joined q, q.length, .hdrStateGotMethod⟩
  | .hdrStateUnknown =>
    if 6 ≤ (c.joined q).length ∧ strstr (bufferOf (c.joined q)) CRLF then
      if recognise (bufferOf (c.joined q)) = .RTSP_UNKNOWN then none
      else some ⟨c.session.recognised (bufferOf (c.joined q)), c.joined q, q.length, .hdrStateGotMethod⟩
    else some ⟨c.session, c.joined q, q.length, .hdrStateUnknown⟩

/-- The request has room in `RecvBuf`, and the command there is wrong, or is one with a handler in a text that the parser
accepts. What is itself malformed takes a DESCRIBE of another stream to get its 4xx. -/
structure Answerable (c : Conn) (q : Bytes) : Prop where
  fits : (c.joined q).length < RTSP_BUFFER_SIZE
  handled : ∀ call, c.due q = some call →
    call.session.m_RtspCmdType ≠ .RTSP_TEARDOWN ∧ call.session.m_RtspCmdType ≠ .RTSP_UNKNOWN ∧
      (∃ s, call.parse = .ok (s, true)) ∧ (Malformed c q → DescribesUnknown c.streamer call)

section

variable {c : Conn} {q : Bytes}

/-- The end of the header is there, whatever is in front of it. -/
theorem endOfHeader_suffix {r : Receiver} (ended : CRLF ++ CRLF <:+ r.received) : endOfHeader r := by
  have four : (CRLF ++ CRLF).length = 4 := rfl
  by_cases long : r.bufPos > 4
  · have last : r.received.drop (r.received.length - 4) = CRLF ++ CRLF := (List.suffix_iff_eq_drop.mp ended).symm
    unfold endOfHeader
    rw [if_pos long, strstr, Receiver.recvBuf_eq, bufferOf, Receiver.bufPos, List.drop_append_of_le_length (Nat.sub_le _ _), last,
      cString_text (by decide)]
  · have same : r.received = CRLF ++ CRLF := (ended.eq_of_length_le (Nat.le_of_not_lt long)).symm
    exact (endOfHeader_iff (by rw [same]; decide)).mpr ended

/-- What the search for the method leaves. -/
theorem findMethod_due (fits : (c.joined q).length < RTSP_BUFFER_SIZE) :
    let found := findMethod c.session (c.receiver.refresh.append q fits)
    found.2.received = c.joined q ∧ (c.due q = none ↔ found.2.state = .hdrStateInvalid) ∧
      ∀ call, c.due q = some call → call = ⟨found.1, c.joined q, q.length, found.2.state⟩ := by
  have received : (c.receiver.refresh.append q fits).received = c.joined q := rfl
  have known : (c.receiver.refresh.append q fits).state = c.receiver.refresh.state := rfl
  intro found
  unfold Conn.due
  cases state : c.receiver.refresh.state with
  | hdrStateInvalid =>
    have kept : found = (c.session, c.receiver.refresh.append q fits) := findMethod_known (by rw [known, state]; decide)
    rw [kept]
    exact ⟨rfl, iff_of_true rfl (known.trans state), fun _ none => by cases none⟩
  | hdrStateGotMethod =>
    have kept : found = (c.session, c.receiver.refresh.append q fits) := findMethod_known (by rw [known, state]; decide)
    rw [kept]
    refine ⟨rfl, iff_of_false nofun fun wrong => ?_, fun call same => ?_⟩
    · cases (known.trans state).symm.trans wrong
    · rw [← Option.some.inj same]
      exact congrArg (ParseCall.mk c.session (c.joined q) q.length) (known.trans state).symm
  | hdrStateUnknown =>
    dsimp only
    by_cases searched : 6 ≤ (c.joined q).length ∧ strstr (bufferOf (c.joined q)) CRLF
    · have text : (c.receiver.refresh.append q fits).RecvBuf = bufferOf (c.joined q) := Receiver.recvBuf_eq _
      have searched' : findMethod c.session (c.receiver.refresh.append q fits) =
          (c.session.recognised (bufferOf (c.joined q)),
            ⟨c.joined q,
              if recognise (bufferOf (c.joined q)) ≠ .RTSP_UNKNOWN then .hdrStateGotMethod else .hdrStateInvalid, fits⟩) := by
        unfold findMethod
        rw [if_pos ⟨known.trans state, searched.1, by rw [text]; exact searched.2⟩, text]
        rfl
      rw [if_pos searched, show found = _ from searched']
      by_cases unknown : recognise (bufferOf (c.joined q)) = .RTSP_UNKNOWN
      · rw [if_pos unknown]
        exact ⟨rfl, iff_of_true rfl (if_neg (not_not.mpr unknown)), fun _ none => by cases none⟩
      · rw [if_neg unknown]
        refine ⟨rfl, iff_of_false nofun fun wrong => ?_, fun call same => ?_⟩
        · cases (if_pos unknown).symm.trans wrong
        · rw [← Option.some.inj same, if_pos unknown]
    · rw [if_neg searched]
      have kept : found = (c.session, c.receiver.refresh.append q fits) := by
        refine if_neg fun search => searched ⟨search.2.1, ?_⟩
        rw [← received, ← Receiver.recvBuf_eq]
        exact search.2.2
      rw [kept]
      refine ⟨rfl, iff_of_false nofun fun wrong => ?_, fun call same => ?_⟩
      · cases (known.trans state).symm.trans wrong
      · rw [← Option.some.inj same]
        exact congrArg (ParseCall.mk c.session (c.joined q) q.length) (known.trans state).symm

theorem endOfHeader_due (whole : WholeRequest q) (fits : (c.joined q).length < RTSP_BUFFER_SIZE) :
    endOfHeader (findMethod c.session (c.receiver.refresh.append q fits)).2 := by
  apply endOfHeader_suffix
  rw [(findMethod_due fits).1]
  exact whole.ended.trans (List.suffix_append _ _)

theorem read_invalid (whole : WholeRequest q) (live : c.session.m_stopped = false)
    (fits : (c.joined q).length < RTSP_BUFFER_SIZE) (none : c.due q = none) :
    ∃ t n, c.read (.data q) = .ok t ∧ t.sent = [.badRequest n] := by
  obtain ⟨-, invalid, -⟩ := findMethod_due fits
  have read : c.read (.data q) = _ := handleRequests_data live whole.nonempty fits
  rw [answer, if_neg (fun waiting => waiting.2 (endOfHeader_due whole fits)), if_pos (invalid.mp none)] at read
  exact ⟨_, _, read, rfl⟩

theorem parseCall_due (whole : WholeRequest q) (live : c.session.m_stopped = false)
    (fits : (c.joined q).length < RTSP_BUFFER_SIZE) {call : ParseCall} (due : c.due q = some call) :
    c.session.parseCall c.receiver (.data q) = some call := by
  obtain ⟨text, invalid, found⟩ := findMethod_due fits
  have ended := endOfHeader_due whole fits
  have valid : (findMethod c.session (c.receiver.refresh.append q fits)).2.state ≠ .hdrStateInvalid := by
    intro wrong
    rw [invalid.mpr wrong] at due
    cases due
  have made : ∀ {call}, call = ParseCall.mk (findMethod c.session (c.receiver.refresh.append q fits)).1
      (findMethod c.session (c.receiver.refresh.append q fits)).2.received q.length
      (findMethod c.session (c.receiver.refresh.append q fits)).2.state →
      c.session.parseCall c.receiver (.data q) = some call := by
    rintro call rfl
    have room : (c.receiver.refresh.received ++ q).length < RTSP_BUFFER_SIZE := fits
    unfold CRtspSession.parseCall
    dsimp only
    rw [if_neg (not_or.mpr ⟨by simpa using live, whole.nonempty⟩), dif_pos room, if_pos]
    cases state : (findMethod c.session (c.receiver.refresh.append q fits)).2.state with
    | hdrStateUnknown => exact .inl rfl
    | hdrStateGotMethod => exact .inr ⟨rfl, ended⟩
    | hdrStateInvalid => exact absurd state valid
  exact made (by rw [text]; exact found call due)

/-- The one error that a handler answers is `404 Stream Not Found`. -/
theorem dispatch_status {st : CStreamer} {s : CRtspSession} {x : Response} (sent : x ∈ (s.dispatch st).2.2)
    (wrong : 400 ≤ x.status) : ∃ n, x = .notFound n := by
  have success : ¬ 400 ≤ 200 := by decide
  unfold CRtspSession.dispatch at sent
  cases cmd : s.m_RtspCmdType with
  | RTSP_OPTIONS =>
    rw [cmd] at sent
    cases List.mem_singleton.mp sent
    exact absurd wrong success
  | RTSP_DESCRIBE =>
    rw [cmd] at sent
    unfold CRtspSession.Handle_RtspDESCRIBE at sent
    dsimp only at sent
    split at sent <;> cases List.mem_singleton.mp sent
    · exact ⟨_, rfl⟩
    · exact absurd wrong success
  | RTSP_SETUP =>
    rw [cmd] at sent
    unfold CRtspSession.Handle_RtspSETUP at sent
    cases List.mem_singleton.mp sent
    exact absurd wrong success
  | RTSP_PLAY =>
    rw [cmd] at sent
    cases List.mem_singleton.mp sent
    exact absurd wrong success
  | RTSP_TEARDOWN =>
    rw [cmd] at sent
    cases sent
  | RTSP_UNKNOWN =>
    rw [cmd] at sent
    cases sent

theorem joined_fits_of_read (whole : WholeRequest q) (live : c.session.m_stopped = false) {t : Turn}
    (read : c.read (.data q) = .ok t) : (c.joined q).length < RTSP_BUFFER_SIZE := by
  by_contra long
  have long : ¬ (c.receiver.refresh.received ++ q).length < RTSP_BUFFER_SIZE := long
  unfold Conn.read CRtspSession.handleRequests at read
  rw [live, if_neg Bool.false_ne_true] at read
  dsimp only at read
  rw [if_neg whole.nonempty, dif_neg long] at read
  cases read

theorem read_due (whole : WholeRequest q) (live : c.session.m_stopped = false) (fits : (c.joined q).length < RTSP_BUFFER_SIZE)
    {call : ParseCall} (due : c.due q = some call) :
    c.read (.data q) = (do
      let (st, s, sent) ← call.session.Handle_RtspRequest c.streamer (bufferOf call.text) call.size
      return ⟨st, s.markCommand, Receiver.empty, sent, true⟩) :=
  handleRequests_parseCall (parseCall_due whole live fits due)

/-- The handlers send one response, but for TEARDOWN and an unknown command. -/
theorem dispatch_one (st : CStreamer) (s : CRtspSession) :
    (∃ x, (s.dispatch st).2.2 = [x]) ↔ s.m_RtspCmdType ≠ .RTSP_TEARDOWN ∧ s.m_RtspCmdType ≠ .RTSP_UNKNOWN := by
  rw [← not_or, ← List.length_eq_one_iff, dispatch_sent]
  split
  · rename_i silent
    exact iff_of_false Nat.zero_ne_one (not_not.mpr silent)
  · rename_i answered
    exact iff_of_true rfl answered

theorem answerable_of_answeredOnce (whole : WholeRequest q) (live : c.session.m_stopped = false) (once : AnsweredOnce c q) :
    Answerable c q := by
  obtain ⟨t, x, read, sent, status⟩ := once
  have fits := joined_fits_of_read whole live read
  refine ⟨fits, fun call due => ?_⟩
  rw [read_due whole live fits due] at read
  obtain ⟨⟨st', s', sent'⟩, handled, rest⟩ := bind_ok read
  cases pure_ok rest
  rcases Handle_RtspRequest_cases handled with ⟨s1, accepted, same⟩ | ⟨-, -, rfl⟩
  swap
  · cases sent
  have one : (s1.dispatch c.streamer).2.2 = [x] := by rw [← same]; exact sent
  have handler := (dispatch_one c.streamer s1).mp ⟨x, one⟩
  rw [(ParseRtspRequest_outside accepted).cmd] at handler
  refine ⟨handler.1, handler.2, ⟨s1, accepted⟩, fun malformed => (describesUnknown_iff accepted).mp ?_⟩
  have member : x ∈ (s1.dispatch c.streamer).2.2 := by rw [one]; exact List.mem_singleton_self x
  obtain ⟨n, rfl⟩ := dispatch_status member (status malformed).1
  exact ⟨n, member⟩

theorem answeredOnce_of_answerable (whole : WholeRequest q) (live : c.session.m_stopped = false) (answerable : Answerable c q) :
    AnsweredOnce c q := by
  obtain ⟨fits, handled⟩ := answerable
  cases due : c.due q with
  | none =>
    obtain ⟨t, n, read, sent⟩ := read_invalid whole live fits due
    exact ⟨t, .badRequest n, read, sent, fun _ => ⟨Nat.le_refl 400, (by decide : 400 < 500)⟩⟩
  | some call =>
    obtain ⟨other, known, ⟨s1, accepted⟩, describes⟩ := handled call due
    have cmd := (ParseRtspRequest_outside accepted).cmd
    obtain ⟨x, one⟩ := (dispatch_one c.streamer s1).mpr (by rw [cmd]; exact ⟨other, known⟩)
    have response : call.session.Handle_RtspRequest c.streamer (bufferOf call.text) call.size = .ok (s1.dispatch c.streamer) := by
      unfold CRtspSession.Handle_RtspRequest
      rw [show ParseRtspRequest call.session (bufferOf call.text) call.size = .ok (s1, true) from accepted]
      rfl
    let d := s1.dispatch c.streamer
    refine ⟨⟨d.1, d.2.1.markCommand, Receiver.empty, d.2.2, true⟩, x, ?_, one, fun malformed => ?_⟩
    · rw [read_due whole live fits due, response]
      rfl
    · obtain ⟨n, member⟩ := (describesUnknown_iff accepted).mpr (describes malformed)
      rw [one, List.mem_singleton] at member
      rw [← member]
      exact ⟨(by decide : 400 ≤ 404), (by decide : 404 < 500)⟩

end

/-- A whole request that comes in one read gets its one answer exactly when it is answerable, whatever `RecvBuf` holds. -/
theorem answeredOnce_iff (c : Conn) (q : Bytes) (whole : WholeRequest q) (live : c.session.m_stopped = false) :
    AnsweredOnce c q ↔ Answerable c q :=
  ⟨answerable_of_answeredOnce whole live, answeredOnce_of_answerable whole live⟩

/-- SETUP of another session, without its blank line yet. -/
def halfSetup : Receiver := ⟨ascii "SETUP rtsp://h/p/s RTSP/1.0\r\n", .hdrStateGotMethod, by decide⟩

theorem answeredOnce_iff_busy :
    let c : Conn := { Conn.fresh ⟨fun _ => true, 2, []⟩ 5 with receiver := halfSetup }
    (WholeRequest optionRequest.bytes ∧ c.session.m_stopped = false ∧ ¬ c.receiver.Idle) ∧
      (AnsweredOnce c optionRequest.bytes ↔ Answerable c optionRequest.bytes) :=
  have whole : WholeRequest optionRequest.bytes := ⟨by decide, by decide, by decide⟩
  ⟨⟨whole, rfl, by decide⟩, answeredOnce_iff { Conn.fresh ⟨fun _ => true, 2, []⟩ 5 with receiver := halfSetup } _ whole rfl⟩

/-- Where nothing is left in `RecvBuf`, it is the request alone that decides. -/
theorem answerable_idle {c : Conn} {q : Bytes} (whole : WholeRequest q) (idle : c.receiver.Idle) :
    Answerable c q ↔ 6 ≤ q.length ∧
      (recognise (bufferOf q) = .RTSP_UNKNOWN ∨ recognise (bufferOf q) ≠ .RTSP_TEARDOWN ∧ Accepts c.session q) := by
  have joined : c.joined q = q := by
    unfold Conn.joined
    rw [refresh_idle idle]
    rfl
  have state : c.receiver.refresh.state = .hdrStateUnknown := by
    rw [refresh_idle idle]
    rfl
  have inside : CRLF <:+: q := (List.infix_append' [] CRLF CRLF).trans whole.ended.isInfix
  have line : strstr (bufferOf q) CRLF := by
    let r : Receiver := ⟨q, .hdrStateUnknown, whole.fits⟩
    rw [← r.recvBuf_eq]
    exact (r.strstr_recvBuf whole.clean CRLF).mpr inside
  have due : c.due q = if 6 ≤ q.length then
      if recognise (bufferOf q) = .RTSP_UNKNOWN then none
      else some ⟨c.session.recognised (bufferOf q), q, q.length, .hdrStateGotMethod⟩
    else some ⟨c.session, q, q.length, .hdrStateUnknown⟩ := by
    unfold Conn.due
    rw [state, joined]
    simp only [line, and_true]
  constructor
  · rintro ⟨-, handled⟩
    rw [due] at handled
    by_cases long : 6 ≤ q.length
    · refine ⟨long, Decidable.or_iff_not_imp_left.mpr fun known => ?_⟩
      rw [if_pos long, if_neg known] at handled
      obtain ⟨other, -, accepted, -⟩ := handled _ rfl
      exact ⟨other, accepted⟩
    · rw [if_neg long] at handled
      obtain ⟨-, -, ⟨s, accepted⟩, -⟩ := handled _ rfl
      exact absurd accepted (short_rejected whole (Nat.lt_of_not_le long))
  · rintro ⟨long, answered⟩
    refine ⟨by rw [joined]; exact whole.fits, fun call made => ?_⟩
    rw [due, if_pos long] at made
    rcases answered with unknown | ⟨other, accepted⟩
    · rw [if_pos unknown] at made
      cases made
    · by_cases unknown : recognise (bufferOf q) = .RTSP_UNKNOWN
      · rw [if_pos unknown] at made
        cases made
      · rw [if_neg unknown] at made
        cases made
        exact ⟨other, unknown, accepted, fun malformed => absurd accepted (malformed.resolve_left unknown)⟩

theorem not_answeredOnce_teardown :
    WholeRequest teardownRequest.bytes ∧
      ¬ AnsweredOnce (Conn.fresh ⟨fun _ => true, 2, []⟩ 5) teardownRequest.bytes := by
  refine ⟨⟨by decide, by decide, by decide⟩, ?_⟩
  rintro ⟨t, x, turn, sent, -⟩
  have silent : ((Conn.fresh ⟨fun _ => true, 2, []⟩ 5).read (.data teardownRequest.bytes)).toOption.map Turn.sent =
      some [] := by decide +kernel
  rw [turn] at silent
  rw [Option.some.inj silent] at sent
  cases sent

end RtspServer
