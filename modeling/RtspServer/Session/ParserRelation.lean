import RtspServer.Session.Requests

/-!
# What the parser looks at and writes

The parser reads only `m_RtspCmdType` of a session. A relation that the parser's
own writes respect holds between the sessions it leaves behind.
-/

namespace RtspServer

/-- `R` holds on after the writes of the request line. -/
structure LineRel (R : CRtspSession → CRtspSession → Prop) : Prop where
  host {s t} (part : Bytes) : R s t → R { s with m_CommandHostPort := part } { t with m_CommandHostPort := part }
  pres {s t} (part : Bytes) : R s t →
    R { s with m_CommandPresentationPart := part } { t with m_CommandPresentationPart := part }
  stream {s t} (part : Bytes) : R s t → R { s with m_CommandStreamPart := part } { t with m_CommandStreamPart := part }

/-- `R` holds on after the writes of a `Transport` header, which is read in a SETUP only. -/
structure TransportRel (R : CRtspSession → CRtspSession → Prop) : Prop where
  cmd {s t} : R s t → s.m_RtspCmdType = t.m_RtspCmdType
  tcp {s t} (b : Bool) : R s t → s.m_RtspCmdType = .RTSP_SETUP →
    R { s with m_TcpTransport := b, m_ClientRTPPort := 0 } { t with m_TcpTransport := b, m_ClientRTPPort := 0 }
  port {s t} (p : UInt16) : R s t → s.m_RtspCmdType = .RTSP_SETUP →
    R { s with m_ClientRTPPort := p, m_ClientRTCPPort := p + 1 } { t with m_ClientRTPPort := p, m_ClientRTCPPort := p + 1 }

/-- `R` holds on after the writes of the header lines. -/
structure HeaderRel (R : CRtspSession → CRtspSession → Prop) : Prop extends TransportRel R where
  cseq {s t} (n : UInt32) : R s t → R { s with m_CSeq := n } { t with m_CSeq := n }
  length {s t} (n : UInt32) : R s t → R { s with m_ContentLength := n } { t with m_ContentLength := n }

/-- `R` holds on after each write of the parser. -/
structure ParserRel (R : CRtspSession → CRtspSession → Prop) : Prop extends LineRel R, TransportRel R where
  init {s t} : R s t → R s.newCommandInit t.newCommandInit
  cseq {s t} (n : UInt32) : R s t → R { s with m_CSeq := n } { t with m_CSeq := n }
  length {s t} (n : UInt32) : R s t → R { s with m_ContentLength := n } { t with m_ContentLength := n }

theorem ParserRel.header {R : CRtspSession → CRtspSession → Prop} (rel : ParserRel R) : HeaderRel R :=
  ⟨rel.toTransportRel, rel.cseq, rel.length⟩

/-- Related sessions and the same cursor or verdict. -/
def Parsed {α : Type} (R : CRtspSession → CRtspSession → Prop) : Run (CRtspSession × α) → Run (CRtspSession × α) → Prop :=
  Run.Rel fun a b => R a.1 b.1 ∧ a.2 = b.2

theorem Parsed.pure {α : Type} {R : CRtspSession → CRtspSession → Prop} {s t : CRtspSession} (h : R s t) (a : α) :
    Parsed R (Pure.pure (s, a)) (Pure.pure (t, a)) := ⟨h, rfl⟩

theorem Parsed.next {R : CRtspSession → CRtspSession → Prop} {r r' : Parse} {f g : CRtspSession → Bytes → Parse}
    (first : Parsed R r r') (rest : ∀ s t cur, R s t → Parsed R (f s cur) (g t cur)) :
    Parsed R (r.next f) (r'.next g) := by
  apply Run.Rel.bind first
  rintro ⟨s, cur⟩ ⟨t, cur'⟩ ⟨related, same⟩
  cases same
  cases cur with
  | none => exact Parsed.pure related none
  | some cur => exact rest s t cur related

section

variable {R : CRtspSession → CRtspSession → Prop} {s t : CRtspSession}

theorem scheme_rel (h : R s t) (cur : Bytes) : Parsed R (scheme s cur) (scheme t cur) := by
  unfold scheme
  apply Run.Rel.bind_same
  intro cur
  apply Run.Rel.bind_same
  intro cur
  split
  · exact Parsed.pure h _
  · exact Parsed.pure h _

theorem nextPart_rel (h : R s t) (limit pos : Nat) (cur : Bytes) :
    Parsed R (nextPart limit s pos cur) (nextPart limit t pos cur) := by
  unfold nextPart
  apply Run.Rel.bind_same
  intro c
  split
  · exact Parsed.pure h _
  · apply Run.Rel.bind_same
    intro _
    apply Run.Rel.bind_same
    intro cur
    exact Parsed.pure h _

theorem hostPort_rel (rel : LineRel R) (h : R s t) (cur : Bytes) : Parsed R (hostPort s cur) (hostPort t cur) := by
  unfold hostPort
  apply Run.Rel.bind_same
  rintro ⟨part, rest⟩
  exact Parsed.next (Parsed.pure (rel.host part h) rest) fun s t cur h => nextPart_rel h _ _ cur

theorem presentationPart_rel (rel : LineRel R) (h : R s t) (cur : Bytes) :
    Parsed R (presentationPart s cur) (presentationPart t cur) := by
  unfold presentationPart
  apply Run.Rel.bind_same
  rintro ⟨part, rest⟩
  exact Parsed.next (Parsed.pure (rel.pres part h) rest) fun s t cur h => nextPart_rel h _ _ cur

theorem streamPart_rel (rel : LineRel R) (h : R s t) (cur : Bytes) :
    Parsed R (streamPart s cur) (streamPart t cur) := by
  unfold streamPart
  apply Run.Rel.bind_same
  rintro ⟨part, rest⟩
  apply Parsed.next (Parsed.pure (rel.stream part h) rest)
  intro s t cur h
  apply Run.Rel.bind_same
  intro _
  apply Run.Rel.bind_same
  intro cur
  apply Run.Rel.bind_same
  intro c
  split
  · exact Parsed.pure h _
  · exact Parsed.pure h _

theorem version_rel (h : R s t) (cur : Bytes) : Parsed R (version s cur) (version t cur) := by
  unfold version
  apply Run.Rel.bind_same
  intro cur
  split
  · exact Parsed.pure h _
  apply Run.Rel.bind_same
  intro c
  split
  · exact Parsed.pure h _
  apply Run.Rel.bind_same
  intro c
  split
  · exact Parsed.pure h _
  apply Run.Rel.bind_same
  intro c
  split
  · exact Parsed.pure h _
  · exact Parsed.pure h _

theorem requestLine_rel (rel : LineRel R) (h : R s t) (aRequest : Bytes) :
    Parsed R (requestLine s aRequest) (requestLine t aRequest) := by
  unfold requestLine
  apply Parsed.next
  · apply Parsed.next
    · exact Parsed.next (scheme_rel h aRequest) fun s t cur h => hostPort_rel rel h cur
    · exact fun s t cur h => presentationPart_rel rel h cur
  · intro s t cur h
    exact Parsed.next (streamPart_rel rel h cur) fun s t cur h => version_rel h cur

theorem subParameters_rel (rel : TransportRel R) (fuel : Nat) (h : R s t) (setup : s.m_RtspCmdType = .RTSP_SETUP)
    (cur : Bytes) : Parsed R (subParameters fuel s cur) (subParameters fuel t cur) := by
  induction fuel generalizing s t cur with
  | zero => rfl
  | succ fuel ih =>
    rw [subParameters, subParameters]
    apply Run.Rel.bind_same
    intro cur
    apply Run.Rel.bind_same
    intro c
    split
    · exact Parsed.pure h _
    apply Run.Rel.bind_same
    intro lineEnd
    split
    · exact Parsed.pure h _
    apply Run.Rel.bind_same
    rintro (_ | next_part)
    · exact Parsed.pure h _
    · show Parsed R (Parse.next (subParameter s cur next_part) (subParameters fuel))
        (Parse.next (subParameter t cur next_part) (subParameters fuel))
      unfold subParameter
      split
      · dsimp only
        split
        · exact Parsed.pure h _
        · exact ih (rel.port _ h setup) setup next_part
      · exact ih h setup next_part

theorem transport_rel (rel : TransportRel R) (h : R s t) (setup : s.m_RtspCmdType = .RTSP_SETUP) (cur : Bytes) :
    Parsed R (transport s cur) (transport t cur) := by
  unfold transport
  apply Run.Rel.bind_same
  intro cur
  split
  · exact Parsed.pure h _
  dsimp only
  split
  · exact subParameters_rel rel _ (rel.tcp true h setup) setup _
  · exact subParameters_rel rel _ (rel.tcp false h setup) setup _

theorem otherHeader_rel (rel : TransportRel R) (h : R s t) (cur : Bytes) :
    Parsed R (otherHeader s cur) (otherHeader t cur) := by
  unfold otherHeader
  apply Run.Rel.bind_same
  intro cur
  rw [← rel.cmd h]
  apply Parsed.next
  · split
    · rename_i setup
      exact transport_rel rel h setup.1 _
    · exact Parsed.pure h _
  · intro s t cur h
    apply Run.Rel.bind_same
    intro cur
    exact Parsed.pure h _

theorem headerLine_rel (rel : HeaderRel R) (h : R s t) (left : Int) (cur : Bytes) :
    Parsed R (headerLine s left cur) (headerLine t left cur) := by
  unfold headerLine
  split
  · apply Run.Rel.bind_same
    rintro (_ | ⟨n, cur⟩)
    · exact Parsed.pure h _
    · exact Parsed.pure (rel.cseq n h) _
  split
  · apply Run.Rel.bind_same
    rintro (_ | ⟨n, cur⟩)
    · exact Parsed.pure h _
    · exact Parsed.pure (rel.length n h) _
  · exact otherHeader_rel rel.toTransportRel h cur

theorem headerLoop_rel (rel : HeaderRel R) (aRequest : Bytes) (size fuel : Nat) (h : R s t) (cur : Bytes) :
    Parsed R (headerLoop aRequest size fuel s cur) (headerLoop aRequest size fuel t cur) := by
  induction fuel generalizing s t cur with
  | zero => rfl
  | succ fuel ih =>
    rw [headerLoop, headerLoop]
    apply Run.Rel.bind_same
    intro cur
    apply Run.Rel.bind_same
    intro c
    split
    · exact Parsed.pure h _
    apply Run.Rel.bind_same
    intro d
    split
    · exact Parsed.pure h _
    apply Run.Rel.bind (headerLine_rel rel h _ _)
    rintro ⟨s, cur⟩ ⟨t, cur'⟩ ⟨related, same⟩
    cases same
    cases cur with
    | none => exact Parsed.pure related _
    | some cur => exact ih related cur

theorem ParseRtspRequest_rel (rel : ParserRel R) (h : R s t) (aRequest : Bytes) (size : Nat) :
    Parsed R (ParseRtspRequest s aRequest size) (ParseRtspRequest t aRequest size) := by
  unfold ParseRtspRequest
  apply Run.Rel.bind (requestLine_rel rel.toLineRel (rel.init h) aRequest)
  rintro ⟨s, cur⟩ ⟨t, cur'⟩ ⟨related, same⟩
  cases same
  cases cur with
  | none => exact Parsed.pure related _
  | some cur => exact headerLoop_rel rel.header aRequest size _ related cur

end

/-! ### The fields the parser leaves alone -/

/-- The fields no request line or header line changes; a `Transport` header of a
SETUP changes three more. -/
structure SameOutside (s t : CRtspSession) : Prop where
  id : t.m_RtspSessionID = s.m_RtspSessionID
  streamID : t.m_StreamID = s.m_StreamID
  cmd : t.m_RtspCmdType = s.m_RtspCmdType
  rtpPort : t.m_RtpClientPort = s.m_RtpClientPort
  rtcpPort : t.m_RtcpClientPort = s.m_RtcpClientPort
  streaming : t.m_streaming = s.m_streaming
  stopped : t.m_stopped = s.m_stopped
  transport : s.m_RtspCmdType ≠ .RTSP_SETUP → t.m_TcpTransport = s.m_TcpTransport ∧
    t.m_ClientRTPPort = s.m_ClientRTPPort ∧ t.m_ClientRTCPPort = s.m_ClientRTCPPort

theorem SameOutside.refl (s : CRtspSession) : SameOutside s s :=
  ⟨rfl, rfl, rfl, rfl, rfl, rfl, rfl, fun _ => ⟨rfl, rfl, rfl⟩⟩

theorem sameOutside_rel (s : CRtspSession) : ParserRel fun t u => t = u ∧ SameOutside s t where
  cmd h := by rw [h.1]
  init := fun ⟨same, h⟩ => ⟨by rw [same], h.1, h.2, h.3, h.4, h.5, h.6, h.7, h.8⟩
  host _ := fun ⟨same, h⟩ => ⟨by rw [same], h.1, h.2, h.3, h.4, h.5, h.6, h.7, h.8⟩
  pres _ := fun ⟨same, h⟩ => ⟨by rw [same], h.1, h.2, h.3, h.4, h.5, h.6, h.7, h.8⟩
  stream _ := fun ⟨same, h⟩ => ⟨by rw [same], h.1, h.2, h.3, h.4, h.5, h.6, h.7, h.8⟩
  cseq _ := fun ⟨same, h⟩ => ⟨by rw [same], h.1, h.2, h.3, h.4, h.5, h.6, h.7, h.8⟩
  length _ := fun ⟨same, h⟩ => ⟨by rw [same], h.1, h.2, h.3, h.4, h.5, h.6, h.7, h.8⟩
  tcp _ := fun ⟨same, h⟩ setup => ⟨by rw [same], h.1, h.2, h.3, h.4, h.5, h.6, h.7,
    fun other => absurd (h.cmd.symm.trans setup) other⟩
  port _ := fun ⟨same, h⟩ setup => ⟨by rw [same], h.1, h.2, h.3, h.4, h.5, h.6, h.7,
    fun other => absurd (h.cmd.symm.trans setup) other⟩

theorem ParseRtspRequest_outside {s s' : CRtspSession} {aRequest : Bytes} {size : Nat} {accepted : Bool}
    (h : ParseRtspRequest s aRequest size = .ok (s', accepted)) : SameOutside s s' := by
  have related := ParseRtspRequest_rel (sameOutside_rel s) ⟨rfl, SameOutside.refl s⟩ aRequest size
  rw [h] at related
  exact related.1.2

end RtspServer
