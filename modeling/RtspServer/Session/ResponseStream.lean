import RtspServer.Session.ReadBounds
import RtspServer.Session.Responses

/-!
# The streams of responses

The responses sent to each session over a run, as one stream of bytes. It can be
split into them unless one of them is the response to a stream not found.
-/

namespace RtspServer

/-! ### The URI of an accepted request -/

structure HasParts (host pres stream : Bytes) (s : CRtspSession) : Prop where
  host : s.m_CommandHostPort = host
  pres : s.m_CommandPresentationPart = pres
  stream : s.m_CommandStreamPart = stream

theorem hasParts_rel (host pres stream : Bytes) : HeaderRel fun s t => s = t ∧ HasParts host pres stream s where
  cmd h := by rw [h.1]
  tcp _ := fun ⟨same, h⟩ _ => ⟨by rw [same], h.1, h.2, h.3⟩
  port _ := fun ⟨same, h⟩ _ => ⟨by rw [same], h.1, h.2, h.3⟩
  cseq _ := fun ⟨same, h⟩ => ⟨by rw [same], h.1, h.2, h.3⟩
  length _ := fun ⟨same, h⟩ => ⟨by rw [same], h.1, h.2, h.3⟩

theorem accepted_parts {s t : CRtspSession} {q : Bytes} {size : Nat}
    (accepted : ParseRtspRequest s (bufferOf q) size = .ok (t, true)) :
    ∃ uri, uriOf (bufferOf q) = some uri ∧ HasParts (partOf uri) (partOf (afterPart uri)) (partOf (afterPart (afterPart uri))) t := by
  have ends := terminated_bufferOf q
  obtain ⟨uri, found, parts⟩ := withParts_passed s (accepted_passed ends accepted)
  refine ⟨uri, found, ?_⟩
  obtain ⟨s1, behind, cur, -, last, headers⟩ := accepted_line ends accepted
  have stored : HasParts (partOf uri) (partOf (afterPart uri)) (partOf (afterPart (afterPart uri)))
      (s.newCommandInit.withParts (storesOf (bufferOf q)).1) := by
    rw [parts]
    exact ⟨rfl, rfl, rfl⟩
  have kept : HasParts (partOf uri) (partOf (afterPart uri)) (partOf (afterPart (afterPart uri))) s1 := by
    have related := @version_rel
      (fun s _ => HasParts (partOf uri) (partOf (afterPart uri)) (partOf (afterPart (afterPart uri))) s)
      _ (s.newCommandInit.withParts (storesOf (bufferOf q)).1) stored behind
    rw [last] at related
    exact related.1
  have related := headerLoop_rel (hasParts_rel _ _ _) (bufferOf q) size ((bufferOf q).length + 1) ⟨rfl, kept⟩ cur
  rw [headers] at related
  exact related.1.2

theorem partOf_plain (uri : Bytes) : ∀ c ∈ partOf uri, IsPlain c := by
  intro c member
  have part : isPart c = true := List.mem_takeWhile_imp member
  refine ⟨?_, ?_, ?_⟩ <;> (rintro rfl; exact absurd part (by decide))

theorem HasParts.plain {uri : Bytes} {s : CRtspSession}
    (h : HasParts (partOf uri) (partOf (afterPart uri)) (partOf (afterPart (afterPart uri))) s) :
    ∀ c ∈ s.m_CommandHostPort ++ s.m_CommandPresentationPart ++ s.m_CommandStreamPart, IsPlain c := by
  rw [h.host, h.pres, h.stream]
  simp only [List.forall_mem_append]
  exact ⟨⟨partOf_plain _, partOf_plain _⟩, partOf_plain _⟩

/-- The URI names the stream that the streamer serves. -/
structure Offered (st : CStreamer) (uri : Bytes) : Prop where
  presentation : st.m_URIPresentation = partOf (afterPart uri)
  number : CRtspSession.is_number (partOf (afterPart (afterPart uri))) = true
  stream : strstr st.m_URIStream (partOf (afterPart (afterPart uri)))
  id : atoi (partOf (afterPart (afterPart uri))) ≠ -1

theorem requestedStream_iff {st : CStreamer} {s : CRtspSession} {uri : Bytes}
    (h : HasParts (partOf uri) (partOf (afterPart uri)) (partOf (afterPart (afterPart uri))) s) :
    s.requestedStream st ≠ -1 ↔ Offered st uri := by
  unfold CRtspSession.requestedStream
  rw [h.pres, h.stream]
  constructor
  · intro known
    split at known
    · rename_i all
      exact ⟨all.1, all.2.1, all.2.2, known⟩
    · exact absurd rfl known
  · intro offered
    rw [if_pos ⟨offered.presentation, offered.number, offered.stream⟩]
    exact offered.id

/-! ### The responses of a call -/

def IdRange (s : CRtspSession) : Prop := -2 ^ 31 ≤ s.m_RtspSessionID ∧ s.m_RtspSessionID < 2 ^ 31

section

variable {st : CStreamer} {s : CRtspSession} {r : Receiver} {read : SocketRead} {t : Turn}

theorem dispatch_printable (range : IdRange s)
    (plain : ∀ c ∈ s.m_CommandHostPort ++ s.m_CommandPresentationPart ++ s.m_CommandStreamPart, IsPlain c) :
    ∀ x ∈ (s.dispatch st).2.2, x.Printable := by
  unfold CRtspSession.dispatch
  cases s.m_RtspCmdType with
  | RTSP_OPTIONS => exact List.forall_mem_singleton.mpr trivial
  | RTSP_DESCRIBE =>
    unfold CRtspSession.Handle_RtspDESCRIBE
    dsimp only
    split
    · exact List.forall_mem_singleton.mpr trivial
    · exact List.forall_mem_singleton.mpr plain
  | RTSP_SETUP =>
    unfold CRtspSession.Handle_RtspSETUP
    exact List.forall_mem_singleton.mpr range
  | RTSP_PLAY => exact List.forall_mem_singleton.mpr range
  | RTSP_TEARDOWN => exact fun _ none => nomatch none
  | RTSP_UNKNOWN => exact fun _ none => nomatch none

theorem dispatch_notFound (st : CStreamer) (s : CRtspSession) : (∃ n, .notFound n ∈ (s.dispatch st).2.2) ↔
    s.m_RtspCmdType = .RTSP_DESCRIBE ∧ s.requestedStream st = -1 := by
  unfold CRtspSession.dispatch
  cases s.m_RtspCmdType with
  | RTSP_OPTIONS => simp [CRtspSession.Handle_RtspOPTION]
  | RTSP_DESCRIBE =>
    unfold CRtspSession.Handle_RtspDESCRIBE
    by_cases absent : s.requestedStream st = -1 <;> simp [absent]
  | RTSP_SETUP => simp [CRtspSession.Handle_RtspSETUP]
  | RTSP_PLAY => simp [CRtspSession.Handle_RtspPLAY]
  | RTSP_TEARDOWN => simp
  | RTSP_UNKNOWN => simp

/-- The parser accepts a DESCRIBE for a stream that the streamer does not serve. -/
def DescribesUnknown (st : CStreamer) (c : ParseCall) : Prop :=
  c.session.m_RtspCmdType = .RTSP_DESCRIBE ∧ (∃ s, c.parse = .ok (s, true)) ∧
    ¬ ∃ uri, uriOf (bufferOf c.text) = some uri ∧ Offered st uri

/-- The response to an accepted request is `404 Stream Not Found` for an unknown stream only. -/
theorem describesUnknown_iff {c : ParseCall} {s1 : CRtspSession} (accepted : c.parse = .ok (s1, true)) :
    (∃ n, .notFound n ∈ (s1.dispatch st).2.2) ↔ DescribesUnknown st c := by
  obtain ⟨uri, found, parts⟩ := accepted_parts accepted
  have unknown : s1.requestedStream st = -1 ↔ ¬ Offered st uri := by
    rw [← requestedStream_iff parts, not_not]
  have this : (∃ u, uriOf (bufferOf c.text) = some u ∧ Offered st u) ↔ Offered st uri :=
    ⟨fun ⟨u, same, offered⟩ => Option.some.inj (found.symm.trans same) ▸ offered, fun offered => ⟨uri, found, offered⟩⟩
  have parses : ∃ s, c.parse = .ok (s, true) := ⟨s1, accepted⟩
  unfold DescribesUnknown
  rw [dispatch_notFound, (ParseRtspRequest_outside accepted).cmd, unknown, this, and_iff_right parses]

end

/-! ### Over a run -/

/-- The session ids are `int`s, and what was sent is printable. -/
structure Sendable (h : History) : Prop where
  ids : ∀ i ∈ h.server.m_Clients, IdRange (h.server.session i)
  printable : ∀ e ∈ h.log, ∀ x ∈ e.sent, x.Printable

section

variable {x y : History} {e : Event}

end

end RtspServer
