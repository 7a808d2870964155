import RtspServer.Session.Describe

/-!
# Truncated responses

Each response is printed in one or more calls of `snprintf`, whose results nobody looks
at. All of them fit their arrays but one: the URL of a DESCRIBE.
-/

namespace RtspServer

/-- The header line that gives the requested URI as the base. -/
def contentBase (host pres stream : Bytes) : Bytes :=
  ascii "Content-Base: rtsp://" ++ host ++ ascii "/" ++ pres ++ ascii "/" ++ stream ++ ascii "/"

/-- No `snprintf` for the responses to a request of `uri` at the time `tm` truncates its text, and the
base of a DESCRIBE is the whole URI. -/
structure Untruncated (tm : Tm) (uri : Bytes) (sent : List Response) : Prop where
  fits : ∀ r ∈ sent, (∀ p ∈ r.innerPrints, p.Fits) ∧ (r.print (DateHeader tm)).Fits
  base : ∀ r ∈ sent, ∀ n host pres stream, r = .describe n host pres stream →
    CRLF ++ contentBase (partOf uri) (partOf (afterPart uri)) (partOf (afterPart (afterPart uri))) ++ CRLF <:+:
      r.text (DateHeader tm)

/-- No response to the request in `q` at the time `tm` is truncated. -/
def AnswersWhole (st : CStreamer) (s : CRtspSession) (q : Bytes) (size : Nat) (tm : Tm) : Prop :=
  ∃ uri st' t sent, uriOf (bufferOf q) = some uri ∧ s.Handle_RtspRequest st (bufferOf q) size = .ok (st', t, sent) ∧
    Untruncated tm uri sent

/-- The parts of the URI leave room for the rest of the URL and the NUL in `URLBuf`. -/
def URLFits (uri : Bytes) : Prop :=
  (partOf uri).length + (partOf (afterPart uri)).length + (partOf (afterPart (afterPart uri))).length ≤ 65

theorem transport_fits (t : TransportReply) : t.print.Fits := by
  unfold Print.Fits
  cases t with
  | tcp => decide +kernel
  | udp rtp rtcp serverRtp serverRtcp =>
    have port (p : UInt16) : (decimal p.toNat).length ≤ 5 :=
      decimal_length_le (by decide) (Nat.lt_trans p.toNat_lt (by decide))
    have one := port rtp
    have two := port rtcp
    have three := port serverRtp
    have four := port serverRtcp
    simp only [TransportReply.print, List.length_append, ascii_length, String.reduceToList, List.length_cons, List.length_nil]
    omega

theorem printSDP_fits : printSDP.Fits := by
  unfold Print.Fits
  decide +kernel

theorem printURL_fits {host pres stream : Bytes} :
    (printURL host pres stream).Fits ↔ host.length + pres.length + stream.length ≤ 65 := by
  unfold Print.Fits printURL
  simp only [List.length_append, ascii_length, String.reduceToList, List.length_cons, List.length_nil]
  omega

section

variable {tm : Tm} {uri : Bytes}

/-- The calls for a response that is no answer to a DESCRIBE. -/
theorem innerPrints_fit {r : Response} (other : ∀ n host pres stream, r ≠ .describe n host pres stream) :
    ∀ p ∈ r.innerPrints, p.Fits := by
  cases r with
  | describe n host pres stream => exact absurd rfl (other n host pres stream)
  | setup n transport id => exact List.forall_mem_singleton.mpr (transport_fits transport)
  | _ => exact nofun

theorem untruncated_other {r : Response} (printable : r.Printable)
    (other : ∀ n host pres stream, r ≠ .describe n host pres stream) : Untruncated tm uri [r] where
  fits := List.forall_mem_singleton.mpr ⟨innerPrints_fit other, print_fits tm printable⟩
  base := List.forall_mem_singleton.mpr fun n host pres stream same => absurd same (other n host pres stream)

theorem untruncated_describe (n : UInt32) (plain : (Response.describe n (partOf uri) (partOf (afterPart uri))
      (partOf (afterPart (afterPart uri)))).Printable) :
    Untruncated tm uri [.describe n (partOf uri) (partOf (afterPart uri)) (partOf (afterPart (afterPart uri)))] ↔
      URLFits uri := by
  unfold URLFits
  rw [← printURL_fits]
  constructor
  · intro whole
    exact (whole.fits _ (List.mem_singleton_self _)).1 _ (List.mem_cons_of_mem _ (List.mem_singleton_self _))
  · intro fits
    have last := print_fits tm plain
    have header : ascii "\r\nContent-Base: " = CRLF ++ ascii "Content-Base: " := by decide +kernel
    have base : ascii "Content-Base: rtsp://" = ascii "Content-Base: " ++ ascii "rtsp://" := by decide +kernel
    have type : ascii "/\r\nContent-Type: application/sdp\r\nContent-Length: " =
        ascii "/" ++ CRLF ++ ascii "Content-Type: application/sdp\r\nContent-Length: " := by decide +kernel
    refine ⟨List.forall_mem_singleton.mpr ⟨?_, last⟩, List.forall_mem_singleton.mpr ?_⟩
    · exact List.forall_mem_cons.mpr ⟨printSDP_fits, List.forall_mem_singleton.mpr fits⟩
    · rintro _ _ _ _ -
      rw [Response.text_print, last.result]
      unfold Response.print
      dsimp only
      rw [fits.result]
      refine ⟨ascii "RTSP/1.0 200 OK\r\nCSeq: " ++ decimal n.toNat ++ CRLF ++ DateHeader tm,
        ascii "Content-Type: application/sdp\r\nContent-Length: " ++ decimal printSDP.result.length ++
          ascii "\r\n\r\n" ++ printSDP.result, ?_⟩
      simp only [contentBase, printURL, header, base, type, List.append_assoc]

variable {st : CStreamer} {s : CRtspSession} {q : Bytes} {size : Nat}

theorem untruncated_dispatch (range : IdRange s)
    (parts : HasParts (partOf uri) (partOf (afterPart uri)) (partOf (afterPart (afterPart uri))) s) :
    Untruncated tm uri (s.dispatch st).2.2 ↔ (s.m_RtspCmdType = .RTSP_DESCRIBE → Offered st uri → URLFits uri) := by
  have printable := @dispatch_printable st s range parts.plain
  have silent : Untruncated tm uri [] := ⟨fun _ none => absurd none List.not_mem_nil, fun _ none => absurd none List.not_mem_nil⟩
  rw [← requestedStream_iff parts]
  unfold CRtspSession.dispatch at printable ⊢
  generalize s.m_RtspCmdType = command at printable ⊢
  cases command with
  | RTSP_OPTIONS => exact iff_of_true (untruncated_other (List.forall_mem_singleton.mp printable) nofun) nofun
  | RTSP_SETUP => exact iff_of_true (untruncated_other (List.forall_mem_singleton.mp printable) nofun) nofun
  | RTSP_PLAY => exact iff_of_true (untruncated_other (List.forall_mem_singleton.mp printable) nofun) nofun
  | RTSP_TEARDOWN => exact iff_of_true silent nofun
  | RTSP_UNKNOWN => exact iff_of_true silent nofun
  | RTSP_DESCRIBE =>
    unfold CRtspSession.Handle_RtspDESCRIBE at printable ⊢
    dsimp only at printable ⊢
    by_cases unknown : s.requestedStream st = -1
    · rw [if_pos unknown] at printable ⊢
      exact iff_of_true (untruncated_other trivial nofun) fun _ known => absurd unknown known
    · rw [if_neg unknown, parts.host, parts.pres, parts.stream] at printable ⊢
      rw [untruncated_describe _ (List.forall_mem_singleton.mp printable)]
      exact ⟨fun fits _ _ => fits, fun fits => fits rfl unknown⟩

/-- The responses to an accepted request are whole exactly if it is no DESCRIBE for a stream of the streamer
with a URL that is longer than its array. -/
theorem answersWhole_iff (st : CStreamer) (pres stream : Bytes) (tm : Tm) (range : IdRange s)
    (accepted : ∃ u, ParseRtspRequest s (bufferOf q) size = .ok (u, true)) :
    AnswersWhole (st.setURI pres stream) s q size tm ↔ ∀ uri, uriOf (bufferOf q) = some uri →
      s.m_RtspCmdType = .RTSP_DESCRIBE → Offered (st.setURI pres stream) uri → URLFits uri := by
  obtain ⟨u, accepted⟩ := accepted
  obtain ⟨uri, found, parts⟩ := accepted_parts accepted
  have outside := ParseRtspRequest_outside accepted
  have range' : IdRange u := by
    unfold IdRange
    rw [outside.id]
    exact range
  have handled : s.Handle_RtspRequest (st.setURI pres stream) (bufferOf q) size = .ok (u.dispatch (st.setURI pres stream)) := by
    unfold CRtspSession.Handle_RtspRequest
    rw [accepted]
    rfl
  have answer := @untruncated_dispatch tm uri (st.setURI pres stream) u range' parts
  rw [outside.cmd] at answer
  constructor
  · rintro ⟨uri', st', t, sent, found', handled', whole⟩ uri'' found''
    cases Option.some.inj (found.symm.trans found')
    cases Option.some.inj (found.symm.trans found'')
    have same := Except.ok.inj (handled.symm.trans handled')
    rw [same] at answer
    exact answer.mp whole
  · intro fits
    exact ⟨uri, _, _, _, found, handled, answer.mpr (fits uri found)⟩

end

/-- A DESCRIBE with a URL of 75 characters. -/
def longDescribe : Bytes :=
  ascii "DESCRIBE rtsp://" ++ List.replicate 53 104 ++ ascii "/presentation/1 RTSP/1.0\r\nCSeq: 2\r\n\r\n"

def longDescriber : CRtspSession := (CRtspSession.create 5).recognised (bufferOf longDescribe)

theorem longDescribe_accepted :
    ∃ u, ParseRtspRequest longDescriber (bufferOf longDescribe) longDescribe.length = .ok (u, true) :=
  parse_verdict (by decide +kernel)

theorem not_answersWhole_long :
    (∃ u, ParseRtspRequest longDescriber (bufferOf longDescribe) longDescribe.length = .ok (u, true)) ∧
      ¬ AnswersWhole ((CStreamer.create ⟨fun _ => true, 2, []⟩).setURI (ascii "presentation") (ascii "1")) longDescriber
        longDescribe longDescribe.length Tm.epoch := by
  refine ⟨longDescribe_accepted, ?_⟩
  rintro ⟨uri, st', t, sent, -, handled, whole⟩
  have answer : (longDescriber.Handle_RtspRequest
      ((CStreamer.create ⟨fun _ => true, 2, []⟩).setURI (ascii "presentation") (ascii "1")) (bufferOf longDescribe)
      longDescribe.length).toOption.map (fun r => r.2.2) =
      some [.describe 2 (List.replicate 53 104) (ascii "presentation") (ascii "1")] := by decide +kernel
  rw [handled] at answer
  have same : sent = [.describe 2 (List.replicate 53 104) (ascii "presentation") (ascii "1")] := Option.some.inj answer
  rw [same] at whole
  have inner := (whole.fits _ (List.mem_singleton_self _)).1
  have fits := inner (printURL (List.replicate 53 104) (ascii "presentation") (ascii "1"))
    (List.mem_cons_of_mem _ (List.mem_singleton_self _))
  exact absurd (printURL_fits.mp fits) (by decide +kernel)

theorem answersWhole_iff_first :
    AnswersWhole ((CStreamer.create ⟨fun _ => true, 2, []⟩).setURI (ascii "live") (ascii "1")) firstDescriber firstDescribe
        firstDescribe.length Tm.epoch ↔
      ∀ uri, uriOf (bufferOf firstDescribe) = some uri → firstDescriber.m_RtspCmdType = .RTSP_DESCRIBE →
        Offered ((CStreamer.create ⟨fun _ => true, 2, []⟩).setURI (ascii "live") (ascii "1")) uri → URLFits uri :=
  answersWhole_iff _ _ _ _ ⟨by decide +kernel, by decide +kernel⟩ firstDescribe_accepted.2

end RtspServer
