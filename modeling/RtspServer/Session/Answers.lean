import RtspServer.Session.Connection
import RtspServer.Session.ParserRelation
import Mathlib.Data.List.Forall2

/-!
# Answers to whole requests

What is too short for its method to be looked for is not answered. Of requests
that come together at most one is.
-/

namespace RtspServer

def Response.status : Response → Nat
  | badRequest _ => 400
  | notFound _ => 404
  | option _ | describe .. | setup .. | play .. => 200

/-- The parser accepts the request in `q`, given its true size. -/
def Accepts (s : CRtspSession) (q : Bytes) : Prop :=
  ∃ s', ParseRtspRequest (s.recognised (bufferOf q)) (bufferOf q) q.length = .ok (s', true)

theorem short_rejected {s s' : CRtspSession} {q : Bytes} {size : Nat} (whole : WholeRequest q) (short : q.length < 6) :
    ParseRtspRequest s (bufferOf q) size ≠ .ok (s', true) := by
  intro accepted
  obtain ⟨⟨s1, cur⟩, line, rest⟩ := bind_ok accepted
  cases cur with
  | none => cases pure_ok rest
  | some cur =>
    obtain ⟨s2, cur2, first, -⟩ := Parse.next_ok line
    obtain ⟨s3, cur3, first, -⟩ := Parse.next_ok first
    obtain ⟨s4, cur4, first, -⟩ := Parse.next_ok first
    obtain ⟨-, front, inside, found, -⟩ := scheme_ok first
    obtain ⟨start, rfl⟩ := whole.ended
    have one : start.length ≤ 1 := by
      rw [List.length_append] at short
      have four : (CRLF ++ CRLF).length = 4 := rfl
      omega
    have only : ∀ d : UInt8, d ∈ bufferOf (start ++ (CRLF ++ CRLF)) → d ≠ NUL → d ≠ CR → d ≠ LF → d ∈ start := by
      intro d member nul cr lf
      rcases List.mem_append.mp member with text | padding
      · rcases List.mem_append.mp text with start | blank
        · exact start
        · simp [cr, lf] at blank
      · rcases List.mem_cons.mp padding with zero | zeros
        · exact absurd zero nul
        · exact absurd (List.eq_of_mem_replicate zeros) nul
    have colon := only 58 (inside.subset (mem_of_strncasecmp (by decide) found (by decide)))
      (by decide) (by decide) (by decide)
    have slash := only SLASH (inside.subset (mem_of_strncasecmp (by decide) found (by decide)))
      (by decide) (by decide) (by decide)
    match start, one with
    | [c], _ =>
      rw [List.mem_singleton] at colon slash
      exact absurd (colon.trans slash.symm) (by decide)

theorem short_unanswered {c : Conn} {q : Bytes} {t : Turn} (whole : WholeRequest q) (live : c.session.m_stopped = false)
    (idle : c.receiver.Idle) (short : q.length < 6) (h : c.read (.data q) = .ok t) : t.sent = [] := by
  have fits : (c.receiver.refresh.received ++ q).length < RTSP_BUFFER_SIZE := by
    rw [refresh_idle idle]
    exact whole.fits
  have found : findMethod c.session ⟨q, .hdrStateUnknown, whole.fits⟩ = (c.session, ⟨q, .hdrStateUnknown, whole.fits⟩) :=
    if_neg fun due => absurd due.2.1 (Nat.not_le_of_lt short)
  unfold Conn.read at h
  rw [handleRequests_data live whole.nonempty fits, append_idle idle fits whole.fits, found] at h
  rcases answer_cases h with ⟨known, -⟩ | ⟨invalid, -⟩ | ⟨st', s', sent, handled, rfl⟩
  · exact absurd rfl known
  · cases invalid
  · rcases Handle_RtspRequest_cases handled with ⟨s1, accepted, -⟩ | ⟨-, -, rfl⟩
    · rw [Receiver.recvBuf_eq] at accepted
      exact absurd accepted (short_rejected whole short)
    · rfl

/-! ### Requests in one read with others -/

def Response.method : Response → RTSP_CMD_TYPES
  | badRequest _ => .RTSP_UNKNOWN
  | option _ => .RTSP_OPTIONS
  | notFound _ | describe .. => .RTSP_DESCRIBE
  | setup .. => .RTSP_SETUP
  | play .. => .RTSP_PLAY

structure Answers (x : Response) (t : RequestText) : Prop where
  method : x.method = t.method
  cseq : t.cseq = some x.cseq.toNat

/-- The requests come in one read, nothing follows, and each is answered in its turn. -/
def ServedInOrder (c : Conn) (ts : List RequestText) : Prop :=
  ∃ n c' sent, c.run (.data (ts.flatMap RequestText.bytes) :: List.replicate n .timeout) = .ok (c', sent) ∧
    List.Forall₂ Answers sent ts

theorem run_timeouts {c c' : Conn} {n : Nat} {sent : List Response}
    (h : c.run (List.replicate n .timeout) = .ok (c', sent)) : sent = [] := by
  induction n generalizing c c' sent with
  | zero => exact (Prod.mk.inj (pure_ok h)).2.symm
  | succ n ih =>
    obtain ⟨t, turn, h⟩ := bind_ok h
    obtain ⟨⟨c1, later⟩, rest, h⟩ := bind_ok h
    rw [Conn.read, handleRequests_timeout] at turn
    rw [← (Prod.mk.inj (pure_ok h)).2, ih rest, ← Except.ok.inj turn]
    rfl

theorem run_sent_le {c c' : Conn} {n : Nat} {read : SocketRead} {sent : List Response}
    (h : c.run (read :: List.replicate n .timeout) = .ok (c', sent)) : sent.length ≤ 1 := by
  obtain ⟨t, turn, h⟩ := bind_ok h
  obtain ⟨⟨c1, later⟩, rest, h⟩ := bind_ok h
  rw [← (Prod.mk.inj (pure_ok h)).2, run_timeouts rest, List.append_nil]
  exact handleRequests_sent_le turn

/-- Two or more requests in one read are never all served. -/
theorem not_servedInOrder (c : Conn) (ts : List RequestText) (two : 2 ≤ ts.length) : ¬ ServedInOrder c ts := by
  rintro ⟨n, c', sent, run, each⟩
  have one := run_sent_le run
  have length := each.length_eq
  omega

theorem not_servedInOrder_twice :
    2 ≤ [optionRequest, optionRequest].length ∧
      ¬ ServedInOrder (Conn.fresh ⟨fun _ => true, 2, []⟩ 5) [optionRequest, optionRequest] :=
  ⟨by decide, not_servedInOrder _ _ (by decide)⟩

/-- Two OPTIONS requests of 42 bytes each. -/
theorem not_servedInOrder_options :
    (optionRequest.method = .RTSP_OPTIONS ∧ optionRequest.cseq = some 2 ∧ optionRequest.bytes.length = 42) ∧
      ¬ ServedInOrder (Conn.fresh ⟨fun _ => true, 2, []⟩ 5) [optionRequest, optionRequest] := by
  refine ⟨by decide, ?_⟩
  rintro ⟨n, c', sent, run, each⟩
  have one := run_sent_le run
  rw [each.length_eq] at one
  exact absurd one (by decide)

end RtspServer
