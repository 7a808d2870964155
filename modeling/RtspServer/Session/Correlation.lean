import RtspServer.Base.Runs
import RtspServer.Base.Decimal
import RtspServer.Session.HeaderLoop
import RtspServer.Session.Answers

/-!
# Responses and their requests

`m_CSeq` is the number of the current request from the moment the parser has
accepted it. The answer to a method that is not recognised is sent without a
parse, and an accepted request may have no `CSeq` header at all.
-/

namespace RtspServer

/-- A session with the requests it was sent and what it sent for each, the newest first. -/
structure Exchange where
  conn : Conn
  trace : List (RequestText × List Response)

/-- The next request, in one read. -/
def Exchange.step (x : Exchange) (t : RequestText) : Run Exchange := do
  let turn ← x.conn.read (.data t.bytes)
  return ⟨turn.conn, (t, turn.sent) :: x.trace⟩

/-- The values of the `CSeq` headers. -/
def RequestText.cseqs (t : RequestText) : List Nat :=
  (t.headers.filter fun l => CSEQ <+: l.bytes).map fun l => digitsValue (numberOf CSEQ l.bytes)

/-- `x` has the number of its request `t`, or none of an earlier one if `t` has none. -/
def OwnNumber (earlier : List RequestText) (t : RequestText) (x : Response) : Prop :=
  (t.cseqs ≠ [] → x.cseq.toNat ∈ t.cseqs) ∧ (t.cseqs = [] → ∀ t' ∈ earlier, x.cseq.toNat ∉ t'.cseqs)

def Correlated : List (RequestText × List Response) → Prop
  | [] => True
  | (t, sent) :: trace => (∀ x ∈ sent, OwnNumber (trace.map Prod.fst) t x) ∧ Correlated trace

/-- A request that fits the buffer, with numbers below 2^31. -/
structure WellNumbered (t : RequestText) : Prop where
  fits : t.bytes.length < RTSP_BUFFER_SIZE
  number : ∀ n ∈ t.cseqs, n < 2 ^ 31

/-- The request has a known method and a `CSeq` header, or it is not answered. -/
def Correlatable (c : Conn) (t : RequestText) : Prop :=
  (t.method ≠ .RTSP_UNKNOWN ∧ t.cseqs ≠ []) ∨ t.bytes.length < 6 ∨ t.method = .RTSP_TEARDOWN ∨
    (t.method ≠ .RTSP_UNKNOWN ∧ ¬ Accepts c.session t.bytes)

/-! ### The number of a request -/

theorem foldl_headers (headers : List Line) (n : UInt32) :
    ((headers.map Line.bytes).foldl cseqAfter n = n ∧ ∀ l ∈ headers, ¬ CSEQ <+: l.bytes) ∨
      ∃ l ∈ headers, CSEQ <+: l.bytes ∧
        (headers.map Line.bytes).foldl cseqAfter n = UInt32.ofInt (atoi (RequestText.numberOf CSEQ l.bytes)) := by
  induction headers generalizing n with
  | nil => exact .inl ⟨rfl, fun l member => absurd member List.not_mem_nil⟩
  | cons l headers ih =>
    rw [List.map_cons, List.foldl_cons]
    rcases ih (cseqAfter n l.bytes) with ⟨same, none⟩ | ⟨m, member, found, last⟩
    · by_cases found : CSEQ <+: l.bytes
      · -- The first header is the last `CSeq` header.
        exact .inr ⟨l, List.mem_cons_self, found, by rw [same, cseqAfter, if_pos found]⟩
      · exact .inl ⟨by rw [same, cseqAfter, if_neg found], List.forall_mem_cons.mpr ⟨found, none⟩⟩
    · exact .inr ⟨m, List.mem_cons_of_mem l member, found, last⟩

theorem mem_cseqs {t : RequestText} {l : Line} (member : l ∈ t.headers) (found : CSEQ <+: l.bytes) :
    digitsValue (RequestText.numberOf CSEQ l.bytes) ∈ t.cseqs :=
  List.mem_map.mpr ⟨l, List.mem_filter.mpr ⟨member, by simpa using found⟩, rfl⟩

theorem cseq_of_numbered {t : RequestText} {m : UInt32} (numbered : WellNumbered t) (has : t.cseqs ≠ []) :
    (t.block.foldl cseqAfter m).toNat ∈ t.cseqs := by
  have blank : ∀ n : UInt32, cseqAfter n [] = n := fun n => rfl
  rw [RequestText.block, List.foldl_append, List.foldl_cons, List.foldl_nil, blank]
  rcases foldl_headers t.headers m with ⟨-, none⟩ | ⟨l, member, found, last⟩
  · have empty : t.headers.filter (fun l => CSEQ <+: l.bytes) = [] := by simpa using none
    exact absurd (by rw [RequestText.cseqs, empty, List.map_nil]) has
  · have inside := mem_cseqs member found
    rw [last, atoi_small (numbered.number _ inside)]
    exact inside

/-! ### A request -/

theorem dispatch_cseq (st : CStreamer) (s : CRtspSession) : ∀ x ∈ (s.dispatch st).2.2, x.cseq = s.m_CSeq := by
  intro x member
  unfold CRtspSession.dispatch at member
  cases cmd : s.m_RtspCmdType <;> rw [cmd] at member
  case RTSP_OPTIONS => rw [List.mem_singleton.mp member]; rfl
  case RTSP_DESCRIBE =>
    have sent : x ∈ (s.Handle_RtspDESCRIBE st).2 := member
    unfold CRtspSession.Handle_RtspDESCRIBE at sent
    dsimp only at sent
    split at sent <;> (rw [List.mem_singleton.mp sent]; rfl)
  case RTSP_SETUP => rw [List.mem_singleton.mp member]; rfl
  case RTSP_PLAY => rw [List.mem_singleton.mp member]; rfl
  case RTSP_TEARDOWN => exact absurd member List.not_mem_nil
  case RTSP_UNKNOWN => exact absurd member List.not_mem_nil

theorem stopped_unanswered {c : Conn} {read : SocketRead} {turn : Turn} (stopped : c.session.m_stopped = true)
    (h : c.read read = .ok turn) : turn.sent = [] := by
  unfold Conn.read at h
  rw [handleRequests_stopped stopped] at h
  cases h
  rfl

theorem read_correlated {c : Conn} {t : RequestText} {turn : Turn} (idle : c.receiver.Idle) (numbered : WellNumbered t)
    (meets : Correlatable c t) (h : c.read (.data t.bytes) = .ok turn) : ∀ x ∈ turn.sent, x.cseq.toNat ∈ t.cseqs := by
  have whole := RequestText.whole numbered.fits
  by_cases stopped : c.session.m_stopped = true
  · rw [stopped_unanswered stopped h]
    exact fun x member => absurd member List.not_mem_nil
  have live : c.session.m_stopped = false := by simpa using stopped
  by_cases long : 6 ≤ t.bytes.length
  swap
  · rw [short_unanswered whole live idle (Nat.lt_of_not_le long) h]
    exact fun x member => absurd member List.not_mem_nil
  have known : t.method ≠ .RTSP_UNKNOWN := by
    rcases meets with ⟨known, -⟩ | short | teardown | ⟨known, -⟩
    · exact known
    · omega
    · rw [teardown]; decide
    · exact known
  unfold Conn.read at h
  rw [handleRequests_whole whole live idle long, recognise_text, if_neg known] at h
  obtain ⟨⟨st', s', sent⟩, handled, rest⟩ := bind_ok h
  rw [← pure_ok rest]
  intro x member
  rcases Handle_RtspRequest_cases handled with ⟨s1, accepted, same⟩ | ⟨-, -, rfl⟩
  · have sent' : x ∈ (s1.dispatch c.streamer).2.2 := by rw [← same]; exact member
    have cmd : s1.m_RtspCmdType = t.method :=
      (ParseRtspRequest_outside accepted).cmd.trans (recognise_text t)
    have answered : t.cseqs ≠ [] := by
      rcases meets with ⟨-, has⟩ | short | teardown | ⟨-, rejected⟩
      · exact has
      · omega
      · -- A `TEARDOWN` is not answered.
        have count := dispatch_sent c.streamer s1
        rw [if_pos (.inl (cmd.trans teardown))] at count
        rw [List.eq_nil_of_length_eq_zero count] at sent'
        exact absurd sent' List.not_mem_nil
      · exact absurd ⟨s1, accepted⟩ rejected
    rw [dispatch_cseq c.streamer s1 x sent', ParseRtspRequest_cseq known accepted]
    exact cseq_of_numbered numbered answered
  · exact absurd member List.not_mem_nil

theorem ownNumber_of_mem {earlier : List RequestText} {t : RequestText} {x : Response}
    (h : x.cseq.toNat ∈ t.cseqs) : OwnNumber earlier t x :=
  ⟨fun _ => h, fun none => absurd (none ▸ h) List.not_mem_nil⟩

/-- Between two requests: no part of a request is held, and all responses so far are correlated. -/
def Exchange.Settled (x : Exchange) : Prop :=
  x.conn.receiver.Idle ∧ Correlated x.trace

theorem correlated_step {x y : Exchange} {t : RequestText} (numbered : WellNumbered t) (settled : x.Settled)
    (meets : Correlatable x.conn t) (taken : x.step t = .ok y) : y.Settled := by
  obtain ⟨turn, read, rest⟩ := bind_ok taken
  cases pure_ok rest
  obtain ⟨idle, earlier⟩ := settled
  refine ⟨read_whole_idle (RequestText.whole numbered.fits) idle read, ?_, earlier⟩
  intro answer member
  exact ownNumber_of_mem (read_correlated idle numbered meets read answer member)

/-- In a run whose requests all have a known method and a `CSeq` header, or are not
answered, every response has the number of its own request. -/
theorem serve_correlated (c : Conn) (ts : List RequestText) (y : Exchange) (idle : c.receiver.Idle)
    (numbered : ∀ t ∈ ts, WellNumbered t)
    (meets : Runs.EachStep Exchange.step (fun x t => Correlatable x.conn t) ts ⟨c, []⟩)
    (run : Runs.run Exchange.step ts ⟨c, []⟩ = .ok y) : Correlated y.trace :=
  have start : (⟨c, []⟩ : Exchange).Settled := ⟨idle, trivial⟩
  (Runs.run_keeps correlated_step numbered start meets run).2

theorem serve_correlated_option :
    let start : Exchange := ⟨Conn.fresh ⟨fun _ => true, 2, []⟩ 5, []⟩
    (WellNumbered optionRequest ∧ Runs.EachStep Exchange.step (fun x t => Correlatable x.conn t) [optionRequest] start) ∧
      ∃ y, Runs.run Exchange.step [optionRequest] start = .ok y ∧ y.trace = [(optionRequest, [.option 2])] ∧
        Correlated y.trace := by
  intro start
  have numbered : WellNumbered optionRequest := ⟨by decide, by decide⟩
  have meets : Runs.EachStep Exchange.step (fun x t => Correlatable x.conn t) [optionRequest] start :=
    fun y _ => ⟨.inl ⟨by decide, by decide⟩, trivial⟩
  have facts : (Runs.run Exchange.step [optionRequest] start).toOption.map Exchange.trace =
      some [(optionRequest, [.option 2])] := by decide +kernel
  obtain ⟨y, run, trace⟩ := Runs.run_ends facts
  have all : ∀ t ∈ [optionRequest], WellNumbered t := by
    intro t member
    rw [List.mem_singleton.mp member]
    exact numbered
  exact ⟨⟨numbered, meets⟩, y, run, trace, serve_correlated _ _ y (.inl rfl) all meets run⟩

/-- The answer to an unknown method has the number of the request before it. -/
theorem not_correlated_unknown :
    let start : Exchange := ⟨Conn.fresh ⟨fun _ => true, 2, []⟩ 5, []⟩
    WellNumbered optionRequest ∧ WellNumbered unknownRequest ∧ unknownRequest.cseqs = [9] ∧
      ∃ y, Runs.run Exchange.step [optionRequest, unknownRequest] start = .ok y ∧
        y.trace = [(unknownRequest, [.badRequest 2]), (optionRequest, [.option 2])] ∧ ¬ Correlated y.trace := by
  intro start
  have facts : (Runs.run Exchange.step [optionRequest, unknownRequest] start).toOption.map Exchange.trace =
      some [(unknownRequest, [.badRequest 2]), (optionRequest, [.option 2])] := by decide +kernel
  obtain ⟨y, run, trace⟩ := Runs.run_ends facts
  refine ⟨⟨by decide, by decide⟩, ⟨by decide, by decide⟩, by decide, y, run, trace, ?_⟩
  rw [trace]
  intro correlated
  have own : OwnNumber [optionRequest] unknownRequest (.badRequest 2) := correlated.1 _ List.mem_cons_self
  exact absurd (own.1 (by decide)) (by decide)

end RtspServer
