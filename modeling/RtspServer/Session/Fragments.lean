import RtspServer.Session.HeaderLoop

/-!
# Requests in several reads

A request cut into reads is handled as in one read when the first read brings
its first line, and the last read is so long that its length reaches behind the
numbers of the request: that length is what the parser takes for the size.
-/

namespace RtspServer

/-- The parser gets to the headers of the request. -/
def LineAccepted (s : CRtspSession) (t : RequestText) : Prop :=
  ∃ s' cur, requestLine s.newCommandInit (bufferOf t.bytes) = .ok (s', some cur)

/-- The first read brings a line, and the length of the last one, counted from the
start of the request, reaches behind every number the parser can read. -/
def CutSafely (s : CRtspSession) (t : RequestText) (chunks : List Bytes) : Prop :=
  s.m_stopped = true ∨ chunks.length = 1 ∨ ∃ first rest, chunks = first :: rest ∧ 6 ≤ first.length ∧ CRLF <:+: first ∧
    (t.method ≠ .RTSP_UNKNOWN → LineAccepted (s.recognised (bufferOf t.bytes)) t →
      NumbersBefore (chunks.getLast?.getD []).length t)

variable {t : RequestText} {st : CStreamer} {s : CRtspSession} {state : HdrState} {p k : Bytes}

/-! ### Parts of a request -/

theorem part_not_ended {back : Bytes} (whole : t.bytes = p ++ back) (more : back ≠ []) : ¬ CRLF ++ CRLF <:+ p := by
  intro ended
  obtain ⟨front, rfl⟩ := ended
  have text : linesText ((t.line :: t.headers).map Line.bytes ++ [[]]) = front ++ (CRLF ++ (CRLF ++ back)) := by
    show t.bytes = _
    rw [whole]
    simp only [List.append_assoc]
  exact more (blank_line_last t.line text)

theorem part_line {back : Bytes} (whole : t.bytes = p ++ back) (crlf : CRLF <:+: p) :
    ∃ rest, p = t.line.bytes ++ CRLF ++ rest := by
  obtain ⟨a, b, rfl⟩ := crlf
  have same : t.line.bytes ++ (CRLF ++ linesText t.block) = a ++ (CRLF ++ (b ++ back)) := by
    rw [← List.append_assoc, ← RequestText.bytes, whole]
    simp only [List.append_assoc]
  rcases crlf_split t.line.plain same with ⟨rfl, -⟩ | ⟨gap, rfl, -⟩
  · exact ⟨b, rfl⟩
  · exact ⟨gap ++ CRLF ++ b, by simp only [List.append_assoc]⟩

theorem part_clean {back : Bytes} (whole : t.bytes = p ++ back) : NUL ∉ p := by
  intro member
  apply t.clean
  rw [whole]
  exact List.mem_append_left back member

/-! ### One read of a part -/

/-- The end of a request whose method was looked for: `size` is the length of the last read. -/
def finish (st : CStreamer) (s : CRtspSession) (state : HdrState) (buf : Bytes) (size : Nat) :
    Run (Conn × List Response) :=
  if state = .hdrStateInvalid then return (⟨st, s, { Receiver.empty with state }⟩, [.badRequest s.m_CSeq])
  else do
    let (st, s, sent) ← s.Handle_RtspRequest st buf size
    return (⟨st, s.markCommand, Receiver.empty⟩, sent)

/-- The state once the first line is there. -/
def stateOf (t : RequestText) : HdrState :=
  if t.method ≠ .RTSP_UNKNOWN then .hdrStateGotMethod else .hdrStateInvalid

theorem stateOf_found (t : RequestText) : stateOf t ≠ .hdrStateUnknown := by
  unfold stateOf
  split <;> exact HdrState.noConfusion

theorem flatten_nonempty {chunks : List Bytes} (some : chunks ≠ []) (nonempty : ∀ k ∈ chunks, k ≠ []) :
    chunks.flatten ≠ [] := by
  intro none
  obtain ⟨k, member⟩ := List.exists_mem_of_ne_nil chunks some
  exact nonempty k member (List.flatten_eq_nil_iff.mp none k member)

theorem findMethod_known {r : Receiver} (known : r.state ≠ .hdrStateUnknown) : findMethod s r = (s, r) :=
  if_neg fun due => known due.1

theorem refresh_held {r : Receiver} (held : r.received ≠ []) (room : r.received.length < 499) : r.refresh = r := by
  apply if_neg
  rintro (empty | full)
  · exact held (List.eq_nil_of_length_eq_zero empty)
  · unfold Receiver.bufPos RTSP_BUFFER_SIZE at full
    omega

theorem read_first {r : Receiver} {back : Bytes} (st : CStreamer) (live : s.m_stopped = false) (idle : r.Idle)
    (whole : t.bytes = k ++ back) (fits : k.length < RTSP_BUFFER_SIZE) (long : 6 ≤ k.length) (crlf : CRLF <:+: k)
    (more : back ≠ []) :
    s.handleRequests st r (.data k) = .ok ⟨st, s.recognised (bufferOf t.bytes), ⟨k, stateOf t, fits⟩, [], true⟩ := by
  have clean := part_clean whole
  have nonempty : k ≠ [] := by
    rintro rfl
    exact absurd long (by decide)
  have room : (r.refresh.received ++ k).length < RTSP_BUFFER_SIZE := by
    rw [refresh_idle idle]
    exact fits
  -- The first line is all that `recognise` looks at.
  have known : recognise (bufferOf k) = t.method := by
    obtain ⟨rest, same⟩ := part_line whole crlf
    rw [bufferOf, same, List.append_assoc (t.line.bytes ++ CRLF)]
    exact recognise_line t.line _
  have found : findMethod s ⟨k, .hdrStateUnknown, fits⟩ = (s.recognised (bufferOf t.bytes), ⟨k, stateOf t, fits⟩) := by
    unfold findMethod CRtspSession.recognised stateOf
    rw [if_pos ⟨rfl, long, (Receiver.strstr_recvBuf clean CRLF).mpr crlf⟩, Receiver.recvBuf_eq, recognise_text]
    dsimp only
    rw [known]
  rw [handleRequests_data live nonempty room, append_idle idle room fits, found]
  exact if_pos ⟨stateOf_found t, fun ended => part_not_ended whole more ((endOfHeader_iff clean).mp ended)⟩

theorem read_middle {back : Bytes} (st : CStreamer) (held : p.length < RTSP_BUFFER_SIZE) (live : s.m_stopped = false)
    (some : state ≠ .hdrStateUnknown) (begun : p ≠ []) (nonempty : k ≠ []) (whole : t.bytes = p ++ k ++ back)
    (fits : t.bytes.length < RTSP_BUFFER_SIZE) (more : back ≠ []) :
    ∃ held', s.handleRequests st ⟨p, state, held⟩ (.data k) = .ok ⟨st, s, ⟨p ++ k, state, held'⟩, [], true⟩ := by
  have clean := part_clean whole
  have length := congrArg List.length whole
  have pos := List.length_pos_of_ne_nil more
  simp only [List.length_append] at length
  unfold RTSP_BUFFER_SIZE at fits
  have same : Receiver.refresh ⟨p, state, held⟩ = ⟨p, state, held⟩ := refresh_held begun (by show p.length < 499; omega)
  have room : (p ++ k).length < RTSP_BUFFER_SIZE := by
    rw [List.length_append]
    unfold RTSP_BUFFER_SIZE
    omega
  refine ⟨room, ?_⟩
  rw [handleRequests_data live nonempty (by rw [same]; exact room)]
  simp only [same, Receiver.append]
  rw [findMethod_known some]
  exact if_pos ⟨some, fun ended => part_not_ended whole more ((endOfHeader_iff clean).mp ended)⟩

theorem read_last {held : p.length < RTSP_BUFFER_SIZE} (live : s.m_stopped = false) (some : state ≠ .hdrStateUnknown)
    (begun : p ≠ []) (nonempty : k ≠ []) (whole : t.bytes = p ++ k) (fits : t.bytes.length < RTSP_BUFFER_SIZE) :
    Conn.run [.data k] ⟨st, s, ⟨p, state, held⟩⟩ = finish st s state (bufferOf t.bytes) k.length := by
  have length := congrArg List.length whole
  have pos := List.length_pos_of_ne_nil nonempty
  simp only [List.length_append] at length
  have room : (p ++ k).length < RTSP_BUFFER_SIZE := by rwa [whole] at fits
  unfold RTSP_BUFFER_SIZE at fits
  have same : Receiver.refresh ⟨p, state, held⟩ = ⟨p, state, held⟩ := refresh_held begun (by show p.length < 499; omega)
  have clean : NUL ∉ p ++ k := by rw [← whole]; exact t.clean
  have blank : CRLF ++ CRLF <:+ p ++ k := by rw [← whole]; exact t.ended
  have ended : endOfHeader ⟨p ++ k, state, room⟩ := (endOfHeader_iff clean).mpr blank
  rw [Conn.run, Conn.read, handleRequests_data live nonempty (by rw [same]; exact room)]
  simp only [same, Receiver.append]
  rw [findMethod_known some]
  unfold answer finish
  rw [if_neg (fun waiting => waiting.2 ended)]
  by_cases invalid : state = .hdrStateInvalid
  · rw [if_pos invalid, if_pos invalid]
    rfl
  · rw [if_neg invalid, if_neg invalid, Receiver.recvBuf_eq, whole]
    dsimp only
    cases s.Handle_RtspRequest st (bufferOf (p ++ k)) k.length with
    | error e => rfl
    | ok result =>
      show Except.ok _ = Except.ok _
      simp only [Turn.conn, List.append_nil]

/-! ### A request in any reads -/

theorem run_later {chunks : List Bytes} (st : CStreamer) (held : p.length < RTSP_BUFFER_SIZE) (live : s.m_stopped = false)
    (some : state ≠ .hdrStateUnknown) (begun : p ≠ []) (nonempty : ∀ k ∈ chunks, k ≠ []) (later : chunks ≠ [])
    (whole : t.bytes = p ++ chunks.flatten) (fits : t.bytes.length < RTSP_BUFFER_SIZE) :
    Conn.run (chunks.map .data) ⟨st, s, ⟨p, state, held⟩⟩ =
      finish st s state (bufferOf t.bytes) (chunks.getLast later).length := by
  induction chunks generalizing p with
  | nil => exact absurd rfl later
  | cons k chunks ih =>
    have first := nonempty k List.mem_cons_self
    by_cases last : chunks = []
    · subst last
      rw [List.flatten_cons, List.flatten_nil, List.append_nil] at whole
      exact read_last live some begun first whole fits
    · have rest : ∀ j ∈ chunks, j ≠ [] := fun j member => nonempty j (List.mem_cons_of_mem k member)
      have more := flatten_nonempty last rest
      have parts : t.bytes = p ++ k ++ chunks.flatten := by rw [whole, List.flatten_cons, List.append_assoc]
      obtain ⟨held', read⟩ := read_middle st held live some begun first parts fits more
      have held'' : p ++ k ≠ [] := fun none => begun (List.append_eq_nil_iff.mp none).1
      have tail := ih held' held'' rest last parts
      rw [List.map_cons, Conn.run, Conn.read, read, List.getLast_cons last, ← tail]
      show Conn.run (chunks.map .data) ⟨st, s, ⟨p ++ k, state, held'⟩⟩ >>= _ = _
      cases Conn.run (chunks.map .data) ⟨st, s, ⟨p ++ k, state, held'⟩⟩ <;> rfl

theorem run_whole {r : Receiver} (live : s.m_stopped = false) (idle : r.Idle) (long : 6 ≤ t.bytes.length)
    (fits : t.bytes.length < RTSP_BUFFER_SIZE) :
    Conn.run [.data t.bytes] ⟨st, s, r⟩ =
      finish st (s.recognised (bufferOf t.bytes)) (stateOf t) (bufferOf t.bytes) t.bytes.length := by
  rw [Conn.run, Conn.read, handleRequests_whole (RequestText.whole fits) live idle long, recognise_text]
  unfold finish stateOf
  by_cases unknown : t.method = .RTSP_UNKNOWN
  · rw [if_pos unknown, if_neg (not_not.mpr unknown), if_pos rfl]
    rfl
  · rw [if_neg unknown, if_pos unknown, if_neg HdrState.noConfusion]
    cases (s.recognised (bufferOf t.bytes)).Handle_RtspRequest st (bufferOf t.bytes) t.bytes.length with
    | error e => rfl
    | ok result =>
      show Except.ok _ = Except.ok _
      simp only [Turn.conn, List.append_nil]

/-- The size does not matter for a method that is not recognised, for a request line
that is not accepted, and when it reaches behind the numbers. -/
theorem finish_sizes (size : Nat) (fit : t.method ≠ .RTSP_UNKNOWN → LineAccepted s t → NumbersBefore size t) :
    finish st s (stateOf t) (bufferOf t.bytes) size = finish st s (stateOf t) (bufferOf t.bytes) t.bytes.length := by
  unfold finish stateOf
  by_cases unknown : t.method = .RTSP_UNKNOWN
  · rw [if_neg (not_not.mpr unknown), if_pos rfl, if_pos rfl]
  · have same : ParseRtspRequest s (bufferOf t.bytes) size = ParseRtspRequest s (bufferOf t.bytes) t.bytes.length := by
      by_cases accepted : LineAccepted s t
      · exact ParseRtspRequest_sizes unknown (allFit_of_numbersBefore (fit unknown accepted)) (allFit_whole t)
      · unfold ParseRtspRequest
        cases line : requestLine s.newCommandInit (bufferOf t.bytes) with
        | error e => rfl
        | ok result =>
          obtain ⟨s', cur⟩ := result
          cases cur with
          | none => rfl
          | some cur => exact absurd ⟨s', cur, line⟩ accepted
    rw [if_pos unknown, if_neg HdrState.noConfusion, if_neg HdrState.noConfusion]
    unfold CRtspSession.Handle_RtspRequest
    rw [same]

theorem run_stopped (c : Conn) (stopped : c.session.m_stopped = true) (reads : List SocketRead) :
    c.run reads = .ok (c, []) := by
  induction reads with
  | nil => rfl
  | cons read reads ih =>
    have silent : c.read read = .ok ⟨c.streamer, c.session, c.receiver, [], false⟩ := handleRequests_stopped stopped
    rw [Conn.run, silent]
    show Conn.run reads c >>= _ = _
    rw [ih]
    rfl

/-- Cut as the condition says, a request is handled as in one read. -/
theorem run_chunks (c : Conn) (t : RequestText) (chunks : List Bytes) (idle : c.receiver.Idle)
    (fits : t.bytes.length < RTSP_BUFFER_SIZE) (nonempty : ∀ k ∈ chunks, k ≠ []) (cut : chunks.flatten = t.bytes)
    (safe : CutSafely c.session t chunks) : c.run (chunks.map .data) = c.run [.data t.bytes] := by
  obtain ⟨st, s, r⟩ := c
  rcases safe with stopped | one | ⟨first, rest, rfl, long, crlf, numbers⟩
  · rw [run_stopped _ stopped, run_stopped _ stopped]
  · obtain ⟨k, rfl⟩ := List.length_eq_one_iff.mp one
    rw [List.flatten_cons, List.flatten_nil, List.append_nil] at cut
    rw [cut]
    rfl
  by_cases stopped : s.m_stopped = true
  · rw [run_stopped _ stopped, run_stopped _ stopped]
  have live : s.m_stopped = false := by simpa using stopped
  by_cases last : rest = []
  · subst last
    rw [List.flatten_cons, List.flatten_nil, List.append_nil] at cut
    rw [← cut]
    rfl
  have later : ∀ k ∈ rest, k ≠ [] := fun k member => nonempty k (List.mem_cons_of_mem first member)
  have more := flatten_nonempty last later
  have parts : t.bytes = first ++ rest.flatten := cut.symm
  have length := congrArg List.length parts
  rw [List.length_append] at length
  have held : first.length < RTSP_BUFFER_SIZE := Nat.lt_of_le_of_lt (by omega) fits
  have start := read_first st live idle parts held long crlf more
  have live' : (s.recognised (bufferOf t.bytes)).m_stopped = false := live
  have final := run_later st held live' (stateOf_found t)
    (nonempty first List.mem_cons_self) later last parts fits
  rw [run_whole live idle (by omega) fits, List.map_cons, Conn.run, Conn.read, start]
  have size : (rest.getLast last).length = ((first :: rest).getLast?.getD []).length := by
    rw [List.getLast?_cons, Option.getD_some, List.getLast?_eq_some_getLast last, Option.getD_some]
  rw [← finish_sizes (rest.getLast last).length (by rw [size]; exact numbers), ← final]
  show Conn.run (rest.map .data) ⟨st, s.recognised (bufferOf t.bytes), ⟨first, stateOf t, held⟩⟩ >>= _ = _
  cases Conn.run (rest.map .data) ⟨st, s.recognised (bufferOf t.bytes), ⟨first, stateOf t, held⟩⟩ <;> rfl


def agentRequest : RequestText :=
  ⟨optionRequest.line, optionRequest.headers ++
    [⟨ascii "User-Agent: LibVLC/3.0.20 (LIVE555 Streaming)", by decide, by decide +kernel⟩]⟩

theorem agent_numbersBefore : NumbersBefore 58 agentRequest := by
  intro pre l post split name listed found digits
  match pre, split with
  | [], split =>
    obtain ⟨rfl, -⟩ := List.cons.inj split
    simp only [List.mem_cons, List.not_mem_nil, or_false] at listed
    rcases listed with rfl | rfl
    · decide
    · exact absurd found (by decide)
  | [_], split =>
    obtain ⟨rfl, -⟩ := List.cons.inj (List.cons.inj split).2
    simp only [List.mem_cons, List.not_mem_nil, or_false] at listed
    rcases listed with rfl | rfl <;> exact absurd found (by decide)
  | _ :: _ :: pre, split =>
    have none := (List.cons.inj (List.cons.inj split).2).2
    exact absurd none.symm (by simp)

theorem run_chunks_agent :
    let c := Conn.fresh ⟨fun _ => true, 2, []⟩ 5
    let chunks := [agentRequest.bytes.take 31, agentRequest.bytes.drop 31]
    (c.receiver.Idle ∧ agentRequest.bytes.length < RTSP_BUFFER_SIZE ∧ (∀ k ∈ chunks, k ≠ []) ∧
        chunks.flatten = agentRequest.bytes ∧ CutSafely c.session agentRequest chunks) ∧
      c.run (chunks.map .data) = c.run [.data agentRequest.bytes] := by
  have idle : (Conn.fresh ⟨fun _ => true, 2, []⟩ 5).receiver.Idle := .inl rfl
  have safe : CutSafely (Conn.fresh ⟨fun _ => true, 2, []⟩ 5).session agentRequest
      [agentRequest.bytes.take 31, agentRequest.bytes.drop 31] :=
    .inr (.inr ⟨_, _, rfl, by decide, by decide, fun _ _ => agent_numbersBefore⟩)
  exact ⟨⟨idle, by decide, by decide, by decide, safe⟩,
    run_chunks _ agentRequest _ idle (by decide) (by decide) (by decide) safe⟩

/-- Cut behind its request line, an OPTIONS request is not answered. -/
theorem not_run_chunks_option :
    let c := Conn.fresh ⟨fun _ => true, 2, []⟩ 5
    let chunks := [optionRequest.bytes.take 31, optionRequest.bytes.drop 31]
    (c.receiver.Idle ∧ optionRequest.bytes.length < RTSP_BUFFER_SIZE ∧ (∀ k ∈ chunks, k ≠ []) ∧
        chunks.flatten = optionRequest.bytes) ∧ c.run (chunks.map .data) ≠ c.run [.data optionRequest.bytes] := by
  intro c chunks
  refine ⟨by decide, ?_⟩
  intro same
  have parts : (c.run (chunks.map .data)).toOption.map Prod.snd = some [] := by decide +kernel
  have whole : (c.run [.data optionRequest.bytes]).toOption.map Prod.snd = some [.option 2] := by decide +kernel
  rw [same, whole] at parts
  exact absurd parts (by decide)

end RtspServer
