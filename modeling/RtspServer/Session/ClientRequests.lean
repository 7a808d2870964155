import RtspServer.Session.ClientPorts
import RtspServer.Session.Folding

/-!
# The requests of a client

A request with the `Transport` header that a SETUP needs, folded or not, anywhere
among its headers, and what is left of it behind the parser: the message.
-/

namespace RtspServer

/-- The transport a SETUP asks for. -/
inductive Asked where
  | tcp
  | udp (port : UInt16)
  deriving DecidableEq

/-- The port RTP packets are to go to. -/
def Asked.port : Asked → UInt16
  | tcp => 0
  | udp port => port

/-- The numbers of its `client_port` parameters. -/
def Asked.ports : Asked → List Bytes
  | tcp => []
  | udp port => [decimal port.toNat]

/-- A `Transport` header with what it asks for: one `client_port` over UDP, none over TCP. -/
structure TransportHeader extends FoldedTransport where
  asked : Asked
  protocol : m_TcpTransport = decide (asked = .tcp)
  ports : (parameters.flatMap fun p => (clientPort p.text).toList) = asked.ports

def Method.command : Method → RTSP_CMD_TYPES
  | OPTIONS => .RTSP_OPTIONS
  | DESCRIBE => .RTSP_DESCRIBE
  | SETUP => .RTSP_SETUP
  | PLAY => .RTSP_PLAY
  | TEARDOWN => .RTSP_TEARDOWN

/-- The text of `r` with a `Transport` header between its headers. -/
def requestWith (r : Rendering) (before : List Header) (transport : Option TransportHeader) (after : List Header) : Bytes :=
  r.front ++ (linesText (before.map Header.text) ++
    (transport.elim [] (fun h => h.folded ++ CRLF) ++ linesText (after.map Header.text ++ [[]])))

/-- A request that fits the buffer. A SETUP has its `Transport` header; other methods may have one. -/
structure ClientRequest extends Rendering where
  before : List Header
  transport : Option TransportHeader
  after : List Header
  split : headers = before ++ after
  needed : method = .SETUP → transport.isSome
  fits : (requestWith toRendering before transport after).length < RTSP_BUFFER_SIZE

namespace ClientRequest

def bytes (q : ClientRequest) : Bytes := requestWith q.toRendering q.before q.transport q.after

/-- The transport the server is to set up. -/
def asked (q : ClientRequest) : Option Asked := if q.method = .SETUP then q.transport.map TransportHeader.asked else none

end ClientRequest

/-- What the `Transport` header of a SETUP leaves in the session. -/
def CRtspSession.asks (s : CRtspSession) : Option Asked → CRtspSession
  | none => s
  | some .tcp => { s with m_TcpTransport := true, m_ClientRTPPort := 0 }
  | some (.udp port) => { s with m_TcpTransport := false, m_ClientRTPPort := port, m_ClientRTCPPort := port + 1 }

/-! ### The text of a request -/

theorem Rendering.front_text (r : Rendering) : NUL ∉ r.front ∧ CRLF <:+ r.front := by
  have part {least most : Nat} (p : UriPart least most) : NUL ∉ p.chars := fun member => by
    exact absurd (p.printable NUL member).1 (by decide)
  have slashes (k : Nat) : NUL ∉ List.replicate k SLASH := fun member => by
    exact absurd (List.eq_of_mem_replicate member) (by decide)
  have lead : NUL ∉ if r.leadingCrlf then CRLF else [] := by
    split <;> decide
  have token : NUL ∉ r.method.token := by
    cases r.method <;> decide
  constructor
  · unfold Rendering.front Rendering.uri
    simp only [List.mem_append, List.mem_cons, lead, token, part, slashes, false_or]
    decide
  · refine ⟨(if r.leadingCrlf then CRLF else []) ++ (r.method.token ++ r.uri (ascii "RTSP/1.0")), ?_⟩
    simp only [Rendering.front, Rendering.uri, List.append_assoc, List.cons_append]

theorem nul_not_mem_lines {lines : List Bytes} (plain : PlainLines lines) : NUL ∉ linesText lines := by
  intro member
  obtain ⟨l, inside, char⟩ := List.mem_flatMap.mp member
  rcases List.mem_append.mp char with char | crlf
  · exact (plain l inside NUL char).1 rfl
  · exact absurd crlf (by decide)

theorem ends_linesText {front : Bytes} (ended : CRLF <:+ front) (lines : List Bytes) : CRLF <:+ front ++ linesText lines := by
  rcases List.eq_nil_or_concat lines with none | ⟨lines, l, some⟩
  · rw [none]
    exact ended.trans (by rw [linesText, List.flatMap_nil, List.append_nil])
  · have one : linesText [l] = l ++ CRLF := List.append_nil _
    rw [some, List.concat_eq_append, linesText_append, one]
    exact ⟨front ++ (linesText lines ++ l), by simp only [List.append_assoc]⟩

/-- A `Transport` header as a line and the lines that continue it. -/
theorem TransportHeader.lines (h : TransportHeader) :
    ∃ text l c, FoldsTo text (h.value Fold.glued) l c ∧ h.folded ++ CRLF = linesText ((TRANSPORT ++ l) :: c) := by
  obtain ⟨l, c, folds⟩ := foldsTo_value h.toFoldedTransport
  refine ⟨_, l, c, folds, ?_⟩
  rw [FoldedTransport.folded, List.append_assoc, folds.whole, linesText_cons, linesText_cons]
  simp only [List.append_assoc]

namespace ClientRequest

/-- A request as lines behind its front. The header, if there is one, is the line `l` and the lines `c`. -/
inductive Lines (q : ClientRequest) : List Bytes → Prop
  | without (none : q.transport = none) : q.Lines (q.headers.map Header.text ++ [[]])
  | header {h : TransportHeader} {text l : Bytes} {c : List Bytes} (some : q.transport = some h)
      (folds : FoldsTo text (h.value Fold.glued) l c) :
      q.Lines (q.before.map Header.text ++ ((TRANSPORT ++ l) :: c ++ (q.after.map Header.text ++ [[]])))

variable (q : ClientRequest)

theorem lines : ∃ lines, q.Lines lines ∧ q.bytes = q.front ++ linesText lines := by
  unfold bytes requestWith
  match found : q.transport with
  | none =>
    refine ⟨_, .without found, ?_⟩
    rw [Option.elim_none, List.nil_append, ← linesText_append, q.split, List.map_append, List.append_assoc]
  | some h =>
    obtain ⟨text, l, c, folds, whole⟩ := h.lines
    refine ⟨_, .header found folds, ?_⟩
    simp only [Option.elim_some, whole, linesText_append]

theorem headers_plain (hs : List Header) : PlainLines (hs.map Header.text) := by
  intro l member
  obtain ⟨h, -, rfl⟩ := List.mem_map.mp member
  exact h.plain

variable {q} in
theorem Lines.plain {lines : List Bytes} (h : q.Lines lines) : PlainLines lines := by
  have blank : PlainLines [[]] := by decide +kernel
  have closes (hs : List Header) : PlainLines (hs.map Header.text ++ [[]]) :=
    fun l member => (List.mem_append.mp member).elim (headers_plain hs l) (blank l)
  cases h with
  | without none => exact closes q.headers
  | header some folds =>
    intro l member
    rcases List.mem_append.mp member with before | rest
    · exact headers_plain q.before l before
    rcases List.mem_append.mp rest with header | after
    · exact folds.line (by decide +kernel) l header
    · exact closes q.after l after

theorem whole : WholeRequest q.bytes := by
  obtain ⟨lines, isLines, same⟩ := q.lines
  obtain ⟨clean, ended⟩ := q.front_text
  refine ⟨?_, ?_, q.fits⟩
  · rw [same, List.mem_append]
    exact not_or.mpr ⟨clean, nul_not_mem_lines isLines.plain⟩
  · obtain ⟨front, last⟩ : ∃ front, lines = front ++ [[]] := by
      cases isLines with
      | without none => exact ⟨_, rfl⟩
      | header some folds =>
        rw [← List.append_assoc, ← List.append_assoc]
        exact ⟨_, rfl⟩
    obtain ⟨rest, text⟩ := ends_linesText ended front
    have blank : linesText [[]] = CRLF := rfl
    rw [same, last, linesText_append, ← List.append_assoc, ← text, blank]
    exact ⟨rest, (List.append_assoc _ _ _).symm⟩

theorem recognised : recognise (bufferOf q.bytes) = q.method.command := by
  obtain ⟨lines, -, same⟩ := q.lines
  rw [bufferOf, same, List.append_assoc]
  unfold Rendering.front Rendering.uri
  cases q.leadingCrlf <;> cases q.method <;> rfl

theorem long : 6 ≤ q.bytes.length := by
  have scheme : (ascii "rtsp://").length = 7 := by decide
  obtain ⟨lines, -, same⟩ := q.lines
  rw [same, Rendering.front, Rendering.uri]
  simp only [List.length_append, List.length_cons, scheme]
  omega

end ClientRequest

/-! ### Through the parser -/

section

variable {aRequest z : Bytes} {size fuel : Nat} {s : CRtspSession}

theorem closesHeader_text (hs : List Header) : ClosesHeader (hs.map Header.text ++ [[]]) := by
  intro l first
  cases hs with
  | nil =>
    cases first
    rfl
  | cons h hs =>
    cases first
    have start := h.noBlank
    unfold startsBlank
    cases found : h.text.head? with
    | none => rfl
    | some c => exact start c found

/-- The rounds on the headers in front of a line that is not blank at its start. -/
theorem headerLoop_front {hs : List Header} {l : Bytes} {rest : List Bytes} (small : ∀ h ∈ hs, h.Small)
    (start : ∀ c, l.head? = some c → isblank c = false) (fit : AllFit aRequest size (hs.map Header.text ++ l :: rest) z) :
    headerLoop aRequest size (hs.length + fuel) s (inLine [] (hs.map Header.text ++ l :: rest) z) =
      headerLoop aRequest size fuel (hs.foldl Header.apply s) (inLine [] (l :: rest) z) := by
  have empty : ∀ c ∈ ([] : Bytes), IsPlain c := fun c member => absurd member List.not_mem_nil
  induction hs generalizing s with
  | nil =>
    rw [List.length_nil, Nat.zero_add]
    rfl
  | cons h hs ih =>
    have next : ∀ m ∈ (hs.map Header.text ++ l :: rest).head?, ∀ c, m.head? = some c → isblank c = false := by
      intro m first
      cases hs with
      | nil =>
        cases first
        exact start
      | cons g hs =>
        cases first
        exact g.noBlank
    have here : NumbersFit (leftAt aRequest size h.text (hs.map Header.text ++ l :: rest) z) h.text :=
      fit h.text _ (List.suffix_refl _)
    have step := headerOf_rendered (s := s) (z := z) h (small h List.mem_cons_self) next
    rw [List.length_cons, Nat.add_right_comm, List.map_cons, List.cons_append, headerLoop_line aRequest size _ empty h.plain,
      headerLine_eq h.plain here, step, ok_bind]
    exact ih (fun g member => small g (List.mem_cons_of_mem h member)) (fit.suffix (List.suffix_cons _ _))

/-- The round on the `Transport` header. -/
theorem headerOf_asked {h : TransportHeader} {text l : Bytes} {c after : List Bytes}
    (folds : FoldsTo text (h.value Fold.glued) l c) (closed : ClosesHeader after) :
    headerOf s (TRANSPORT ++ l) (c ++ after) z =
      .ok (s.asks (if s.m_RtspCmdType = .RTSP_SETUP then some h.asked else none), some (inLine [] after z)) := by
  have number (port : UInt16) : portNumber (decimal port.toNat) = port := by
    have value := digitsValue_decimal port.toNat
    apply UInt16.toNat.inj
    rw [portNumber_toNat (by rw [value]; exact UInt16.toNat_lt port), value]
  rw [headerOf_transport (fun f => f.glued_blank) folds closed, h.ports, h.protocol]
  split
  · dsimp only
    cases h.asked with
    | tcp => rfl
    | udp port =>
      have digits : decimal port.toNat ≠ [] := decimal_ne_nil port.toNat
      have other : ([] : Bytes) ∉ Asked.ports (.udp port) := fun member => digits (List.mem_singleton.mp member).symm
      have read : (Asked.ports (.udp port)).takeWhile (· ≠ []) = [decimal port.toNat] :=
        List.takeWhile_cons_of_pos (decide_eq_true digits)
      rw [if_neg other, CRtspSession.withPorts, read]
      show Except.ok (CRtspSession.write _ (.clientPort (portNumber (decimal port.toNat))), _) = _
      rw [number]
      rfl
  · rfl

theorem foldl_asks (hs : List Header) (s : CRtspSession) (a : Option Asked) :
    hs.foldl Header.apply (s.asks a) = (hs.foldl Header.apply s).asks a := by
  induction hs generalizing s with
  | nil => rfl
  | cons h hs ih =>
    have step : h.apply (s.asks a) = (h.apply s).asks a := by
      match a with
      | none => rfl
      | some .tcp => cases h <;> rfl
      | some (.udp port) => cases h <;> rfl
    rw [List.foldl_cons, step, ih, List.foldl_cons]

theorem Method.command_setup (m : Method) : m.command = .RTSP_SETUP ↔ m = .SETUP := by
  cases m <;> simp [Method.command]

theorem ClientRequest.Lines.headerLoop {q : ClientRequest} {lines : List Bytes} (h : q.Lines lines)
    (cmd : s.m_RtspCmdType = q.method.command) (fit : AllFit aRequest size lines z) (enough : lines.length < fuel) :
    headerLoop aRequest size fuel s (inLine [] lines z) = .ok ((q.headers.foldl Header.apply s).asks q.asked, true) := by
  have empty : ∀ c ∈ ([] : Bytes), IsPlain c := fun c member => absurd member List.not_mem_nil
  have small := q.small
  rw [q.split, List.forall_mem_append] at small
  cases h with
  | without none =>
    have asked : q.asked = Option.none := by
      unfold ClientRequest.asked
      rw [none]
      exact ite_self _
    rw [asked]
    refine headerLoop_rendered q.small fit ?_
    simpa using enough
  | @header header text l c some folds =>
    obtain ⟨rounds, rfl⟩ : ∃ rounds, fuel = q.before.length + (rounds + 1) := by
      refine ⟨fuel - q.before.length - 1, ?_⟩
      simp only [List.length_append, List.length_map, List.length_cons] at enough
      omega
    have asked : q.asked = if s.m_RtspCmdType = .RTSP_SETUP then Option.some header.asked else none := by
      unfold ClientRequest.asked
      rw [some, cmd, if_congr q.method.command_setup rfl rfl]
      rfl
    have start : ∀ d, (TRANSPORT ++ l).head? = Option.some d → isblank d = false := by
      intro d first
      cases first
      rfl
    have here : ∀ d ∈ TRANSPORT ++ l, IsPlain d := folds.line (by decide +kernel) _ List.mem_cons_self
    rw [List.cons_append] at fit ⊢
    have behind := fit.suffix (List.suffix_append _ _)
    have kept : (q.before.foldl Header.apply s).m_RtspCmdType = s.m_RtspCmdType := by rw [foldl_apply]
    have round := headerOf_asked (s := q.before.foldl Header.apply s) (z := z) folds (closesHeader_text q.after)
    rw [kept, ← asked] at round
    rw [headerLoop_front small.1 start fit, headerLoop_line aRequest size rounds empty here,
      headerLine_eq here (behind _ _ (List.suffix_refl _)), round, ok_bind]
    dsimp only
    rw [headerLoop_rendered small.2 (behind.suffix ((List.suffix_append c _).trans (List.suffix_cons _ _))), foldl_asks,
      q.split, List.foldl_append]
    simp only [List.length_append, List.length_map, List.length_cons] at enough
    omega

end

/-- The parser takes every request of a client for its message, whatever stands behind the NUL. -/
theorem ClientRequest.parses (q : ClientRequest) {s : CRtspSession} (cmd : s.m_RtspCmdType = q.method.command) (z : Bytes) :
    ParseRtspRequest s (q.bytes ++ NUL :: z) q.bytes.length = .ok ((q.parsed s).asks q.asked, true) := by
  obtain ⟨lines, isLines, same⟩ := q.lines
  have line := requestLine_rendered s.newCommandInit q.toRendering (inLine [] lines z)
  have text : q.bytes ++ NUL :: z = (if q.leadingCrlf then CRLF else []) ++
      (q.method.token ++ q.uri (ascii "RTSP/1.0" ++ inLine [] lines z)) := by
    rw [same]
    simp only [Rendering.front, Rendering.uri, inLine, List.append_assoc, List.cons_append, List.nil_append]
  have length := congrArg List.length same
  rw [List.length_append] at length
  have fit : AllFit (q.bytes ++ NUL :: z) q.bytes.length lines z := by
    refine allFit_of_size ?_ (by omega)
    rw [List.length_append, List.length_cons]
    omega
  have rounds : lines.length < (q.bytes ++ NUL :: z).length + 1 := by
    have each := linesText_length_ge lines
    rw [List.length_append]
    omega
  rw [← text] at line
  rw [ParseRtspRequest, line, ok_bind]
  refine Eq.trans (isLines.headerLoop (by exact cmd) fit rounds) ?_
  rw [foldl_apply, q.cseqOnce, q.lengthOnce]
  cases found : q.contentLength with
  | none => rw [Rendering.parsed, found]; rfl
  | some m => rw [Rendering.parsed, found]; rfl

end RtspServer
