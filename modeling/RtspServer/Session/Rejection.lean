import RtspServer.Session.ReadBounds
import RtspServer.Session.Termination

/-!
# Rejected requests

What a request that the parser rejects leaves behind: the `Transport` fields written
in front of the reject point, and the flag that its method sets.
-/

namespace RtspServer

/-! ### The writes of a `Transport` header -/

inductive TransportWrite where
  | protocol (m_TcpTransport : Bool)
  | clientPort (m_ClientRTPPort : UInt16)
  deriving DecidableEq

def CRtspSession.write (s : CRtspSession) : TransportWrite → CRtspSession
  | .protocol m_TcpTransport => { s with m_TcpTransport, m_ClientRTPPort := 0 }
  | .clientPort m_ClientRTPPort => { s with m_ClientRTPPort, m_ClientRTCPPort := m_ClientRTPPort + 1 }

/-- The sub-parameters that are looked at: all but the last of a text that ends in NUL. -/
def partsRead (args : Bytes) : List Bytes :=
  let parts := (args.takeWhile isText).splitOn SEMICOLON
  if (args.dropWhile isText).head? = some CR then parts else parts.dropLast

/-- The numbers of the sub-parameters `client_port=` among them. -/
def portsRead (args : Bytes) : List Bytes := (partsRead args).filterMap clientPort

/-- The ports written, up to the first `client_port=` without a number. -/
def portWrites (args : Bytes) : List TransportWrite :=
  ((portsRead args).takeWhile (· ≠ [])).map fun digits => .clientPort (UInt16.ofInt (atoi digits))

section

variable {part rest : Bytes} {e : UInt8}

theorem partsRead_semicolon (inside : SEMICOLON ∉ part) (text : ∀ c ∈ part, isText c = true) (rest : Bytes) :
    partsRead (part ++ SEMICOLON :: rest) = part :: partsRead rest := by
  have front : (part ++ SEMICOLON :: rest).takeWhile isText = part ++ SEMICOLON :: rest.takeWhile isText := by
    rw [List.takeWhile_append_of_pos text]
    rfl
  have back : (part ++ SEMICOLON :: rest).dropWhile isText = rest.dropWhile isText := by
    rw [List.dropWhile_append_of_pos text]
    rfl
  unfold partsRead
  rw [front, back, List.splitOn_append_cons_self_of_not_mem inside]
  dsimp only
  split
  · rfl
  · exact List.dropLast_cons_of_ne_nil (List.splitOn_ne_nil _ _)

theorem portsRead_separator {c : UInt8} (h : isSeparator c = true) (args : Bytes) : portsRead (c :: args) = portsRead args := by
  by_cases semicolon : c = SEMICOLON
  · have split := @partsRead_semicolon [] List.not_mem_nil nofun args
    rw [List.nil_append, ← semicolon] at split
    unfold portsRead
    rw [split]
    rfl
  · -- a blank in front of the first part
    have blank : isblank c = true := decide_eq_true ((of_decide_eq_true h).resolve_left semicolon)
    have text := isText_of_separator h
    obtain ⟨part, parts, split⟩ := List.exists_cons_of_ne_nil (List.splitOn_ne_nil SEMICOLON (args.takeWhile isText))
    have longer : (c :: args.takeWhile isText).splitOn SEMICOLON = (c :: part) :: parts := by
      rw [List.splitOn_cons_eq_if_modifyHead, if_neg (by simpa using semicolon), split]
      rfl
    have same : clientPort (c :: part) = clientPort part := by
      unfold clientPort
      rw [List.dropWhile_cons_of_pos blank]
    unfold portsRead partsRead
    rw [List.takeWhile_cons_of_pos text, List.dropWhile_cons_of_pos text, longer, split]
    dsimp only
    split
    · rw [List.filterMap_cons, List.filterMap_cons, same]
    · cases parts with
      | nil => rfl
      | cons next parts =>
        rw [List.dropLast_cons_of_ne_nil (List.cons_ne_nil _ _), List.dropLast_cons_of_ne_nil (List.cons_ne_nil _ _),
          List.filterMap_cons, List.filterMap_cons, same]

theorem portsRead_separators {pre : Bytes} (all : ∀ c ∈ pre, isSeparator c = true) (args : Bytes) :
    portsRead (pre ++ args) = portsRead args := by
  induction pre with
  | nil => rfl
  | cons c pre ih =>
    rw [List.cons_append, portsRead_separator (all c List.mem_cons_self)]
    exact ih fun d member => all d (List.mem_cons_of_mem c member)

theorem portsRead_part (inside : ∀ c ∈ part, isPartText c = true) (ends : e = SEMICOLON ∨ e = CR) :
    portsRead (part ++ e :: rest) = (clientPort part).toList ++ portsRead (e :: rest) := by
  have text : ∀ c ∈ part, isText c = true := fun c member => isText_of_part (inside c member)
  have absent := semicolon_not_mem inside
  rcases ends with rfl | rfl
  · rw [portsRead_separator (by decide)]
    unfold portsRead
    rw [partsRead_semicolon absent text, List.filterMap_cons]
    cases clientPort part <;> rfl
  · have stop : partsRead (part ++ CR :: rest) = [part] := by
      unfold partsRead
      rw [List.takeWhile_append_of_pos text, List.dropWhile_append_of_pos text]
      have cr : (CR :: rest).takeWhile isText = [] := rfl
      rw [cr, List.append_nil, List.splitOn_eq_singleton absent]
      rfl
    have none : portsRead (CR :: rest) = [] := rfl
    rw [none, List.append_nil]
    unfold portsRead
    rw [stop, List.filterMap_cons]
    cases clientPort part <;> rfl

theorem portsRead_last (inside : ∀ c ∈ part, isPartText c = true) : portsRead (part ++ NUL :: rest) = [] := by
  have text : ∀ c ∈ part, isText c = true := fun c member => isText_of_part (inside c member)
  have nul : (NUL :: rest).takeWhile isText = [] := rfl
  unfold portsRead partsRead
  rw [List.takeWhile_append_of_pos text, List.dropWhile_append_of_pos text, nul, List.append_nil,
    List.splitOn_eq_singleton (semicolon_not_mem inside)]
  rfl

end

section

variable {s t : CRtspSession} {cur part rest : Bytes} {e : UInt8} {r : Option Bytes}

theorem portWrites_skip (front : portsRead cur = portsRead rest) : portWrites cur = portWrites rest := by
  unfold portWrites
  rw [front]

theorem portWrites_nil (none : portsRead cur = []) : portWrites cur = [] := by
  unfold portWrites
  rw [none]
  rfl

theorem portWrites_cons {d : UInt8} {digits : Bytes} (front : portsRead cur = (d :: digits) :: portsRead rest) :
    portWrites cur = .clientPort (UInt16.ofInt (atoi (d :: digits))) :: portWrites rest := by
  unfold portWrites
  rw [front]
  rfl

theorem dropWhile_separators (all : ∀ c ∈ pre, isSeparator c = true) (rest : Bytes) :
    (pre ++ rest).dropWhile isText = rest.dropWhile isText :=
  List.dropWhile_append_of_pos fun c member => isText_of_separator (all c member)

theorem dropWhile_part (inside : ∀ c ∈ part, isPartText c = true) (rest : Bytes) :
    (part ++ rest).dropWhile isText = rest.dropWhile isText :=
  List.dropWhile_append_of_pos fun c member => isText_of_part (inside c member)

/-- The loop over the sub-parameters writes the ports one after another, and gets to the end of the
line only if each has a number; it fails to only there or at the end of the text. -/
theorem subParameters_writes {fuel : Nat} (nul : NUL ∈ cur) (h : subParameters fuel s cur = .ok (t, r)) :
    t = (portWrites cur).foldl CRtspSession.write s ∧ (r ≠ none → [] ∉ portsRead cur) ∧
      (r = none → [] ∈ portsRead cur ∨ (cur.dropWhile isText).head? = some NUL) := by
  rw [subParameters_eq_loop] at h
  induction fuel generalizing s cur with
  | zero => cases h
  | succ fuel ih =>
    match subRound_found s nul with
    | .nul pre rest all text found =>
      rw [Loop.run_done found] at h
      cases h
      have none : portsRead cur = [] := by
        rw [text, portsRead_separators all]
        exact @portsRead_last [] rest nofun
      rw [portWrites_nil none]
      refine ⟨rfl, fun ended => absurd rfl ended, fun _ => .inr ?_⟩
      rw [text, dropWhile_separators all]
      rfl
    | .lineEnd pre rest all text found =>
      rw [Loop.run_done found] at h
      cases h
      have none : portsRead cur = [] := by
        rw [text, portsRead_separators all]
        rfl
      rw [portWrites_nil none, none]
      exact ⟨rfl, fun _ => List.not_mem_nil, nofun⟩
    | .bare pre d rest all text other found =>
      rw [Loop.run_next found] at h
      have later : NUL ∈ CR :: d :: rest := mem_rest (nul_not_mem_separators all) (text ▸ nul)
      rw [text, portWrites_skip (portsRead_separators all _), portsRead_separators all, dropWhile_separators all]
      exact ih later h
    | .last pre part rest all inside text found =>
      rw [Loop.run_done found] at h
      cases h
      have none : portsRead cur = [] := by
        rw [text, List.append_assoc, portsRead_separators all, portsRead_last inside]
      rw [portWrites_nil none]
      refine ⟨rfl, fun ended => absurd rfl ended, fun _ => .inr ?_⟩
      rw [text, List.append_assoc, dropWhile_separators all, dropWhile_part inside]
      rfl
    | .part pre part e rest all inside nonempty ends text found =>
      have plain : NUL ∉ pre ++ part := fun member =>
        (List.mem_append.mp member).elim (nul_not_mem_separators all) (nul_not_mem_part inside)
      have later : NUL ∈ e :: rest := mem_rest plain (text ▸ nul)
      have ports : portsRead cur = (clientPort part).toList ++ portsRead (e :: rest) := by
        rw [text, List.append_assoc, portsRead_separators all, portsRead_part inside ends]
      have back : cur.dropWhile isText = (e :: rest).dropWhile isText := by
        rw [text, List.append_assoc, dropWhile_separators all, dropWhile_part inside]
      rw [back]
      match taken : clientPort part with
      | none =>
        rw [taken] at found ports
        rw [Loop.run_next found] at h
        rw [portWrites_skip ports, ports]
        exact ih later h
      | some [] =>
        rw [taken] at found ports
        rw [Loop.run_done found] at h
        cases h
        refine ⟨?_, fun ended => absurd rfl ended, fun _ => .inl ?_⟩
        · unfold portWrites
          rw [ports]
          rfl
        · rw [ports]
          exact List.mem_cons_self
      | some (d :: digits) =>
        rw [taken] at found ports
        rw [Loop.run_next found] at h
        obtain ⟨same, numbered, stopped⟩ := ih later h
        rw [same, portWrites_cons ports, List.foldl_cons, CRtspSession.write, ports]
        exact ⟨rfl, fun ended member => (List.mem_cons.mp member).elim nofun (numbered ended),
          fun ended => (stopped ended).imp_left (List.mem_cons_of_mem _)⟩

end

/-! ### The writes of a parse -/

def argumentWrites : Option (Bool × Bytes) → List TransportWrite
  | none => []
  | some (tcp, args) => .protocol tcp :: portWrites args

/-- The writes of the round at the head `x` of the header loop. -/
def lineWrites (x : CRtspSession × Bytes) : List TransportWrite :=
  if x.1.m_RtspCmdType = .RTSP_SETUP then
    match lineStart x.2 with
    | .ok (some l) =>
      match transportArguments l with
      | .ok args => argumentWrites args
      | .error _ => []
    | _ => []
  else []

/-- The fields a `Transport` header writes are the same. -/
structure SameTransport (s t : CRtspSession) : Prop where
  tcp : t.m_TcpTransport = s.m_TcpTransport
  rtp : t.m_ClientRTPPort = s.m_ClientRTPPort
  rtcp : t.m_ClientRTCPPort = s.m_ClientRTCPPort

theorem SameTransport.write {s t : CRtspSession} (h : SameTransport s t) (w : TransportWrite) :
    SameTransport (s.write w) (t.write w) := by
  cases w with
  | protocol tcp => exact ⟨rfl, rfl, h.rtcp⟩
  | clientPort port => exact ⟨h.tcp, rfl, rfl⟩

theorem SameTransport.writes {s t : CRtspSession} (h : SameTransport s t) (ws : List TransportWrite) :
    SameTransport (ws.foldl CRtspSession.write s) (ws.foldl CRtspSession.write t) := by
  induction ws generalizing s t with
  | nil => exact h
  | cons w ws ih => exact ih (h.write w)

theorem SameTransport.refl (s : CRtspSession) : SameTransport s s := ⟨rfl, rfl, rfl⟩

theorem SameTransport.trans {s t u : CRtspSession} (first : SameTransport s t) (second : SameTransport t u) :
    SameTransport s u :=
  ⟨second.tcp.trans first.tcp, second.rtp.trans first.rtp, second.rtcp.trans first.rtcp⟩

section

variable {z cur l : Bytes} {s t : CRtspSession} {args : Option (Bool × Bytes)} {r : Option Bytes}

/-- Each `client_port=` of the header has a number. -/
def PortsNumbered (args : Option (Bool × Bytes)) : Prop := ∀ a ∈ args, [] ∉ portsRead a.2

theorem transport_writes (h : Inside z cur) (started : transportStart cur = .ok args)
    (read : transport s cur = .ok (t, r)) :
    t = (argumentWrites args).foldl CRtspSession.write s ∧ (r ≠ none → PortsNumbered args) := by
  obtain ⟨args', started', inside⟩ := transportStart_inside h
  cases Except.ok.inj (started'.symm.trans started)
  rcases transport_start s started with ⟨rfl, same⟩ | ⟨tcp, text, fuel, rfl, -, same⟩
  · rw [same] at read
    cases read
    exact ⟨rfl, fun _ => nofun⟩
  · rw [same] at read
    obtain ⟨writes, numbered, -⟩ := subParameters_writes (inside tcp text rfl).1.nul read
    refine ⟨writes, fun ended a member => ?_⟩
    cases Option.some.inj member
    exact numbered ended

theorem transportArguments_none {word : Bytes} (found : word <+: l) (first : word.head? = some 67)
    (read : transportArguments l = .ok args) : args = none := by
  cases args with
  | none => rfl
  | some args => exact absurd read (transportArguments_other found first)

theorem headerLineWith_writes (h : Inside z l) (left : Int) (arguments : transportArguments l = .ok args)
    (read : headerLineWith transport s left l = .ok (t, r)) :
    SameTransport ((if s.m_RtspCmdType = .RTSP_SETUP then argumentWrites args else []).foldl CRtspSession.write s) t ∧
      (r ≠ none → s.m_RtspCmdType = .RTSP_SETUP → PortsNumbered args) := by
  have numeric {word : Bytes} (found : word <+: l) (first : word.head? = some 67) (same : SameTransport s t) :
      SameTransport ((if s.m_RtspCmdType = .RTSP_SETUP then argumentWrites args else []).foldl CRtspSession.write s) t ∧
        (r ≠ none → s.m_RtspCmdType = .RTSP_SETUP → PortsNumbered args) := by
    rw [transportArguments_none found first arguments]
    exact ⟨by rw [argumentWrites, ite_self]; exact same, fun _ _ => nofun⟩
  unfold headerLineWith at read
  split at read
  · rename_i name
    unfold headerLine at read
    split at read
    · rename_i first
      obtain ⟨number, -, read⟩ := bind_ok read
      apply numeric first rfl
      cases number <;> (cases pure_ok read; exact ⟨rfl, rfl, rfl⟩)
    · rename_i other
      have second := name.resolve_left other
      rw [if_pos second] at read
      obtain ⟨number, -, read⟩ := bind_ok read
      apply numeric second rfl
      cases number <;> (cases pure_ok read; exact ⟨rfl, rfl, rfl⟩)
  · obtain ⟨w, glued, inside, -⟩ := glue_inside h
    unfold transportArguments at arguments
    unfold otherHeaderWith at read
    rw [glued, ok_bind] at arguments read
    obtain ⟨⟨t', r'⟩, line, read⟩ := bind_ok read
    -- the skip to the end of the line writes nothing
    have same : t' = t ∧ (r ≠ none → r' ≠ none) := by
      cases r' with
      | none =>
        obtain ⟨rfl, rfl⟩ := Prod.mk.inj (pure_ok read)
        exact ⟨rfl, id⟩
      | some cur =>
        obtain ⟨cur', -, read⟩ := bind_ok read
        exact ⟨(Prod.mk.inj (pure_ok read)).1, fun _ => nofun⟩
    obtain ⟨rfl, ended⟩ := same
    by_cases setup : s.m_RtspCmdType = .RTSP_SETUP
    · rw [if_pos setup]
      by_cases found : ascii "Transport:" <+: w
      · rw [if_pos ⟨setup, found⟩] at line
        rw [if_neg (not_not.mpr found)] at arguments
        obtain ⟨writes, numbered⟩ := transport_writes (inside.drop_word found (by decide)) arguments line
        rw [writes]
        exact ⟨.refl _, fun reached _ => numbered (ended reached)⟩
      · rw [if_neg fun both => found both.2] at line
        rw [if_pos found] at arguments
        cases pure_ok line
        cases pure_ok arguments
        exact ⟨.refl _, fun _ _ => nofun⟩
    · rw [if_neg setup]
      rw [if_neg fun both => setup both.1] at line
      cases pure_ok line
      exact ⟨.refl _, fun _ only => absurd only setup⟩

end

section

variable {q a : Bytes} {size : Nat} {x : CRtspSession × Bytes} {s : CRtspSession}

theorem lineWrites_line {l : Bytes} {args : Option (Bool × Bytes)} (started : lineStart x.2 = .ok (some l))
    (arguments : transportArguments l = .ok args) :
    lineWrites x = if x.1.m_RtspCmdType = .RTSP_SETUP then argumentWrites args else [] := by
  unfold lineWrites
  rw [started]
  dsimp only
  rw [arguments]

theorem lineWrites_unread (unread : ∀ l, lineStart x.2 = .ok (some l) → ∀ c, l.head? = some c → c = NUL) : lineWrites x = [] := by
  unfold lineWrites
  match started : lineStart x.2 with
  | .error _ => exact ite_self _
  | .ok none => exact ite_self _
  | .ok (some l) =>
    dsimp only
    match read : transportArguments l with
    | .error _ => exact ite_self _
    | .ok none => exact ite_self _
    | .ok (some args) => exact absurd read (transportArguments_nul (unread l started))

/-- What a round leaves to the next round, or as the result, in the `Transport` fields. -/
theorem headerRound_writes (h : Inside (padding q) x.2) (same : SameTransport s x.1) :
    (∀ y, Loop.Next (headerRound transport a size) x y → SameTransport ((lineWrites x).foldl CRtspSession.write s) y.1) ∧
      ∀ t b, headerRound transport a size x = .ok (.inr (t, b)) →
        SameTransport ((lineWrites x).foldl CRtspSession.write s) t := by
  rcases headerRound_cases a size transport h with ⟨stays, unread⟩ | ⟨l, started, inside, round⟩
  · rw [lineWrites_unread unread]
    constructor
    · intro y next
      obtain ⟨b, stop⟩ := stays _ next
      cases stop
    · intro t b done
      obtain ⟨b', stop⟩ := stays _ done
      cases stop
      exact same
  obtain ⟨args, arguments, -⟩ := transportArguments_inside inside
  unfold Loop.Next
  rw [lineWrites_line started arguments, round]
  have line := fun t r => @headerLineWith_writes _ _ x.1 t args r inside
    (size - ((a.length : Int) - (l.length : Int))) arguments
  have behind := same.writes (if x.1.m_RtspCmdType = .RTSP_SETUP then argumentWrites args else [])
  match headerLineWith transport x.1 (size - ((a.length : Int) - (l.length : Int))) l, line with
  | .error e, _ => exact ⟨fun y next => (nomatch next), fun t b done => (nomatch done)⟩
  | .ok (t, none), line =>
    refine ⟨fun y next => (nomatch next), fun t' b done => ?_⟩
    cases done
    exact behind.trans (line _ _ rfl).1
  | .ok (t, some cur), line =>
    refine ⟨fun y next => ?_, fun t' b done => nomatch done⟩
    cases next
    exact behind.trans (line _ _ rfl).1

end

/-- The `Transport` fields written for the request `q`, in order. -/
def transportWrites (s : CRtspSession) (q : Bytes) (size : Nat) : List TransportWrite :=
  match lineCursor s (bufferOf q) with
  | .ok (some cur) =>
    (Loop.trace (headerRound transport (bufferOf q) size) ((bufferOf q).length + 1) (s.newCommandInit, cur)).flatMap lineWrites
  | _ => []

theorem parseIn_writes {s t : CRtspSession} {q : Bytes} {size : Nat} {b : Bool}
    (h : parseIn ((bufferOf q).length + 1) s (bufferOf q) size = .ok (t, b)) :
    SameTransport ((transportWrites s q size).foldl CRtspSession.write s) t := by
  obtain ⟨r, passed, inside⟩ := lineCursor_inside s q
  unfold parseIn at h
  unfold transportWrites
  rw [passed] at h ⊢
  rw [ok_bind] at h
  match r, inside with
  | none, _ =>
    cases pure_ok h
    exact ⟨rfl, rfl, rfl⟩
  | some cur, inside =>
    obtain ⟨here, short⟩ := inside cur rfl
    dsimp only at h ⊢
    rw [run_transportIn here (Nat.lt_succ_of_le short)] at h
    rw [List.foldl_flatMap]
    refine Loop.run_fold (R := fun s x => SameTransport s x.1 ∧ Inside (padding q) x.2)
      (L := fun s r => SameTransport s r.1) (r := s) ?_ ?_ ⟨⟨rfl, rfl, rfl⟩, here⟩ h
    · intro s x y now next
      exact ⟨(headerRound_writes now.2 now.1).1 y next, (headerRound_next sound_transport now.2 next).1⟩
    · intro s x r now done
      exact (headerRound_writes now.2 now.1).2 r.1 r.2 done

theorem parts_fit {s t : CRtspSession} {q : Bytes} {size : Nat} {b : Bool}
    (h : ParseRtspRequest s (bufferOf q) size = .ok (t, b)) : ∀ uri, uriOf (bufferOf q) = some uri → PartsFit uri := by
  obtain ⟨r, line, -⟩ := bind_ok h
  rw [requestLine_eq] at line
  obtain ⟨r', parts, -⟩ := bind_ok line
  rw [uriLine_eq s (terminated_bufferOf q)] at parts
  split at parts
  · rename_i inside
    exact storesOf_inside.mp inside
  · cases parts

/-- The parser leaves in the `Transport` fields what its writes leave there, also where it rejects. -/
theorem ParseRtspRequest_writes {s t : CRtspSession} {q : Bytes} {size : Nat} {b : Bool}
    (h : ParseRtspRequest s (bufferOf q) size = .ok (t, b)) :
    SameTransport ((transportWrites s q size).foldl CRtspSession.write s) t := by
  have related := parseIn_ParseRtspRequest s size (parts_fit h) (Nat.lt_succ_self _)
  rw [h] at related
  match parsed : parseIn ((bufferOf q).length + 1) s (bufferOf q) size, related with
  | .ok (t', b'), ⟨⟨_, _, _, same⟩, _⟩ =>
    have writes := parseIn_writes parsed
    change t = _ at same
    rw [same]
    exact ⟨writes.tcp, writes.rtp, writes.rtcp⟩

/-! ### A rejected request -/

/-- The call leaves the session's flags, ports and stream and the streamer's UDP transport as they were. -/
structure NoEffect (st : CStreamer) (s : CRtspSession) (t : Turn) : Prop where
  streaming : t.session.m_streaming = s.m_streaming
  stopped : t.session.m_stopped = s.m_stopped
  transport : SameTransport s t.session
  rtpPort : t.session.m_RtpClientPort = s.m_RtpClientPort
  rtcpPort : t.session.m_RtcpClientPort = s.m_RtcpClientPort
  streamID : t.session.m_StreamID = s.m_StreamID
  refCount : t.streamer.m_udpRefCount = st.m_udpRefCount
  rtpSocket : t.streamer.m_RtpSocket = st.m_RtpSocket
  rtcpSocket : t.streamer.m_RtcpSocket = st.m_RtcpSocket
  udp : t.streamer.udp = st.udp

/-- A complete request whose method is recognised is rejected. -/
def ParseCall.Rejected (c : ParseCall) : Prop := c.state = .hdrStateGotMethod ∧ ∃ s, c.parse = .ok (s, false)

/-- The request is no TEARDOWN, a PLAY only of a session that streams already, and what its
`Transport` headers write up to the reject point leaves the fields as they are. -/
structure ParseCall.Harmless (c : ParseCall) : Prop where
  play : c.session.m_RtspCmdType = .RTSP_PLAY → c.session.m_streaming = true
  teardown : c.session.m_RtspCmdType ≠ .RTSP_TEARDOWN
  transport : SameTransport c.session ((transportWrites c.session c.text c.size).foldl CRtspSession.write c.session)

section

variable {st : CStreamer} {s : CRtspSession} {r : Receiver} {read : SocketRead} {c : ParseCall}

/-- The parser is called with the session as it was before the read, but for the start of a command. -/
theorem parseCall_session (h : s.parseCall r read = some c) :
    s.m_stopped = false ∧ (c.session = s ∨ ∃ cmd, c.session = { s.newCommandInit with m_RtspCmdType := cmd }) := by
  obtain ⟨bytes, fits, -, live, -, -, rfl⟩ := parseCall_found h
  refine ⟨live, ?_⟩
  unfold findMethod
  split
  · exact .inr ⟨_, rfl⟩
  · exact .inl rfl

theorem markCommand_flags (s : CRtspSession) :
    s.markCommand.m_streaming = (if s.m_RtspCmdType = .RTSP_PLAY then true else s.m_streaming) ∧
      s.markCommand.m_stopped = (if s.m_RtspCmdType = .RTSP_TEARDOWN then true else s.m_stopped) := by
  unfold CRtspSession.markCommand
  cases cmd : s.m_RtspCmdType <;> simp

theorem markCommand_rest (s : CRtspSession) :
    SameTransport s s.markCommand ∧ s.markCommand.m_RtpClientPort = s.m_RtpClientPort ∧
      s.markCommand.m_RtcpClientPort = s.m_RtcpClientPort ∧ s.markCommand.m_StreamID = s.m_StreamID := by
  unfold CRtspSession.markCommand
  cases s.m_RtspCmdType <;> exact ⟨⟨rfl, rfl, rfl⟩, rfl, rfl, rfl⟩

theorem handleRequests_rejected {s' : CRtspSession} (h : s.parseCall r read = some c) (rejected : c.parse = .ok (s', false)) :
    s.handleRequests st r read = .ok ⟨st, s'.markCommand, Receiver.empty, [], true⟩ := by
  rw [handleRequests_parseCall h]
  unfold CRtspSession.Handle_RtspRequest
  unfold ParseCall.parse at rejected
  rw [rejected]
  rfl

theorem sameTransport_iff {s t u v : CRtspSession} (before : SameTransport s u) (after : SameTransport v t) :
    SameTransport s t ↔ SameTransport u v := by
  constructor
  · intro same
    exact ⟨after.tcp.symm.trans (same.tcp.trans before.tcp.symm), after.rtp.symm.trans (same.rtp.trans before.rtp.symm),
      after.rtcp.symm.trans (same.rtcp.trans before.rtcp.symm)⟩
  · intro same
    exact (before.trans same).trans after

theorem rejected_iff (h : s.parseCall r read = some c) (rejected : c.Rejected) :
    (∃ t, s.handleRequests st r read = .ok t ∧ NoEffect st s t) ↔ c.Harmless := by
  obtain ⟨-, s', parsed⟩ := rejected
  obtain ⟨live, start⟩ := parseCall_session h
  have outside := ParseRtspRequest_outside parsed
  have writes := ParseRtspRequest_writes parsed
  obtain ⟨streaming, stopped⟩ := markCommand_flags s'
  obtain ⟨transport, rtpPort, rtcpPort, streamID⟩ := markCommand_rest s'
  rw [outside.cmd, outside.streaming] at streaming
  rw [outside.cmd, outside.stopped] at stopped
  have before : SameTransport s c.session := by
    rcases start with same | ⟨cmd, same⟩ <;> (rw [same]; exact ⟨rfl, rfl, rfl⟩)
  have others : c.session.m_streaming = s.m_streaming ∧ c.session.m_stopped = s.m_stopped ∧
      c.session.m_RtpClientPort = s.m_RtpClientPort ∧ c.session.m_RtcpClientPort = s.m_RtcpClientPort ∧
      c.session.m_StreamID = s.m_StreamID := by
    rcases start with same | ⟨cmd, same⟩ <;> (rw [same]; exact ⟨rfl, rfl, rfl, rfl, rfl⟩)
  rw [handleRequests_rejected h parsed]
  constructor
  · rintro ⟨t, same, none⟩
    cases same
    refine ⟨fun play => ?_, fun teardown => ?_, (sameTransport_iff before (writes.trans transport)).mp none.transport⟩
    · rw [if_pos play] at streaming
      exact others.1.trans (none.streaming.symm.trans streaming)
    · rw [if_pos teardown] at stopped
      exact Bool.false_ne_true (live.symm.trans (none.stopped.symm.trans stopped))
  · intro harmless
    refine ⟨_, rfl, ?_, ?_, (sameTransport_iff before (writes.trans transport)).mpr harmless.transport, ?_, ?_, ?_, rfl, rfl, rfl, rfl⟩
    · rw [streaming, ← others.1]
      split
      · rename_i play
        exact (harmless.play play).symm
      · rfl
    · rw [stopped, if_neg harmless.teardown, others.2.1]
    · rw [rtpPort, outside.rtpPort, others.2.2.1]
    · rw [rtcpPort, outside.rtcpPort, others.2.2.2.1]
    · rw [streamID, outside.streamID, others.2.2.2.2]

end

/-! ### Over the calls of the server -/

/-- A rejected request in a step of the server has no effect. -/
def History.RejectedNoEffect (h : History) : Event → Prop
  | .addSession _ => True
  | .read i read => i ∈ h.server.m_Clients → ∀ c, (h.server.session i).parseCall h.server.receiver read = some c →
      c.Rejected → ∃ t, h.server.turn i read = .ok t ∧ NoEffect h.server.streamer (h.server.session i) t

theorem rejectedNoEffect_iff (h : History) (e : Event) :
    h.RejectedNoEffect e ↔ h.EachParse (fun c => c.Rejected → c.Harmless) e := by
  cases e with
  | addSession random => exact Iff.rfl
  | read i read =>
    exact forall_congr' fun _ => forall_congr' fun c => forall_congr' fun called => forall_congr' fun rejected =>
      rejected_iff called rejected

theorem parse_verdict {r : Run (CRtspSession × Bool)} {b : Bool} (h : r.toOption.map Prod.snd = some b) :
    ∃ s, r = .ok (s, b) := by
  match r with
  | .ok (s, b') => exact ⟨s, by rw [← (Option.some.inj h : b' = b)]⟩
  | .error e => cases h

/-- A PLAY request of 42 bytes whose `CSeq` header has no number. -/
def rejectedPlay : Bytes := ascii "PLAY rtsp://h/live/1 RTSP/1.0\r\nCSeq: x\r\n\r\n"

theorem not_rejectedNoEffect_play :
    ¬ Runs.EachTry History.step History.RejectedNoEffect [.addSession 5, .read 0 (.data rejectedPlay)]
      (History.start ⟨fun _ => true, 2, []⟩ (ascii "live") (ascii "1")) := by
  rintro ⟨-, rest⟩
  obtain ⟨none, -⟩ := rest _ rfl
  let s := (CRtspSession.create 5).recognised (bufferOf rejectedPlay)
  let c : ParseCall := ⟨s, rejectedPlay, rejectedPlay.length, .hdrStateGotMethod⟩
  have called : (CRtspSession.create 5).parseCall Receiver.empty (.data rejectedPlay) = some c := by decide +kernel
  have rejected : c.Rejected := ⟨rfl, parse_verdict (by decide +kernel)⟩
  have harmless := (rejected_iff called rejected).mp (none (List.mem_singleton_self 0) c called rejected)
  exact absurd (harmless.play (by decide +kernel)) (by decide +kernel)

/-- In every run of the server, the rejected requests without effect are the harmless ones. -/
theorem each_rejectedNoEffect_iff (udp : UdpSockets) (pres stream : Bytes) (events : List Event) :
    Runs.EachTry History.step History.RejectedNoEffect events (History.start udp pres stream) ↔
      Runs.EachTry History.step (History.EachParse fun c => c.Rejected → c.Harmless) events (History.start udp pres stream) :=
  Runs.eachTry_congr rejectedNoEffect_iff

end RtspServer
