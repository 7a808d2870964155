import RtspServer.Base.Decimal
import RtspServer.Media.FanOut
import RtspServer.Session.Rejection

/-!
# The client ports of a SETUP request

What a `Transport` header asks for as the ports of the client, against what is
kept in the session, printed in the response and sent to. The parser derives the
second port from the first, and only the first is reset.
-/

namespace RtspServer

/-- `"client_port" "=" port [ "-" port ]`, with the numbers as they are written. -/
structure PortRange where
  rtp : Nat
  rtcp : Option Nat
  deriving DecidableEq

/-- What follows the first port. -/
def secondPort : Bytes → Option Nat
  | 45 :: rest => if rest.takeWhile isdigit = [] then none else some (digitsValue (rest.takeWhile isdigit))
  | _ => none

def portRange (part : Bytes) : Option PortRange :=
  (clientPort part).map fun port =>
    ⟨digitsValue port, secondPort ((part.dropWhile isblank).drop (12 + port.length))⟩

/-- The ports that a `Transport` header asks for. -/
def portRanges (args : Bytes) : List PortRange := (partsRead args).filterMap portRange

/-- The protocol and the sub-parameters of the `Transport` header that the round at the head `x` reads. -/
def lineHeader (x : CRtspSession × Bytes) : Option (Bool × Bytes) :=
  if x.1.m_RtspCmdType = .RTSP_SETUP then
    match lineStart x.2 with
    | .ok (some l) =>
      match transportArguments l with
      | .ok args => args
      | .error _ => none
    | _ => none
  else none

/-- The `Transport` headers of the request, in order. The last one is in force. -/
def ParseCall.transportHeaders (c : ParseCall) : List (Bool × Bytes) :=
  match lineCursor c.session (bufferOf c.text) with
  | .ok (some cur) =>
    (Loop.trace (headerRound transport (bufferOf c.text) c.size) ((bufferOf c.text).length + 1)
      (c.session.newCommandInit, cur)).filterMap lineHeader
  | _ => []

/-- The ports in the session are the ones asked for, as numbers; with none asked for they are reset. -/
structure PortsRequested (args : Bytes) (s : CRtspSession) : Prop where
  given : ∀ r ∈ portRanges args, s.m_ClientRTPPort.toNat = r.rtp ∧ s.m_ClientRTCPPort.toNat = r.rtcp.getD (r.rtp + 1)
  reset : portRanges args = [] → s.m_ClientRTPPort = 0 ∧ s.m_ClientRTCPPort = 0

/-- `m_ClientRTCPPort` as the headers in front of the last one leave it. -/
def ParseCall.leftRTCPPort (c : ParseCall) : UInt16 :=
  match (c.transportHeaders.dropLast.flatMap fun h => portsRead h.2).getLast? with
  | none => c.session.m_ClientRTCPPort
  | some digits => UInt16.ofInt (atoi digits) + 1

/-- One first port of 16 bits, followed by nothing or by its successor; or none, where no second port is left over. -/
structure ParseCall.PortsFit (c : ParseCall) (args : Bytes) : Prop where
  range : ∀ r ∈ portRanges args, r.rtp < 2 ^ 16 ∧ r.rtcp.getD (r.rtp + 1) = (r.rtp + 1) % 2 ^ 16
  same : ∀ r ∈ portRanges args, ∀ r' ∈ portRanges args, r'.rtp = r.rtp
  fresh : portRanges args = [] → c.leftRTCPPort = 0

/-! ### The ports written -/

/-- `m_ClientRTPPort = atoi(cur_pos)` -/
def portNumber (digits : Bytes) : UInt16 := UInt16.ofInt (atoi digits)

section

variable {args : Bytes} {digits : Bytes}

theorem portNumber_toNat (small : digitsValue digits < 2 ^ 16) : (portNumber digits).toNat = digitsValue digits := by
  have value := atoi_exact.mpr (Nat.lt_trans small (by decide))
  have mod : ((digitsValue digits : Int) % 2 ^ 16).toNat = digitsValue digits := by omega
  rw [portNumber, value, UInt16.ofInt, mod, UInt16.toNat_ofNat_of_lt' small]

theorem portNumber_iff : (portNumber digits).toNat = digitsValue digits ↔ digitsValue digits < 2 ^ 16 :=
  ⟨fun same => same ▸ UInt16.toNat_lt _, portNumber_toNat⟩

theorem portRanges_rtp (args : Bytes) : (portRanges args).map PortRange.rtp = (portsRead args).map digitsValue := by
  unfold portRanges portsRead
  induction partsRead args with
  | nil => rfl
  | cons part parts ih =>
    rw [List.filterMap_cons, List.filterMap_cons, portRange]
    cases clientPort part with
    | none => exact ih
    | some port => exact congrArg (digitsValue port :: ·) ih

theorem portRanges_nil : portRanges args = [] ↔ portsRead args = [] := by
  rw [← List.map_eq_nil_iff (f := PortRange.rtp), portRanges_rtp, List.map_eq_nil_iff]

theorem portWrites_numbered (numbered : [] ∉ portsRead args) :
    portWrites args = (portsRead args).map fun digits => .clientPort (portNumber digits) := by
  unfold portWrites
  rw [List.takeWhile_eq_self_iff.mpr]
  · rfl
  · intro digits member
    exact decide_eq_true fun none => numbered (none ▸ member)

/-- The ports of a list of writes; a `.protocol` resets the first port only. -/
theorem foldl_clientPorts (ports : List Bytes) (s : CRtspSession) :
    let t := (ports.map fun digits => TransportWrite.clientPort (portNumber digits)).foldl CRtspSession.write s
    t.m_TcpTransport = s.m_TcpTransport ∧
      (∀ digits ∈ ports.getLast?, t.m_ClientRTPPort = portNumber digits ∧ t.m_ClientRTCPPort = portNumber digits + 1) ∧
      (ports = [] → t = s) := by
  induction ports using List.reverseRecOn with
  | nil => exact ⟨rfl, nofun, fun _ => rfl⟩
  | append_singleton ports last ih =>
    dsimp only at ih ⊢
    rw [List.map_append, List.foldl_append, List.getLast?_concat, List.map_singleton, List.foldl_cons, List.foldl_nil,
      CRtspSession.write]
    refine ⟨ih.1, fun digits member => ?_, fun none => absurd none (by simp)⟩
    cases Option.some.inj member
    exact ⟨rfl, rfl⟩

theorem foldl_transportHeaders {headers : List (Bool × Bytes)} (numbered : ∀ h ∈ headers, [] ∉ portsRead h.2) (s : CRtspSession) :
    ((headers.flatMap fun h => argumentWrites (some h)).foldl CRtspSession.write s).m_ClientRTCPPort =
      match (headers.flatMap fun h => portsRead h.2).getLast? with
      | none => s.m_ClientRTCPPort
      | some digits => portNumber digits + 1 := by
  induction headers generalizing s with
  | nil => rfl
  | cons h headers ih =>
    rw [List.flatMap_cons, List.flatMap_cons, List.foldl_append, ih fun h' later => numbered h' (List.mem_cons_of_mem h later),
      List.getLast?_append, argumentWrites, portWrites_numbered (numbered h List.mem_cons_self)]
    cases (headers.flatMap fun h => portsRead h.2).getLast? with
    | some digits => rfl
    | none =>
      obtain ⟨-, last, empty⟩ := foldl_clientPorts (portsRead h.2) (s.write (.protocol h.1))
      rw [Option.none_or, List.foldl_cons]
      cases found : (portsRead h.2).getLast? with
      | some digits => exact (last digits found).2
      | none =>
        rw [List.getLast?_eq_none_iff] at found
        rw [empty found]
        rfl

end

/-! ### The headers of an accepted request -/

section

variable {c : ParseCall} {q a : Bytes} {size : Nat} {x : CRtspSession × Bytes}

theorem lineWrites_eq (x : CRtspSession × Bytes) : lineWrites x = argumentWrites (lineHeader x) := by
  unfold lineWrites lineHeader
  split
  · match lineStart x.2 with
    | .error _ => rfl
    | .ok none => rfl
    | .ok (some l) =>
      dsimp only
      cases transportArguments l <;> rfl
  · rfl

theorem transportWrites_eq (c : ParseCall) :
    transportWrites c.session c.text c.size = c.transportHeaders.flatMap fun h => argumentWrites (some h) := by
  unfold transportWrites ParseCall.transportHeaders
  match lineCursor c.session (bufferOf c.text) with
  | .error _ => rfl
  | .ok none => rfl
  | .ok (some cur) =>
    dsimp only
    rw [List.filterMap_eq_flatMap_toList, List.flatMap_assoc]
    refine List.flatMap_congr fun x _ => ?_
    rw [lineWrites_eq]
    cases lineHeader x with
    | none => rfl
    | some h => exact (List.append_nil _).symm

theorem lineHeader_unread (unread : ∀ l, lineStart x.2 = .ok (some l) → ∀ c, l.head? = some c → c = NUL) :
    lineHeader x = none := by
  unfold lineHeader
  match started : lineStart x.2 with
  | .error _ => exact ite_self _
  | .ok none => exact ite_self _
  | .ok (some l) =>
    dsimp only
    match read : transportArguments l with
    | .error _ => exact ite_self _
    | .ok none => exact ite_self _
    | .ok (some args) => exact absurd read (transportArguments_nul (unread l started))

/-- A round that goes on, or that accepts the request, has read no `client_port=` without a number. -/
theorem headerRound_numbered (h : Inside (padding q) x.2) :
    (∀ y, Loop.Next (headerRound transport a size) x y → PortsNumbered (lineHeader x)) ∧
      ∀ t, headerRound transport a size x = .ok (.inr (t, true)) → PortsNumbered (lineHeader x) := by
  rcases headerRound_cases a size transport h with ⟨-, unread⟩ | ⟨l, started, inside, round⟩
  · rw [lineHeader_unread unread]
    exact ⟨fun _ _ => nofun, fun _ _ => nofun⟩
  obtain ⟨args, arguments, -⟩ := transportArguments_inside inside
  have header : lineHeader x = if x.1.m_RtspCmdType = .RTSP_SETUP then args else none := by
    unfold lineHeader
    rw [started]
    dsimp only
    rw [arguments]
  unfold Loop.Next
  rw [round]
  have line := fun t r => @headerLineWith_writes _ _ x.1 t args r inside
    (size - ((a.length : Int) - (l.length : Int))) arguments
  match headerLineWith transport x.1 (size - ((a.length : Int) - (l.length : Int))) l, line with
  | .error e, _ => exact ⟨fun y next => (nomatch next), fun t done => (nomatch done)⟩
  | .ok (t, none), _ => exact ⟨fun y next => (nomatch next), fun t' done => (nomatch done)⟩
  | .ok (t, some cur), line =>
    refine ⟨fun y next => ?_, fun t' done => nomatch done⟩
    rw [header]
    split
    · rename_i setup
      exact (line _ _ rfl).2 nofun setup
    · exact nofun

theorem transportHeaders_numbered {t : CRtspSession} (accepted : c.parse = .ok (t, true)) :
    ∀ h ∈ c.transportHeaders, [] ∉ portsRead h.2 := by
  have related := parseIn_ParseRtspRequest c.session c.size (parts_fit accepted) (Nat.lt_succ_self _)
  change ParseRtspRequest _ _ _ = _ at accepted
  rw [accepted] at related
  obtain ⟨r, passed, inside⟩ := lineCursor_inside c.session c.text
  unfold parseIn at related
  unfold ParseCall.transportHeaders
  rw [passed] at related ⊢
  rw [ok_bind] at related
  match r, inside with
  | none, _ => exact nofun
  | some cur, inside =>
    obtain ⟨here, short⟩ := inside cur rfl
    dsimp only at related ⊢
    rw [run_transportIn here (Nat.lt_succ_of_le short)] at related
    match parsed : Loop.run (headerRound transport (bufferOf c.text) c.size) .hang ((bufferOf c.text).length + 1)
        (c.session.newCommandInit, cur), related with
    | .ok (u, b), ⟨_, same⟩ =>
      cases same
      have numbered := Loop.trace_all (I := fun x => Inside (padding c.text) x.2) (G := fun x => PortsNumbered (lineHeader x))
        (fun x y within next => ⟨(headerRound_numbered within).1 y next, (headerRound_next sound_transport within next).1⟩)
        (fun x within done => (headerRound_numbered within).2 u done) here parsed
      intro h member
      obtain ⟨x, head, read⟩ := List.mem_filterMap.mp member
      exact numbered x head h read

/-- What an accepted request leaves in the `Transport` fields, if its last `Transport` header is `args`. -/
theorem accepted_ports {t : CRtspSession} {tcp : Bool} {args : Bytes} (accepted : c.parse = .ok (t, true))
    (last : c.transportHeaders.getLast? = some (tcp, args)) :
    t.m_TcpTransport = tcp ∧
      (∀ digits ∈ (portsRead args).getLast?, t.m_ClientRTPPort = portNumber digits ∧ t.m_ClientRTCPPort = portNumber digits + 1) ∧
      (portsRead args = [] → t.m_ClientRTPPort = 0 ∧ t.m_ClientRTCPPort = c.leftRTCPPort) := by
  have numbered := transportHeaders_numbered accepted
  have writes := ParseRtspRequest_writes accepted
  have split : c.transportHeaders = c.transportHeaders.dropLast ++ [(tcp, args)] := by
    rw [List.getLast?_eq_some_iff] at last
    obtain ⟨front, whole⟩ := last
    rw [whole, List.dropLast_concat]
  rw [split] at numbered
  obtain ⟨before, here⟩ := List.forall_mem_append.mp numbered
  rw [transportWrites_eq, split, List.flatMap_append, List.foldl_append, List.flatMap_singleton, argumentWrites,
    List.foldl_cons, portWrites_numbered (here _ (List.mem_singleton_self _))] at writes
  have left := foldl_transportHeaders before c.session
  generalize (c.transportHeaders.dropLast.flatMap fun h => argumentWrites (some h)).foldl CRtspSession.write c.session = s at writes left
  obtain ⟨same, ports, none⟩ := foldl_clientPorts (portsRead args) (s.write (.protocol tcp))
  refine ⟨writes.tcp.trans same, fun digits member => ?_, fun empty => ?_⟩
  · obtain ⟨rtp, rtcp⟩ := ports digits member
    exact ⟨writes.rtp.trans rtp, writes.rtcp.trans rtcp⟩
  · rw [none empty] at writes
    exact ⟨writes.rtp, writes.rtcp.trans left⟩

/-- The ports are recorded as asked for exactly when they fit. -/
theorem portsRequested_iff {t : CRtspSession} {tcp : Bool} {args : Bytes} (accepted : c.parse = .ok (t, true))
    (last : c.transportHeaders.getLast? = some (tcp, args)) : PortsRequested args t ↔ c.PortsFit args := by
  obtain ⟨-, ports, none⟩ := accepted_ports accepted last
  by_cases empty : portRanges args = []
  · obtain ⟨rtp, rtcp⟩ := none (portRanges_nil.mp empty)
    constructor
    · intro requested
      refine ⟨by rw [empty]; exact nofun, by rw [empty]; exact nofun, fun _ => ?_⟩
      rw [← rtcp]
      exact (requested.reset empty).2
    · intro fit
      refine ⟨by rw [empty]; exact nofun, fun _ => ⟨rtp, rtcp.trans (fit.fresh empty)⟩⟩
  · -- The last number read is the one in the session.
    have some : portsRead args ≠ [] := fun none => empty (portRanges_nil.mpr none)
    obtain ⟨rtp, rtcp⟩ := ports _ (List.getLast?_eq_getLast_of_ne_nil some)
    have second (small : digitsValue ((portsRead args).getLast some) < 2 ^ 16) :
        t.m_ClientRTCPPort.toNat = (digitsValue ((portsRead args).getLast some) + 1) % 2 ^ 16 := by
      rw [rtcp, UInt16.toNat_add, portNumber_toNat small]
      rfl
    have final : ∃ r ∈ portRanges args, r.rtp = digitsValue ((portsRead args).getLast some) := by
      have member : digitsValue ((portsRead args).getLast some) ∈ (portRanges args).map PortRange.rtp := by
        rw [portRanges_rtp]
        exact List.mem_map_of_mem (List.getLast_mem some)
      exact List.mem_map.mp member
    obtain ⟨r, member, value⟩ := final
    constructor
    · intro requested
      have small : digitsValue ((portsRead args).getLast some) < 2 ^ 16 := by
        rw [← portNumber_iff, ← rtp, ← value]
        exact (requested.given r member).1
      have same : ∀ r ∈ portRanges args, r.rtp = digitsValue ((portsRead args).getLast some) := by
        intro r' member'
        rw [← (requested.given r' member').1, rtp, portNumber_toNat small]
      refine ⟨fun r' member' => ?_, fun r1 member1 r2 member2 => (same r2 member2).trans (same r1 member1).symm,
        fun none => absurd none empty⟩
      rw [← (requested.given r' member').2, second small, same r' member']
      exact ⟨small, rfl⟩
    · intro fit
      have small : digitsValue ((portsRead args).getLast some) < 2 ^ 16 := value ▸ (fit.range r member).1
      refine ⟨fun r' member' => ?_, fun none => absurd none empty⟩
      have same : r'.rtp = digitsValue ((portsRead args).getLast some) := (fit.same r member r' member').trans value
      rw [(fit.range r' member').2, same, rtp, portNumber_toNat small, second small]
      exact ⟨rfl, rfl⟩

end

/-! ### Over the calls of the server -/

/-- The parser accepts a SETUP whose `Transport` header selects UDP, with the sub-parameters `args`. -/
structure ParseCall.SetsUpUdp (c : ParseCall) (args : Bytes) : Prop where
  setup : c.session.m_RtspCmdType = .RTSP_SETUP
  accepted : ∃ s, c.parse = .ok (s, true)
  header : c.transportHeaders.getLast? = some (false, args)

/-- Session `i` has the ports asked for, its response names them, and they are where packets go. -/
structure PortsRecorded (args : Bytes) (i : Nat) (h : History) : Prop where
  requested : PortsRequested args (h.server.session i)
  echoed : ∃ n serverRtp serverRtcp id, h.log.head?.map Entry.sent =
    some [.setup n (.udp (h.server.session i).m_ClientRTPPort (h.server.session i).m_ClientRTCPPort serverRtp serverRtcp) id]
  copied : (h.server.session i).m_RtpClientPort = (h.server.session i).m_ClientRTPPort ∧
    (h.server.session i).m_RtcpClientPort = (h.server.session i).m_ClientRTCPPort
  target : ∀ f, ∀ d ∈ h.server.fanOut f, d.1 = i →
    ∃ socket, d.2 = .udp socket (h.server.session i).m_ClientRTPPort (f.drop 4)

/-- The ports of a SETUP over UDP are recorded in the step that accepts it. -/
def History.RecordsPorts (h : History) : Event → Prop
  | .addSession _ => True
  | .read i read => i ∈ h.server.m_Clients → ∀ c, (h.server.session i).parseCall h.server.receiver read = some c →
      ∀ args, c.SetsUpUdp args → ∃ h', h.step (.read i read) = .ok h' ∧ PortsRecorded args i h'

section

variable {h : History} {i : Nat} {read : SocketRead} {c : ParseCall} {args : Bytes}

/-- What a session does that accepted a SETUP for UDP and is `s` then. -/
def setupTurn (st : CStreamer) (s : CRtspSession) : Turn where
  streamer := st.InitUdpTransport
  session := { s with m_RtpClientPort := s.m_ClientRTPPort, m_RtcpClientPort := s.m_ClientRTCPPort }
  receiver := Receiver.empty
  sent := [.setup s.m_CSeq (.udp s.m_ClientRTPPort s.m_ClientRTCPPort st.InitUdpTransport.m_RtpServerPort
    st.InitUdpTransport.m_RtcpServerPort) s.m_RtspSessionID]
  result := true

theorem Handle_RtspSETUP_udp {s : CRtspSession} (st : CStreamer) (udp : s.m_TcpTransport = false) :
    s.Handle_RtspSETUP st = ((setupTurn st s).streamer, (setupTurn st s).session, (setupTurn st s).sent) := by
  cases s
  cases udp
  rfl

theorem setup_turn (called : (h.server.session i).parseCall h.server.receiver read = some c) (udp : c.SetsUpUdp args) :
    ∃ s, c.parse = .ok (s, true) ∧ s.m_stopped = false ∧ s.m_TcpTransport = false ∧
      h.server.turn i read = .ok (setupTurn h.server.streamer s) := by
  obtain ⟨setup, ⟨s, accepted⟩, header⟩ := udp
  obtain ⟨live, start⟩ := parseCall_session called
  have outside := ParseRtspRequest_outside accepted
  have udp := (accepted_ports accepted header).1
  have cmd : s.m_RtspCmdType = .RTSP_SETUP := outside.cmd.trans setup
  have going : s.m_stopped = false := by
    rw [outside.stopped]
    rcases start with same | ⟨cmd, same⟩ <;> (rw [same]; exact live)
  refine ⟨s, accepted, going, udp, ?_⟩
  have handled : c.session.Handle_RtspRequest h.server.streamer (bufferOf c.text) c.size =
      .ok ((setupTurn h.server.streamer s).streamer, (setupTurn h.server.streamer s).session,
        (setupTurn h.server.streamer s).sent) := by
    unfold ParseCall.parse at accepted
    unfold CRtspSession.Handle_RtspRequest CRtspSession.dispatch
    rw [accepted, ok_bind]
    dsimp only
    rw [cmd]
    exact congrArg Except.ok (Handle_RtspSETUP_udp h.server.streamer udp)
  have mark : (setupTurn h.server.streamer s).session.markCommand = (setupTurn h.server.streamer s).session := by
    have cmd : (setupTurn h.server.streamer s).session.m_RtspCmdType = .RTSP_SETUP := cmd
    unfold CRtspSession.markCommand
    rw [cmd]
  unfold Server.turn
  rw [handleRequests_parseCall called, handled, ok_bind]
  dsimp only
  rw [mark]
  rfl

theorem setup_recorded (member : i ∈ h.server.m_Clients)
    (called : (h.server.session i).parseCall h.server.receiver read = some c) (udp : c.SetsUpUdp args) :
    (∃ h', h.step (.read i read) = .ok h' ∧ PortsRecorded args i h') ↔ c.PortsFit args := by
  obtain ⟨s, accepted, going, overUdp, turn⟩ := setup_turn called udp
  obtain ⟨client, session⟩ := Server.settle_self h.server i member (setupTurn h.server.streamer s)
  have kept := session going
  have taken : h.step (.read i read) = .ok ⟨h.server.settle i (setupTurn h.server.streamer s),
      ⟨i, read, (setupTurn h.server.streamer s).session, (setupTurn h.server.streamer s).sent⟩ :: h.log⟩ := by
    unfold History.step
    dsimp only
    rw [if_pos member, turn]
    rfl
  have requested : PortsRequested args (setupTurn h.server.streamer s).session ↔ c.PortsFit args := by
    rw [← portsRequested_iff accepted udp.header]
    exact ⟨fun r => ⟨r.given, r.reset⟩, fun r => ⟨r.given, r.reset⟩⟩
  rw [← requested, taken]
  constructor
  · rintro ⟨h', same, recorded⟩
    cases same
    exact kept ▸ recorded.requested
  · intro ports
    refine ⟨_, rfl, kept.symm ▸ ports, ?_, ?_, fun f d handed own => ?_⟩
    · rw [kept]
      exact ⟨_, _, _, _, rfl⟩
    · rw [kept]
      exact ⟨rfl, rfl⟩
    · have only : d ∈ ((h.server.settle i (setupTurn h.server.streamer s)).fanOut f).filter fun d => d.1 = i :=
        List.mem_filter.mpr ⟨handed, decide_eq_true own⟩
      rw [Server.fanOut_own] at only
      split at only
      · rw [List.mem_singleton.mp only, kept]
        refine ⟨(h.server.settle i (setupTurn h.server.streamer s)).streamer.m_RtpSocket, ?_⟩
        change (if s.m_TcpTransport then _ else _) = _
        rw [overUdp]
        rfl
      · cases only

end

theorem recordsPorts_iff (h : History) (e : Event) :
    h.RecordsPorts e ↔ h.EachParse (fun c => ∀ args, c.SetsUpUdp args → c.PortsFit args) e := by
  cases e with
  | addSession random => exact Iff.rfl
  | read i read =>
    exact forall_congr' fun member => forall_congr' fun c => forall_congr' fun called => forall_congr' fun args =>
      forall_congr' fun udp => setup_recorded member called udp

/-- A SETUP request for the ports 7000 and 7005. -/
def setupApart : Bytes := ascii ("SETUP rtsp://h/live/1 RTSP/1.0\r\nCSeq: 1\r\n" ++
  "Transport: RTP/AVP;client_port=7000-7005\r\n\r\n")

theorem not_recordsPorts_apart :
    ¬ Runs.EachTry History.step History.RecordsPorts [.addSession 5, .read 0 (.data setupApart)]
      (History.start ⟨fun _ => true, 2, []⟩ (ascii "live") (ascii "1")) := by
  rintro ⟨-, rest⟩
  obtain ⟨records, -⟩ := rest _ rfl
  let s := (CRtspSession.create 5).recognised (bufferOf setupApart)
  let c : ParseCall := ⟨s, setupApart, setupApart.length, .hdrStateGotMethod⟩
  have called : (CRtspSession.create 5).parseCall Receiver.empty (.data setupApart) = some c := by decide +kernel
  have accepted : ∃ t, c.parse = .ok (t, true) := parse_verdict (by decide +kernel)
  let args := ascii ";client_port=7000-7005\r\n\r\n" ++ NUL :: padding setupApart
  have header : c.transportHeaders.getLast? = some (false, args) := by decide +kernel
  have udp : c.SetsUpUdp args := ⟨by decide +kernel, accepted, header⟩
  have fit := (setup_recorded (List.mem_singleton_self 0) called udp).mp
    (records (List.mem_singleton_self 0) c called args udp)
  have apart : portRanges args = [⟨7000, some 7005⟩] := by decide +kernel
  exact absurd (fit.range ⟨7000, some 7005⟩ (by rw [apart]; exact List.mem_singleton_self _)).2 (by decide)

/-- In every run of the server, the ports of a SETUP over UDP are recorded exactly where they fit. -/
theorem each_recordsPorts_iff (udp : UdpSockets) (pres stream : Bytes) (events : List Event) :
    Runs.EachTry History.step History.RecordsPorts events (History.start udp pres stream) ↔
      Runs.EachTry History.step (History.EachParse fun c => ∀ args, c.SetsUpUdp args → c.PortsFit args) events
        (History.start udp pres stream) :=
  Runs.eachTry_congr recordsPorts_iff

end RtspServer
