import RtspServer.Base.Components
import RtspServer.Media.FileStream
import RtspServer.Media.WorkerThread
import RtspServer.Session.UdpHandles

/-!
# The processes of the program

`main` forks a process for each connection. The processes have nothing in common
but the UDP ports of the machine, and each goes on whatever becomes of the others.
-/

namespace RtspServer

/-- The server ports that a response names. -/
def Response.serverPorts : Response → Option (UInt16 × UInt16)
  | setup _ (.udp _ _ rtp rtcp) _ => some (rtp, rtcp)
  | _ => none

/-- The ports that the streamer has bound. The RTCP socket is not open without the other one. -/
def CStreamer.ports (st : CStreamer) : List Nat :=
  if st.m_RtcpSocket = NULLSOCKET then [] else [st.m_RtpServerPort.toNat, st.m_RtcpServerPort.toNat]

namespace Thread

/-- The server ports that the client was told. -/
def announced (th : Thread) : List (UInt16 × UInt16) := th.calls.flatMap fun e => e.sent.filterMap Response.serverPorts

/-- Behind the end of the loop the process exits, and has no ports any more. -/
def ports (th : Thread) : List Nat := if th.streamer.anySessions then th.streamer.streamer.ports else []

/-- The ports that can be bound change between the rounds. -/
def rebind (th : Thread) (bindable : Nat → Bool) : Thread :=
  { th with streamer := { th.streamer with streamer := { th.streamer.streamer with
      udp := { th.streamer.streamer.udp with bindable } } } }

end Thread

/-- Whether a process goes on with its rounds, hangs in one, or has been ended by a fault in one. -/
inductive Condition where
  | goes | hangs | dead
  deriving DecidableEq

/-- A forked process, as its last whole round left it. -/
structure Child where
  thread : Thread
  condition : Condition

namespace Child

/-- The ports stay bound in a process that hangs, which it does in the parser and in front of the handlers. -/
def ports (c : Child) : List Nat := if c.condition = .dead then [] else c.thread.ports

/-- A round of the process. Leaving an array is taken to end it. -/
def round (stream : Segment) (bindable : Nat → Bool) (read : SocketRead) (c : Child) : Child :=
  if c.condition = .goes then
    match (c.thread.rebind bindable).step stream read with
    | .ok th => { c with thread := th }
    | .error .hang => { c with condition := .hangs }
    | .error .outOfBounds => { c with condition := .dead }
  else c

end Child

/-- `main` with the processes that it forked. -/
structure Processes where
  rtpMuxContext : RTPMuxContext
  children : List Child

/-- `unused` are the ports that the other programs on the machine leave free throughout the round. -/
inductive Happening where
  | accept (random : Nat)
  | round (k : Nat) (unused : Nat → Bool) (read : SocketRead)

namespace Processes

def ports (ps : Processes) (k : Nat) : List Nat := Components.held Child.ports ps.children k

/-- The ports that `bind` accepts. -/
def free (ps : Processes) (unused : Nat → Bool) (p : Nat) : Bool :=
  unused p && ps.children.all fun child => p ∉ child.ports

/-- `workerThread` in a child, with its copy of the globals. -/
def fork (stream : Segment) (ps : Processes) (random : Nat) : Thread :=
  ⟨(Server.create (CStreamer.create ⟨fun _ => false, 0, []⟩)).addSession random,
    ⟨stream.base, stream_len stream, ps.rtpMuxContext⟩, []⟩

def start (ctx : RTPMuxContext) : Processes := ⟨initRTPMuxContext ctx, []⟩

def step (stream : Segment) (ps : Processes) : Happening → Processes
  | .accept random => { ps with children := ps.children ++ [⟨ps.fork stream random, .goes⟩] }
  | .round k unused read => { ps with children := ps.children.modify k (Child.round stream (ps.free unused) read) }

def run (stream : Segment) (ctx : RTPMuxContext) (happenings : List Happening) : Processes :=
  happenings.foldl (step stream) (start ctx)

/-! ### The copies -/

/-- `main` does not touch its own context. -/
theorem step_context (stream : Segment) (ps : Processes) (e : Happening) : (ps.step stream e).rtpMuxContext = ps.rtpMuxContext := by
  cases e <;> rfl

theorem fork_start (ctx : RTPMuxContext) {stream : Segment} {ps : Processes} (copied : ps.rtpMuxContext = initRTPMuxContext ctx)
    (random : Nat) : ps.fork stream random = Thread.start ⟨fun _ => false, 0, []⟩ random stream ctx := by
  unfold fork
  rw [copied]
  rfl

theorem run_invariant {stream : Segment} {ctx : RTPMuxContext} {Inv : Processes → Prop} (init : Inv (start ctx))
    (keeps : ∀ ps e, Inv ps → Inv (ps.step stream e)) (happenings : List Happening) : Inv (run stream ctx happenings) :=
  List.foldlRecOn happenings _ init fun ps inv e _ => keeps ps e inv

/-- A round goes through, ends in one of the two faults, or is none. -/
theorem round_cases (stream : Segment) (bindable : Nat → Bool) (read : SocketRead) (c : Child) :
    (∃ th, c.condition = .goes ∧ (c.thread.rebind bindable).step stream read = .ok th ∧
      c.round stream bindable read = ⟨th, .goes⟩) ∨
    (c.condition = .goes ∧ (c.thread.rebind bindable).step stream read = .error .hang ∧
      c.round stream bindable read = ⟨c.thread, .hangs⟩) ∨
    c.round stream bindable read = ⟨c.thread, .dead⟩ ∨
    c.condition ≠ .goes ∧ c.round stream bindable read = c := by
  unfold Child.round
  by_cases goes : c.condition = .goes
  · rw [if_pos goes, goes]
    split
    · rename_i th taken
      exact .inl ⟨th, rfl, taken, rfl⟩
    · rename_i hangs
      exact .inr (.inl ⟨rfl, hangs, rfl⟩)
    · exact .inr (.inr (.inl rfl))
  · rw [if_neg goes]
    exact .inr (.inr (.inr ⟨goes, rfl⟩))

/-- All processes are `P` behind their whole rounds. -/
structure All (ctx : RTPMuxContext) (P : Thread → Prop) (ps : Processes) : Prop where
  copied : ps.rtpMuxContext = initRTPMuxContext ctx
  children : ∀ child ∈ ps.children, P child.thread

section

variable {stream : Segment} {ctx : RTPMuxContext} {P : Thread → Prop}
  (forked : ∀ random, P (Thread.start ⟨fun _ => false, 0, []⟩ random stream ctx))
  (rebound : ∀ th bindable, P th → P (th.rebind bindable))
  (keeps : ∀ th read th', P th → th.step stream read = .ok th' → P th')

include forked rebound keeps

theorem All.step {ps : Processes} (all : All ctx P ps) (e : Happening) : All ctx P (ps.step stream e) := by
  obtain ⟨copied, children⟩ := all
  refine ⟨(ps.step_context stream e).trans copied, ?_⟩
  cases e with
  | accept random =>
    refine Components.forall_add children ?_
    show P (ps.fork stream random)
    rw [fork_start ctx copied]
    exact forked random
  | round k unused read =>
    refine Components.forall_step children (fun child _ holds => ?_) k
    rcases round_cases stream (ps.free unused) read child with ⟨th, -, taken, left⟩ | ⟨-, -, left⟩ | left | ⟨-, left⟩
    · rw [left]
      exact keeps _ read th (rebound _ (ps.free unused) holds) taken
    all_goals rw [left]; exact holds

/-- What holds when a process is forked, and is kept by its rounds whatever ports are free, holds of all processes. -/
theorem all_run (happenings : List Happening) : All ctx P (run stream ctx happenings) := by
  have init : All ctx P (start ctx) := ⟨rfl, fun _ member => absurd member List.not_mem_nil⟩
  exact run_invariant init (fun _ e all => All.step forked rebound keeps all e) happenings

end

end Processes

/-! ### The streams -/

section

variable {stream : Segment} {nals : List Bytes} {th th' : Thread} {read : SocketRead}

/-- The client has what the process passed of the file while the client played. -/
structure Streams (stream : Segment) (nals : List Bytes) (th : Thread) : Prop where
  serves : Serves stream nals th
  passing : Passing stream nals (th.log.countP (·.idle)) th.worker
  handed : th.handed = (List.range' (unitsMissed th.log) (unitsHanded th.log)).flatMap (packetsAt .wrapping nals)

theorem streams_start (udp : UdpSockets) (random : Nat) (ctx : RTPMuxContext) (file : StreamableFile stream nals) :
    Streams stream nals (Thread.start udp random stream ctx) :=
  ⟨serves_start udp random ctx file, passing_start ctx file, rfl⟩

theorem streams_rebind (bindable : Nat → Bool) (streams : Streams stream nals th) : Streams stream nals (th.rebind bindable) := by
  obtain ⟨⟨packets, start, s, position, ⟨stage, parsed, units, numbers⟩⟩, passing, handed⟩ := streams
  refine ⟨⟨packets, start, s, position, ?_, parsed, units, numbers⟩, passing, handed⟩
  cases stage with
  | waiting one silent none nothing => exact .waiting one silent none nothing
  | playing one streams some rounds next => exact .playing one streams some rounds next
  | ended gone => exact .ended gone

/-- An idle round of a playing client hands out the unit at the position, which is the next one for it. -/
theorem handed_idle {t : Turn} {worker : Worker} {fs : List Bytes} (streams : Streams stream nals th)
    (one : th.streamer.m_Clients = [0]) (turn : th.streamer.turn 0 read = .ok t) (idle : t.result = false)
    (packets : fs.map (·.drop 4) = packetsAt .wrapping nals (th.log.countP (·.idle))) :
    let log := th.log ++ [⟨[t.entry read], true, fs.flatMap (th.streamer.settle 0 t).fanOut⟩]
    Thread.handed ⟨th.streamer.settle 0 t, worker, log⟩ =
      (List.range' (unitsMissed log) (unitsHanded log)).flatMap (packetsAt .wrapping nals) := by
  intro log
  obtain ⟨⟨ps, start, s, -, ⟨stage, -, -, -⟩⟩, -, handed⟩ := streams
  obtain ⟨-, -, flags, all⟩ := @idle_round th read t worker fs one turn idle
  rw [handed, packets] at all
  rw [all]
  cases stage with
  | waiting _ silent none nothing =>
    rw [silent] at flags
    have none' : ∀ x ∈ log, x.streams = false :=
      List.forall_mem_append.mpr ⟨none, List.forall_mem_singleton.mpr flags⟩
    rw [silent, if_neg Bool.false_ne_true, (unitsMissed_silent none).2, (unitsMissed_silent none').2]
    rfl
  | playing _ streams some rounds next =>
    rw [streams] at flags
    obtain ⟨x, inside, playing⟩ := some
    have missed : unitsMissed log = unitsMissed th.log := unitsMissed_streaming ⟨x, inside, playing⟩ _
    have more : unitsHanded log = unitsHanded th.log + 1 := unitsHanded_concat rfl flags
    rw [streams, if_pos rfl, missed, more, List.range'_concat, List.flatMap_append, List.flatMap_singleton, Nat.one_mul, rounds]
  | ended gone => rw [one] at gone; cases gone

theorem streams_step (file : StreamableFile stream nals) (streams : Streams stream nals th)
    (taken : th.step stream read = .ok th') : Streams stream nals th' := by
  have serves := serves_step file streams.serves taken
  rcases streams.serves.clients with one | none
  · obtain ⟨t, turn, ⟨-, rfl⟩ | ⟨idle, worker, fs, iterated, rfl⟩⟩ := Thread.step_cases one taken
    · refine ⟨serves, ?_, ?_⟩
      · rw [idle_concat]
        exact streams.passing
      · have busy : (⟨[t.entry read], false, []⟩ : Round).idle = false := rfl
        rw [handed_concat, (unitsMissed_busy busy).1, (unitsMissed_busy busy).2]
        exact (List.append_nil _).trans streams.handed
    · obtain ⟨worker', fs', iterated', packets, next⟩ := streams.passing.iterate file
      cases iterated.symm.trans iterated'
      refine ⟨serves, ?_, handed_idle streams one turn idle packets⟩
      rw [idle_concat]
      exact next
  · rw [Thread.step_ended none] at taken
    cases taken
    exact streams

end

/-- Whatever the other clients and processes do, each client is handed a piece of one and the same stream of packets, which
the file determines: the units that its own process passes from its PLAY on. -/
theorem main_delivers (ctx : RTPMuxContext) (stream : Segment) (nals : List Bytes) (happenings : List Happening)
    (file : StreamableFile stream nals) :
    ∃ clock : Clock, ∀ (k : Nat) (c : Child), (Processes.run stream ctx happenings).children[k]? = some c →
      c.thread.handed =
          (List.range' (unitsMissed c.thread.log) (unitsHanded c.thread.log)).flatMap (packetsAt clock nals) ∧
        ∃ packets, c.thread.handed.mapM Rtp.parse = some packets ∧
          Hevc.depacketize (packets.map Rtp.Packet.payload) =
            some ((List.range' (unitsMissed c.thread.log) (unitsHanded c.thread.log)).map (unitAt nals)) := by
  refine ⟨.wrapping, fun k c child => ?_⟩
  have streams : Streams stream nals c.thread :=
    (Processes.all_run (fun random => streams_start _ random ctx file) (fun th bindable => streams_rebind bindable)
      (fun th read th' => streams_step file) happenings).children _ (List.mem_of_getElem? child)
  obtain ⟨packets, start, s, -, delivered⟩ := streams.serves.position
  exact ⟨streams.handed, packets, delivered.parsed, Hevc.depacketize_of_receiveAll delivered.units⟩

/-- A request with a lone CR in its Transport header, in which the parser hangs. -/
def hangRequest : Bytes :=
  ascii "SETUP rtsp://h/live/1 RTSP/1.0\r\nCSeq: 3\r\nTransport: RTP/AVP;\rx\r\n\r\n"

/-- Two clients. The process of the first one hangs in front of the last round. -/
def twoClients : List Happening :=
  let unused : Nat → Bool := fun _ => true
  [.accept 5, .round 0 unused (.data setupBytes), .round 0 unused .timeout, .accept 6, .round 0 unused (.data hangRequest),
    .round 1 unused (.data setupBytes), .round 1 unused .timeout, .round 1 unused (.data playRequest.bytes),
    .round 1 unused .timeout]

theorem main_delivers_two :
    let nals : List Bytes := [[0x40, 1, 7], [0x42, 1]]
    let ctx : RTPMuxContext := ⟨.zero _, .zero _, 0, 0, 0, 0, 0, 0⟩
    let ps := Processes.run ⟨1, fileOf nals⟩ ctx twoClients
    StreamableFile ⟨1, fileOf nals⟩ nals ∧
      ps.children.map (fun c => (c.condition, unitsMissed c.thread.log, unitsHanded c.thread.log)) =
        [(.hangs, 1, 0), (.goes, 1, 1)] ∧
      ∃ clock : Clock, ∀ (k : Nat) (c : Child), ps.children[k]? = some c →
        c.thread.handed =
            (List.range' (unitsMissed c.thread.log) (unitsHanded c.thread.log)).flatMap (packetsAt clock nals) ∧
          ∃ packets, c.thread.handed.mapM Rtp.parse = some packets ∧
            Hevc.depacketize (packets.map Rtp.Packet.payload) =
              some ((List.range' (unitsMissed c.thread.log) (unitsHanded c.thread.log)).map (unitAt nals)) := by
  intro nals ctx ps
  exact ⟨streamable_two, by decide +kernel, main_delivers ctx ⟨1, fileOf nals⟩ nals twoClients streamable_two⟩

/-! ### The ports told -/

theorem serverPorts_nil {sent : List Response} (other : sent.any Response.isUdpSetup = false) :
    sent.filterMap Response.serverPorts = [] := by
  rw [List.any_eq_false] at other
  refine List.filterMap_eq_nil_iff.mpr fun r member => ?_
  cases r with
  | setup n transport id =>
    cases transport with
    | tcp => rfl
    | udp => exact absurd rfl (other _ member)
  | _ => rfl

theorem dispatch_serverPorts (st : CStreamer) (s : CRtspSession) : ∀ a ∈ (s.dispatch st).2.2.filterMap Response.serverPorts,
    a = ((s.dispatch st).1.m_RtpServerPort, (s.dispatch st).1.m_RtcpServerPort) := by
  rcases dispatch_udp st s with ⟨-, -, setup⟩ | ⟨other, -⟩
  · unfold CRtspSession.dispatch
    rw [setup]
    dsimp only
    unfold CRtspSession.Handle_RtspSETUP CRtspSession.InitTransport
    cases tcp : s.m_TcpTransport with
    | true => exact fun a member => absurd member List.not_mem_nil
    | false =>
      intro a member
      exact List.mem_singleton.mp member
  · rw [serverPorts_nil other]
    exact fun a member => absurd member List.not_mem_nil

/-- A response names the ports that the streamer has behind the call. -/
theorem turn_serverPorts {sv : Server} {i : Nat} {read : SocketRead} {t : Turn} (member : i ∈ sv.m_Clients)
    (turn : sv.turn i read = .ok t) :
    ∀ a ∈ t.sent.filterMap Response.serverPorts, a = (t.streamer.m_RtpServerPort, t.streamer.m_RtcpServerPort) := by
  have silent {sent : List Response} (none : sent.filterMap Response.serverPorts = []) (p : UInt16 × UInt16) :
      ∀ a ∈ sent.filterMap Response.serverPorts, a = p := by
    rw [none]
    exact fun a member => absurd member List.not_mem_nil
  rcases handleRequests_cases (sv.live i member) turn with ⟨-, rfl⟩ | ⟨-, rfl⟩ | ⟨bytes, fits, -, -, answered⟩
  · exact silent rfl _
  · exact silent rfl _
  rcases answer_cases answered with ⟨-, -, rfl⟩ | ⟨-, -, rfl⟩ | ⟨st', s', sent, handled, rfl⟩
  · exact silent rfl _
  · exact silent rfl _
  rcases Handle_RtspRequest_cases handled with ⟨s1, -, same⟩ | ⟨-, rfl, rfl⟩
  · have ports := dispatch_serverPorts sv.streamer s1
    rw [← same] at ports
    exact ports
  · exact silent rfl _

/-- The streamer of a client that was told these ports: in front of its first UDP SETUP, or with what the search has found. -/
inductive Told (st : CStreamer) (announced : List (UInt16 × UInt16)) : Prop
  | nothing (count : st.m_udpRefCount = 0) (unbound : Unbound st) (silent : announced = [])
  | ports (positive : 0 < st.m_udpRefCount)
      (closed : st.m_RtcpSocket = NULLSOCKET → (st.m_RtpServerPort, st.m_RtcpServerPort) = (0, 0))
      (same : ∀ a ∈ announced, a = (st.m_RtpServerPort, st.m_RtcpServerPort))

section

variable {st : CStreamer} {announced more : List (UInt16 × UInt16)}

/-- The search takes a pair that can be bound, or leaves the ports at zero. -/
theorem init_ports (count : st.m_udpRefCount = 0) (unbound : Unbound st) :
    (st.InitUdpTransport.m_RtcpSocket = NULLSOCKET →
      (st.InitUdpTransport.m_RtpServerPort, st.InitUdpTransport.m_RtcpServerPort) = (0, 0)) ∧
      ∀ p ∈ st.InitUdpTransport.ports, st.udp.bindable p = true := by
  obtain ⟨k, allocated⟩ := init_allocated count unbound.rtp unbound.rtcp
  generalize st.InitUdpTransport = t at allocated
  cases allocated with
  | found P first form =>
    subst form
    have opened : st.udp.next + k + 2 ≠ NULLSOCKET := Nat.add_one_ne_zero _
    refine ⟨fun null => absurd null opened, fun p member => ?_⟩
    rw [CStreamer.ports, if_neg opened, first.candidate.toNat.1, first.candidate.toNat.2] at member
    rcases List.mem_pair.mp member with same | same
    · rw [same]
      exact first.pair.1
    · rw [same]
      exact first.pair.2
  | exhausted none rtp stale fresh form =>
    subst form
    refine ⟨fun _ => Prod.ext unbound.rtpPort unbound.rtcpPort, fun p member => ?_⟩
    rw [CStreamer.ports, if_pos unbound.rtcp] at member
    cases member

theorem Told.init (told : Told st announced)
    (same : ∀ a ∈ more, a = (st.InitUdpTransport.m_RtpServerPort, st.InitUdpTransport.m_RtcpServerPort)) :
    Told st.InitUdpTransport (announced ++ more) ∧
      ∀ p ∈ st.InitUdpTransport.ports, p ∈ st.ports ∨ st.udp.bindable p = true := by
  have count := init_refCount st
  cases told with
  | nothing idle unbound silent =>
    obtain ⟨closed, free⟩ := init_ports idle unbound
    refine ⟨.ports (by omega) closed ?_, fun p member => .inr (free p member)⟩
    rw [silent]
    exact same
  | ports positive closed before =>
    have kept : st.InitUdpTransport = { st with m_udpRefCount := st.m_udpRefCount + 1 } := by
      rw [CStreamer.InitUdpTransport, if_pos (by omega)]
    rw [kept] at count same ⊢
    exact ⟨.ports (by omega) closed (List.forall_mem_append.mpr ⟨before, same⟩), fun p member => .inl member⟩

end

section

variable {stream : Segment} {th th' : Thread} {read : SocketRead}

/-- A thread whose client was told the ports it has, as long as the client is there. -/
inductive Tells (th : Thread) : Prop
  | ended (gone : th.streamer.m_Clients = [])
  | live (one : th.streamer.m_Clients = [0]) (told : Told th.streamer.streamer th.announced)

theorem tells_start (udp : UdpSockets) (random : Nat) (stream : Segment) (ctx : RTPMuxContext) :
    Tells (Thread.start udp random stream ctx) := .live rfl (.nothing rfl ⟨rfl, rfl, rfl, rfl⟩ rfl)

theorem tells_rebind (bindable : Nat → Bool) (tells : Tells th) : Tells (th.rebind bindable) := by
  cases tells with
  | ended gone => exact .ended gone
  | live one told =>
    refine .live one ?_
    cases told with
    | nothing count unbound silent => exact .nothing count ⟨unbound.rtp, unbound.rtcp, unbound.rtpPort, unbound.rtcpPort⟩ silent
    | ports positive closed same => exact .ports positive closed same

theorem ports_gone (gone : th.streamer.m_Clients = []) : th.ports = [] := by
  unfold Thread.ports Server.anySessions
  rw [gone]
  rfl

theorem ports_live (one : th.streamer.m_Clients = [0]) : th.ports = th.streamer.streamer.ports := by
  unfold Thread.ports Server.anySessions
  rw [one]
  rfl

theorem announced_concat {t : Turn} {r : Round} (streamer : Server) (worker : Worker) (calls : r.calls = [t.entry read]) :
    Thread.announced ⟨streamer, worker, th.log ++ [r]⟩ = th.announced ++ t.sent.filterMap Response.serverPorts := by
  unfold Thread.announced Thread.calls
  rw [List.flatMap_append, List.flatMap_singleton, List.flatMap_append, calls, List.flatMap_singleton]
  rfl

/-- Behind a call the client was told the ports that the streamer has. -/
theorem told_turn {t : Turn} (one : th.streamer.m_Clients = [0]) (told : Told th.streamer.streamer th.announced)
    (turn : th.streamer.turn 0 read = .ok t) :
    Told t.streamer (th.announced ++ t.sent.filterMap Response.serverPorts) ∧
      ∀ p ∈ t.streamer.ports, p ∈ th.ports ∨ th.streamer.streamer.udp.bindable p = true := by
  have member : 0 ∈ th.streamer.m_Clients := by rw [one]; exact List.mem_singleton_self 0
  have same := turn_serverPorts member turn
  rw [ports_live one]
  rcases turn_udp member turn with ⟨-, opened, -⟩ | ⟨other, kept⟩
  · rw [opened] at same ⊢
    exact told.init same
  · rw [serverPorts_nil other, kept, List.append_nil]
    exact ⟨told, fun p member => .inl member⟩

theorem tells_settle {t : Turn} {worker : Worker} {r : Round} (one : th.streamer.m_Clients = [0])
    (told : Told th.streamer.streamer th.announced) (turn : th.streamer.turn 0 read = .ok t) (calls : r.calls = [t.entry read]) :
    Tells ⟨th.streamer.settle 0 t, worker, th.log ++ [r]⟩ ∧
      ∀ p ∈ Thread.ports ⟨th.streamer.settle 0 t, worker, th.log ++ [r]⟩,
        p ∈ th.ports ∨ th.streamer.streamer.udp.bindable p = true := by
  have clients := settle_single one t
  obtain ⟨after, free⟩ := told_turn one told turn
  cases stopped : t.session.m_stopped with
  | true =>
    rw [stopped] at clients
    have none : Thread.ports ⟨th.streamer.settle 0 t, worker, th.log ++ [r]⟩ = [] := ports_gone clients
    rw [none]
    exact ⟨.ended clients, fun p member => absurd member List.not_mem_nil⟩
  | false =>
    rw [stopped] at clients
    obtain ⟨streamer, -, -⟩ := Server.settle_going th.streamer 0 stopped
    have now : Thread.ports ⟨th.streamer.settle 0 t, worker, th.log ++ [r]⟩ = (th.streamer.settle 0 t).streamer.ports :=
      ports_live clients
    rw [now, streamer]
    refine ⟨.live clients ?_, free⟩
    rw [announced_concat _ _ calls]
    dsimp only
    rw [streamer]
    exact after

/-- A round binds ports only that can be bound. -/
theorem tells_step (tells : Tells th) (taken : th.step stream read = .ok th') :
    Tells th' ∧ ∀ p ∈ th'.ports, p ∈ th.ports ∨ th.streamer.streamer.udp.bindable p = true := by
  cases tells with
  | ended gone =>
    rw [Thread.step_ended gone] at taken
    cases taken
    exact ⟨.ended gone, fun p member => .inl member⟩
  | live one told =>
    obtain ⟨t, turn, ⟨-, rfl⟩ | ⟨-, worker, fs, -, rfl⟩⟩ := Thread.step_cases one taken
    · exact tells_settle one told turn rfl
    · exact tells_settle one told turn rfl

end

/-! ### The processes that hang -/

/-- The session is in a call of the parser that does not return. -/
def Thread.InParser (th : Thread) : Prop :=
  ∃ read c, (th.streamer.session 0).parseCall th.streamer.receiver read = some c ∧ c.parse = .error .hang

theorem handleRequests_hangs {st : CStreamer} {s : CRtspSession} {r : Receiver} {read : SocketRead}
    (h : s.handleRequests st r read = .error .hang) : ∃ c, s.parseCall r read = some c ∧ c.parse = .error .hang := by
  cases called : s.parseCall r read with
  | some c =>
    refine ⟨c, rfl, ?_⟩
    rw [handleRequests_parseCall called] at h
    unfold CRtspSession.Handle_RtspRequest at h
    cases parsed : ParseRtspRequest c.session (bufferOf c.text) c.size with
    | error e =>
      rw [parsed] at h
      have fault : e = .hang := Except.error.inj h
      rw [fault] at parsed
      exact parsed
    | ok x =>
      obtain ⟨s1, accepted⟩ := x
      rw [parsed] at h
      cases accepted <;> cases h
  | none =>
    unfold CRtspSession.handleRequests at h
    split at h
    · cases h
    rename_i live
    cases read with
    | timeout => cases h
    | data bytes =>
      dsimp only at h
      split at h
      · cases h
      rename_i nonempty
      split at h
      · rename_i fits
        obtain ⟨known, waiting⟩ := parseCall_none (by simpa using live) nonempty fits called
        unfold answer at h
        split at h
        · cases h
        rename_i ended
        rw [if_pos (waiting.resolve_right fun more => ended ⟨known, more⟩)] at h
        cases h
      · cases h

theorem Thread.step_hangs {stream : Segment} {th : Thread} {read : SocketRead} (one : th.streamer.m_Clients = [0])
    (h : th.step stream read = .error .hang) : th.InParser := by
  unfold Thread.step Server.anySessions Thread.round at h
  rw [one, if_pos (by rfl), serve_single] at h
  cases turn : th.streamer.turn 0 read with
  | error e =>
    rw [turn] at h
    have fault : e = .hang := Except.error.inj h
    rw [fault] at turn
    obtain ⟨c, called, hangs⟩ := handleRequests_hangs turn
    exact ⟨read, c, called, hangs⟩
  | ok t =>
    rw [turn] at h
    dsimp only [bind, Except.bind, pure, Except.pure] at h
    split at h
    · cases h
    · split at h <;> cases h

theorem round_inParser {stream : Segment} {bindable : Nat → Bool} {read : SocketRead} {c : Child} (tells : Tells c.thread)
    (hung : c.condition = .hangs → c.thread.InParser) :
    (c.round stream bindable read).condition = .hangs → (c.round stream bindable read).thread.InParser := by
  rcases Processes.round_cases stream bindable read c with ⟨th, -, -, left⟩ | ⟨-, hangs, left⟩ | left | ⟨-, left⟩
  · rw [left]
    exact nofun
  · rw [left]
    intro _
    cases tells_rebind bindable tells with
    | ended gone =>
      rw [Thread.step_ended gone] at hangs
      cases hangs
    | live one told =>
      have inside : (c.thread.rebind bindable).InParser := Thread.step_hangs one hangs
      exact inside
  · rw [left]
    exact nofun
  · rw [left]
    exact hung

/-! ### The ports of the processes -/

/-- The processes have different ports, their clients were told them, and what hangs is in the parser. -/
structure Portioned (ctx : RTPMuxContext) (ps : Processes) : Prop where
  tells : ps.All ctx Tells
  apart : Components.Apart Child.ports ps.children
  hung : ∀ child ∈ ps.children, child.condition = .hangs → child.thread.InParser

theorem Processes.not_held {ps : Processes} {unused : Nat → Bool} {p : Nat} (free : ps.free unused p = true) (j : Nat) :
    p ∉ ps.ports j := by
  unfold Processes.free at free
  rw [Bool.and_eq_true, List.all_eq_true] at free
  unfold ports Components.held
  cases found : ps.children[j]? with
  | none => exact List.not_mem_nil
  | some child => exact of_decide_eq_true (free.2 child (List.mem_of_getElem? found))

theorem Child.ports_alive {c : Child} (alive : c.condition ≠ .dead) : c.ports = c.thread.ports := if_neg alive

/-- Behind a round a process has ports that it had, or that could be bound. -/
theorem ports_round {stream : Segment} {bindable : Nat → Bool} {read : SocketRead} {c : Child} (tells : Tells c.thread) {p : Nat}
    (member : p ∈ (c.round stream bindable read).ports) : p ∈ c.ports ∨ bindable p = true := by
  rcases Processes.round_cases stream bindable read c with ⟨th, goes, taken, left⟩ | ⟨goes, -, left⟩ | left | ⟨-, left⟩
  · rw [left, Child.ports_alive (show Condition.goes ≠ .dead by decide)] at member
    rw [Child.ports_alive (by rw [goes]; decide)]
    exact (tells_step (tells_rebind bindable tells) taken).2 p member
  · rw [left, Child.ports_alive (show Condition.hangs ≠ .dead by decide)] at member
    rw [Child.ports_alive (by rw [goes]; decide)]
    exact .inl member
  · rw [left] at member
    cases member
  · rw [left] at member
    exact .inl member

theorem Portioned.step {ctx : RTPMuxContext} {ps : Processes} (portioned : Portioned ctx ps) (stream : Segment) (e : Happening) :
    Portioned ctx (ps.step stream e) := by
  obtain ⟨tells, apart, hung⟩ := portioned
  refine ⟨tells.step (fun random => tells_start _ random stream ctx) (fun th bindable => tells_rebind bindable)
    (fun th read th' tells taken => (tells_step tells taken).1) e, ?_, ?_⟩
  · cases e with
    | accept random => exact apart.add rfl
    | round k unused read =>
      refine apart.step fun child found p now => ?_
      have free := ports_round (tells.children _ (List.mem_of_getElem? found)) now
      exact free.imp_right fun free => ps.not_held free
  · cases e with
    | accept random => exact Components.forall_add hung nofun
    | round k unused read =>
      exact Components.forall_step hung (fun child member => round_inParser (tells.children child member)) k

theorem portioned_run (stream : Segment) (ctx : RTPMuxContext) (happenings : List Happening) :
    Portioned ctx (Processes.run stream ctx happenings) := by
  have none {P : Child → Prop} : ∀ child ∈ (Processes.start ctx).children, P child :=
    fun _ member => absurd member List.not_mem_nil
  have init : Portioned ctx (Processes.start ctx) := ⟨⟨rfl, none⟩, fun _ _ _ => List.disjoint_nil_left _, none⟩
  exact Processes.run_invariant init (fun _ e holds => holds.step stream e) happenings

/-- Whatever the clients send and other programs bind, no two processes have the same port, and a client is told the ports that
its process has, also when this hangs, or zeros where it found none. -/
theorem main_ports (stream : Segment) (ctx : RTPMuxContext) (happenings : List Happening) :
    let ps := Processes.run stream ctx happenings
    (∀ j k, j ≠ k → (ps.ports j).Disjoint (ps.ports k)) ∧
      ∀ k c, ps.children[k]? = some c → c.condition ≠ .dead → c.thread.streamer.anySessions = true → ∀ a ∈ c.thread.announced,
        ps.ports k = [a.1.toNat, a.2.toNat] ∨ ps.ports k = [] ∧ a = (0, 0) := by
  intro ps
  have portioned : Portioned ctx ps := portioned_run stream ctx happenings
  refine ⟨portioned.apart, fun k c child lives alive a told => ?_⟩
  have ports : ps.ports k = c.thread.streamer.streamer.ports := by
    unfold Processes.ports Components.held
    rw [child]
    exact (Child.ports_alive lives).trans (if_pos alive)
  rw [ports, CStreamer.ports]
  cases portioned.tells.children _ (List.mem_of_getElem? child) with
  | ended gone =>
    unfold Server.anySessions at alive
    rw [gone] at alive
    cases alive
  | live one state =>
    cases state with
    | nothing count unbound silent =>
      rw [silent] at told
      cases told
    | ports positive closed same =>
      rw [same a told]
      split
      · rename_i null
        exact .inr ⟨rfl, closed null⟩
      · exact .inl rfl

/-- The process that hangs keeps its pair. -/
example : let ps := Processes.run ⟨1, [0, 0, 0, 1, 0x40, 1, 7]⟩ ⟨.zero _, .zero _, 0, 0, 0, 0, 0, 0⟩ (twoClients.take 6)
    (ps.ports 0, ps.ports 1) = ([6970, 6971], [6972, 6973]) := by decide +kernel

/-- A process hangs in the parser only, in front of the handlers that change its sockets. -/
theorem main_hangs (stream : Segment) (ctx : RTPMuxContext) (happenings : List Happening) :
    ∀ child ∈ (Processes.run stream ctx happenings).children, child.condition = .hangs → child.thread.InParser :=
  (portioned_run stream ctx happenings).hung

end RtspServer
