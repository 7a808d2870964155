import RtspServer.Media.FileStream
import RtspServer.Media.ThreadRefinement
import RtspServer.Session.ServiceRuns

/-!
# A viewer

From the bytes of a client's requests to the packets that reach it: what
`workerThread` does for a client that sends whole requests and waits.
-/

namespace RtspServer

/-- What a client does. -/
inductive Deed where
  | request (q : ClientRequest)
  | other (q : OtherRequest)
  | wait
  | hangUp

namespace Deed

def action : Deed → Action
  | request q => .request 0 q
  | other q => .other 0 q
  | wait => .wait 0
  | hangUp => .hangUp 0

/-- What the process reads. -/
def read : Deed → SocketRead
  | request q => .data q.bytes
  | other q => .data q.toRequestText.bytes
  | wait => .timeout
  | hangUp => .closed

/-- The process goes on with the file. It does so also behind a request that it does not know. -/
def streams : Deed → Bool
  | request _ | hangUp => false
  | other _ | wait => true

theorem event_action (d : Deed) : d.action.event = .read 0 d.read := by
  cases d <;> rfl

end Deed

/-- The service of one client, the units of the file passed so far, and the packets that have reached the client. -/
structure Viewer where
  service : Service
  passed : Nat
  heard : List (Asked × Bytes)

namespace Viewer

def start (offer : Offer) (random : Nat) : Viewer := ⟨Service.start.step offer (.connect random), 0, []⟩

/-- In each round without a request the packets of the next unit reach the client, if it hears the stream. -/
def step (offer : Offer) (clock : Clock) (nals : List Bytes) (v : Viewer) (d : Deed) : Viewer :=
  let service := v.service.step offer d.action
  if (v.service.peer 0).isSome then
    if d.streams then
      ⟨service, v.passed + 1, v.heard ++ (packetsAt clock nals v.passed).flatMap fun p =>
        ((service.hears offer 0).map (·, p)).toList⟩
    else { v with service }
  else v

def run (offer : Offer) (clock : Clock) (nals : List Bytes) (random : Nat) (deeds : List Deed) : Viewer :=
  deeds.foldl (step offer clock nals) (start offer random)

section

variable {offer : Offer} {clock : Clock} {nals : List Bytes} {v : Viewer} {d : Deed}

theorem step_quiet (client : (v.service.peer 0).isSome = true) (quiet : d.streams = false) :
    v.step offer clock nals d = { v with service := v.service.step offer d.action } := by
  unfold step
  rw [if_pos client, if_neg (by rw [quiet]; exact Bool.false_ne_true)]

theorem step_streams (client : (v.service.peer 0).isSome = true) (streams : d.streams = true) :
    v.step offer clock nals d = ⟨v.service.step offer d.action, v.passed + 1,
      v.heard ++ (packetsAt clock nals v.passed).flatMap fun p =>
        (((v.service.step offer d.action).hears offer 0).map (·, p)).toList⟩ := by
  unfold step
  rw [if_pos client, if_pos streams]

theorem step_gone (gone : v.service.peer 0 = none) : v.step offer clock nals d = v := by
  unfold step
  exact if_neg (by rw [gone]; exact Bool.false_ne_true)

end

end Viewer

/-- The packets that reach the client, each with the transport that it comes over. -/
def Thread.heard (th : Thread) : List (Asked × Bytes) :=
  th.log.flatMap fun r => r.handed.filterMap fun d => d.2.reached.map (·, d.2.rtp)

/-! ### A round -/

section

variable {udp : UdpSockets} {offer : Offer} {sv : Service} {h : History} {p : Peer} {t : Turn}

/-- The result of a call tells whether the process goes on with the file. -/
theorem Represents.result (rep : Represents udp offer sv h) (client : sv.peer 0 = some p) (d : Deed)
    (turn : h.server.turn 0 d.read = .ok t) : t.result = !d.streams := by
  obtain ⟨member, -⟩ := rep.member client
  have live := h.server.live 0 member
  unfold Server.turn at turn
  cases d with
  | request q =>
    rw [Deed.read, q.turn live rep.idle] at turn
    cases turn
    rfl
  | other q =>
    rw [Deed.read, handleRequests_whole (RequestText.whole q.fits) live rep.idle q.long, recognise_text, if_pos q.unknown] at turn
    cases turn
    rfl
  | wait =>
    rw [Deed.read, handleRequests_timeout, live] at turn
    cases turn
    rfl
  | hangUp =>
    rw [Deed.read, closed_turn _ _ live] at turn
    cases turn
    rfl

/-- Every packet that is handed out reaches the one client, if it hears the stream. -/
theorem Represents.heard (rep : Represents udp offer sv h) (pair : offer.port.isSome)
    (one : h.server.m_Clients = [0]) (fs : List Bytes) :
    (fs.flatMap h.server.fanOut).filterMap (fun d => d.2.reached.map (·, d.2.rtp)) =
      (fs.map (·.drop 4)).flatMap fun p => ((sv.hears offer 0).map (·, p)).toList := by
  have each (f : Bytes) : (h.server.fanOut f).filterMap (fun d => d.2.reached.map (·, d.2.rtp)) =
      ((sv.hears offer 0).map (·, f.drop 4)).toList := by
    have own : (h.server.fanOut f).filter (fun d => d.1 = 0) = h.server.fanOut f := by
      refine List.filter_eq_self.mpr fun d handed => ?_
      obtain ⟨i, member, rfl⟩ := List.mem_map.mp handed
      rw [one] at member
      exact decide_eq_true (List.mem_singleton.mp (List.mem_of_mem_filter member))
    have reached := rep.reached pair f 0
    rw [own] at reached
    rw [Option.toList_map, ← reached, List.map_filterMap]
    refine List.filterMap_congr fun d handed => ?_
    rw [Server.rtp_of_fanOut handed]
  rw [List.filterMap_flatMap, List.flatMap_map]
  simp only [each]

end

/-! ### The run -/

section

variable {udp : UdpSockets} {offer : Offer} {stream : Segment} {nals : List Bytes} {v : Viewer} {th : Thread}

/-- The thread serves the viewer `v`. -/
structure Watched (udp : UdpSockets) (offer : Offer) (stream : Segment) (nals : List Bytes) (v : Viewer) (th : Thread) : Prop where
  represents : Represents udp offer v.service ⟨th.streamer, th.calls.reverse⟩
  serves : Serves stream nals th
  passing : Passing stream nals v.passed th.worker
  heard : th.heard = v.heard

theorem heard_concat (streamer : Server) (worker : Worker) (log : List Round) (r : Round) :
    Thread.heard ⟨streamer, worker, log ++ [r]⟩ =
      Thread.heard ⟨streamer, worker, log⟩ ++ r.handed.filterMap fun d => d.2.reached.map (·, d.2.rtp) := by
  rw [Thread.heard, Thread.heard, List.flatMap_append, List.flatMap_singleton]

theorem watched_start (udp : UdpSockets) (random : Nat) (ctx : RTPMuxContext) (file : StreamableFile stream nals) :
    Watched udp ⟨ascii "live", ascii "1", serverPort udp⟩ stream nals
      (Viewer.start ⟨ascii "live", ascii "1", serverPort udp⟩ random) (Thread.start udp random stream ctx) := by
  refine ⟨?_, serves_start udp random ctx file, passing_start ctx file, rfl⟩
  obtain ⟨h, connected, rep⟩ := takesTo_connect (represents_start udp (ascii "live") (ascii "1")) random
  cases connected
  exact rep

/-- A deed of a client that is there. -/
theorem Watched.deed (watched : Watched udp offer stream nals v th) (file : StreamableFile stream nals)
    (pair : offer.port.isSome) (one : th.streamer.m_Clients = [0]) {p : Peer} (client : v.service.peer 0 = some p)
    (d : Deed) :
    ∃ th', th.step stream d.read = .ok th' ∧ Watched udp offer stream nals (v.step offer .wrapping nals d) th' := by
  obtain ⟨represents, serves, passing, heard⟩ := watched
  obtain ⟨h, taken, rep⟩ := takesTo_step represents d.action
  rw [d.event_action] at taken
  obtain ⟨worker, fs, iterated, packets, next⟩ := passing.iterate file
  have goes : (th.worker.iterate stream).isSome := by
    rw [iterated]
    rfl
  have follows := step_requests serves.clients goes d.read (h := ⟨th.streamer, th.calls.reverse⟩) ⟨rfl, rfl⟩
  rw [taken] at follows
  cases stepped : th.step stream d.read with
  | error e =>
    rw [stepped] at follows
    exact follows.elim
  | ok th' =>
    rw [stepped] at follows
    obtain ⟨server, calls⟩ := follows
    have serves' := serves_step file serves stepped
    have same : h = ⟨th'.streamer, th'.calls.reverse⟩ := by
      rw [server, ← calls]
    rw [same] at rep
    have alive : (v.service.peer 0).isSome = true := by
      rw [client]
      rfl
    obtain ⟨t, turn, outcome⟩ := Thread.step_cases one stepped
    have result := represents.result client d turn
    refine ⟨th', rfl, ?_⟩
    rcases outcome with ⟨busy, rfl⟩ | ⟨idle, worker', fs', iterated', rfl⟩
    · rw [busy, eq_comm, Bool.not_eq_true'] at result
      rw [Viewer.step_quiet alive result]
      refine ⟨rep, serves', passing, ?_⟩
      rw [heard_concat]
      exact (List.append_nil _).trans heard
    · rw [idle, eq_comm, Bool.not_eq_false'] at result
      rw [Viewer.step_streams alive result]
      cases iterated.symm.trans iterated'
      refine ⟨rep, serves', next, ?_⟩
      have reached := rep.heard pair (@idle_round th d.read t worker fs one turn idle).1 fs
      rw [packets] at reached
      rw [heard_concat]
      exact congrArg₂ (· ++ ·) heard reached

theorem Watched.step (watched : Watched udp offer stream nals v th) (file : StreamableFile stream nals)
    (pair : offer.port.isSome) (d : Deed) :
    ∃ th', th.step stream d.read = .ok th' ∧ Watched udp offer stream nals (v.step offer .wrapping nals d) th' := by
  have clients := watched.represents.clients 0
  cases client : v.service.peer 0 with
  | some p =>
    rw [client] at clients
    rcases watched.serves.clients with one | none
    · exact watched.deed file pair one client d
    · have member : 0 ∈ th.streamer.m_Clients := clients.mpr rfl
      rw [none] at member
      cases member
  | none =>
    rw [client] at clients
    rcases watched.serves.clients with one | none
    · exact absurd (clients.mp (by rw [one]; exact List.mem_singleton_self 0)) Bool.false_ne_true
    · refine ⟨th, Thread.step_ended none, ?_⟩
      rw [Viewer.step_gone client]
      exact watched

end

/-- A client that sends whole requests and waits is served, whatever it asks for and in whatever order: no request fails, the
answers are those of the service, and the packets that reach it are those of the units passed while it hears the stream, over the
transport set up last. -/
theorem client_served (udp : UdpSockets) (random : Nat) (ctx : RTPMuxContext) (stream : Segment) (nals : List Bytes)
    (deeds : List Deed) (file : StreamableFile stream nals) (pair : (serverPort udp).isSome) :
    let offer : Offer := ⟨ascii "live", ascii "1", serverPort udp⟩
    ∃ clock th, Runs.run (Thread.step stream) (deeds.map Deed.read) (Thread.start udp random stream ctx) = .ok th ∧
      Represents udp offer (Viewer.run offer clock nals random deeds).service ⟨th.streamer, th.calls.reverse⟩ ∧
      th.heard = (Viewer.run offer clock nals random deeds).heard := by
  intro offer
  have follows {v : Viewer} {th : Thread} (d : Deed) (watched : Watched udp offer stream nals v th) :
      ∃ th', th.step stream d.read = .ok th' ∧ Watched udp offer stream nals (v.step offer .wrapping nals d) th' :=
    watched.step file pair d
  obtain ⟨th, run, watched⟩ := Runs.run_follows follows deeds (watched_start udp random ctx file)
  exact ⟨.wrapping, th, run, watched.represents, watched.heard⟩

/-- A unit is passed before the PLAY, and one behind it. -/
theorem client_served_play :
    let udp : UdpSockets := ⟨fun _ => true, 2, []⟩
    let nals : List Bytes := [[0x40, 1, 7], [0x42, 1]]
    let ctx : RTPMuxContext := ⟨.zero _, .zero _, 0, 0, 0, 0, 0, 0⟩
    let offer : Offer := ⟨ascii "live", ascii "1", serverPort udp⟩
    let deeds : List Deed := [.wait, .request setupFolded, .request playBehind, .wait, .hangUp, .wait]
    (StreamableFile ⟨1, fileOf nals⟩ nals ∧ (serverPort udp).isSome) ∧
      (∀ clock, (Viewer.run offer clock nals 5 deeds).heard = (packetsAt clock nals 1).map (Asked.udp 7000, ·)) ∧
      ∃ clock th, Runs.run (Thread.step ⟨1, fileOf nals⟩) (deeds.map Deed.read) (Thread.start udp 5 ⟨1, fileOf nals⟩ ctx) =
          .ok th ∧
        Represents udp offer (Viewer.run offer clock nals 5 deeds).service ⟨th.streamer, th.calls.reverse⟩ ∧
        th.heard = (Viewer.run offer clock nals 5 deeds).heard := by
  intro udp nals ctx offer deeds
  have port : serverPort udp = some 6970 := serverPort_free 2 []
  have pair : (serverPort udp).isSome := by rw [port]; rfl
  refine ⟨⟨streamable_two, pair⟩, fun clock => ?_, client_served udp 5 ctx ⟨1, fileOf nals⟩ nals deeds streamable_two pair⟩
  show (Viewer.run ⟨ascii "live", ascii "1", serverPort udp⟩ clock nals 5 deeds).heard = _
  rw [port]
  rfl

end RtspServer
