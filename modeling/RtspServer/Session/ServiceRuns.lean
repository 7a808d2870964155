import RtspServer.Session.Service

/-!
# Runs of the service

Each action of a client takes the server where it takes the service, and so does
any sequence of them. Which packets reach whom can be read off the service.
-/

namespace RtspServer

/-- The event takes the server to `sv'`. -/
def TakesTo (udp : UdpSockets) (offer : Offer) (h : History) (e : Event) (sv' : Service) : Prop :=
  ∃ h', h.step e = .ok h' ∧ Represents udp offer sv' h'

section

variable {udp : UdpSockets} {offer : Offer} {sv : Service} {h : History} {i : Nat} {p p' : Peer} {t : Turn} {read : SocketRead}
  {sent : List Response}

theorem History.step_client (member : i ∈ h.server.m_Clients) (turn : h.server.turn i read = .ok t) :
    h.step (.read i read) = .ok ⟨h.server.settle i t, ⟨i, read, t.session, t.sent⟩ :: h.log⟩ := by
  unfold History.step
  dsimp only
  rw [if_pos member, turn]
  rfl

theorem History.step_absent (gone : i ∉ h.server.m_Clients) : h.step (.read i read) = .ok h := by
  unfold History.step
  dsimp only
  rw [if_neg gone]
  rfl

theorem Service.set_peer (sv : Service) (i : Nat) (p : Option Peer) (j : Nat) :
    (sv.set i p).peer j = if j = i then p else sv.peer j := Function.update_apply _ _ _ _

/-! ### After a call -/

namespace Represents

theorem member (rep : Represents udp offer sv h) (client : sv.peer i = some p) :
    i ∈ h.server.m_Clients ∧ Stands p (h.server.session i) := by
  refine ⟨(rep.clients i).mpr ?_, rep.sessions i p client⟩
  rw [client]
  rfl

/-- A client that goes on as `p'`. -/
theorem goes (rep : Represents udp offer sv h) (client : sv.peer i = some p) (turn : h.server.turn i read = .ok t)
    (answered : t.sent = sent) (going : t.session.m_stopped = false) (stands : Stands p' t.session) {uses : Int}
    (serving : Serving udp offer uses t.streamer) (idle : t.receiver.Idle) :
    TakesTo udp offer h (.read i read) ({ sv.set i (some p') with uses }.answer i sent) := by
  obtain ⟨streamer, clients, sessions⟩ := Server.settle_going h.server i going
  refine ⟨_, History.step_client (rep.member client).1 turn, ?_, ?_, ?_, ?_, ?_, ?_⟩
  · show Serving udp offer uses (h.server.settle i t).streamer
    rw [streamer]
    exact serving
  · exact (Server.settle_created h.server i).trans rep.created
  · intro j
    show j ∈ (h.server.settle i t).m_Clients ↔ ((sv.set i (some p')).peer j).isSome
    rw [clients, rep.clients, Service.set_peer]
    split
    · rename_i same
      rw [same, client]
      exact iff_of_true rfl rfl
    · exact Iff.rfl
  · intro j p'' member
    have found : (sv.set i (some p')).peer j = some p'' := member
    show Stands p'' ((h.server.settle i t).session j)
    rw [Service.set_peer] at found
    rw [sessions, Function.update_apply]
    split at found
    · rename_i same
      cases found
      rw [if_pos same]
      exact stands
    · rename_i other
      rw [if_neg other]
      exact rep.sessions j p'' found
  · show (h.server.settle i t).receiver.Idle
    rw [Server.settle_receiver]
    exact idle
  · rw [← answered]
    exact congrArg ((i, t.sent) :: ·) rep.answers

/-- A client that leaves. -/
theorem leaves (rep : Represents udp offer sv h) (client : sv.peer i = some p) (turn : h.server.turn i read = .ok t)
    (silent : t.sent = []) (stopped : t.session.m_stopped = true) (kept : t.streamer = h.server.streamer)
    (idle : t.receiver.Idle) : TakesTo udp offer h (.read i read) ((sv.leave i).answer i []) := by
  obtain ⟨streamer, clients, sessions⟩ := Server.settle_stopped h.server i stopped
  refine ⟨_, History.step_client (rep.member client).1 turn, ?_, ?_, ?_, ?_, ?_, ?_⟩
  · show Serving udp offer (sv.uses - 1) (h.server.settle i t).streamer
    rw [streamer, kept]
    exact rep.streamer.release
  · exact (Server.settle_created h.server i).trans rep.created
  · intro j
    show j ∈ (h.server.settle i t).m_Clients ↔ ((sv.set i none).peer j).isSome
    rw [clients, h.server.nodup.mem_erase_iff, rep.clients, Service.set_peer]
    by_cases same : j = i
    · rw [if_pos same]
      exact iff_of_false (fun both => both.1 same) Bool.false_ne_true
    · rw [if_neg same]
      exact and_iff_right same
  · intro j p'' member
    have found : (sv.set i none).peer j = some p'' := member
    show Stands p'' ((h.server.settle i t).session j)
    rw [Service.set_peer] at found
    rw [sessions]
    split at found
    · cases found
    · exact rep.sessions j p'' found
  · show (h.server.settle i t).receiver.Idle
    rw [Server.settle_receiver]
    exact idle
  · rw [← silent]
    exact congrArg ((i, t.sent) :: ·) rep.answers

/-- A client that stays as it is. -/
theorem stays (rep : Represents udp offer sv h) (client : sv.peer i = some p) (turn : h.server.turn i read = .ok t)
    (answered : t.sent = sent) (going : t.session.m_stopped = false) (stands : Stands p t.session)
    (kept : t.streamer = h.server.streamer) (idle : t.receiver.Idle) :
    TakesTo udp offer h (.read i read) (sv.answer i sent) := by
  have same : sv.set i (some p) = sv := by
    unfold Service.set
    rw [← client, Function.update_eq_self]
  have goes := rep.goes client turn answered going stands (by rw [kept]; exact rep.streamer) idle
  rw [same] at goes
  exact goes

theorem refreshed (rep : Represents udp offer sv h) : h.server.receiver.refresh.Idle := by
  rw [refresh_idle rep.idle]
  exact .inl rfl

end Represents

/-! ### The actions -/

theorem takesTo_granted (rep : Represents udp offer sv h) (client : sv.peer i = some p) (q : ClientRequest) {uses : Int}
    (granted : Granted udp offer uses p' sent ((q.leaves (h.server.session i)).dispatch h.server.streamer)) :
    TakesTo udp offer h (.read i (.data q.bytes)) ({ sv.set i (some p') with uses }.answer i sent) :=
  rep.goes client (q.turn (h.server.live i (rep.member client).1) rep.idle) granted.sent granted.going granted.stands
    granted.streamer (.inl rfl)

theorem takesTo_request (rep : Represents udp offer sv h) (client : sv.peer i = some p) (q : ClientRequest) :
    TakesTo udp offer h (.read i (.data q.bytes)) (sv.request offer i p q) := by
  obtain ⟨member, stands⟩ := rep.member client
  have live := h.server.live i member
  have fields := q.leaves_fields (h.server.session i)
  have ordered := q.ordered
  unfold Service.request
  generalize q.order = order at ordered ⊢
  cases ordered with
  | options method => exact takesTo_granted rep client q (granted_options fields stands live rep.streamer method)
  | describe method => exact takesTo_granted rep client q (granted_describe fields stands live rep.streamer method)
  | setup asked method same => exact takesTo_granted rep client q (granted_setup fields stands live rep.streamer method same)
  | play method => exact takesTo_granted rep client q (granted_play fields stands live rep.streamer method)
  | teardown method =>
    obtain ⟨silent, stopped⟩ := @dispatch_teardown h.server.streamer _ _ _ fields method
    have turn := @ClientRequest.turn h.server.streamer _ _ q live rep.idle
    rw [silent] at turn
    exact rep.leaves client turn rfl stopped rfl (.inl rfl)

theorem takesTo_other (rep : Represents udp offer sv h) (client : sv.peer i = some p) (q : OtherRequest) :
    TakesTo udp offer h (.read i (.data q.toRequestText.bytes)) (sv.answer i [.badRequest p.cseq]) := by
  obtain ⟨member, stands⟩ := rep.member client
  have live := h.server.live i member
  have turn := @handleRequests_whole h.server.streamer _ _ _ (RequestText.whole q.fits) live rep.idle q.long
  rw [recognise_text, if_pos q.unknown] at turn
  refine rep.stays client turn ?_ live ⟨stands.id, stands.cseq, stands.playing, stands.tcp, stands.port⟩ rfl (.inl rfl)
  rw [stands.cseq]

theorem takesTo_wait (rep : Represents udp offer sv h) (client : sv.peer i = some p) :
    TakesTo udp offer h (.read i .timeout) (sv.answer i []) := by
  obtain ⟨member, stands⟩ := rep.member client
  have live := h.server.live i member
  have turn : h.server.turn i .timeout = .ok ⟨h.server.streamer, h.server.session i, h.server.receiver.refresh, [], false⟩ := by
    unfold Server.turn
    rw [handleRequests_timeout, live]
    rfl
  exact rep.stays client turn rfl live stands rfl rep.refreshed

theorem takesTo_hangUp (rep : Represents udp offer sv h) (client : sv.peer i = some p) :
    TakesTo udp offer h (.read i .closed) ((sv.leave i).answer i []) := by
  obtain ⟨member, stands⟩ := rep.member client
  have turn := closed_turn h.server.streamer h.server.receiver (h.server.live i member)
  exact rep.leaves client turn rfl rfl rfl rep.refreshed

theorem takesTo_connect (rep : Represents udp offer sv h) (random : Nat) :
    TakesTo udp offer h (.addSession random) (sv.step offer (.connect random)) := by
  refine ⟨_, rfl, ?_⟩
  have created := rep.created
  refine ⟨rep.streamer, ?_, ?_, ?_, rep.idle, rep.answers⟩
  · exact congrArg (· + 1) created
  · intro j
    show j ∈ (h.server.addSession random).m_Clients ↔ ((sv.set sv.created _).peer j).isSome
    rw [Service.set_peer, ← created]
    by_cases new : j = h.server.created
    · rw [if_pos new, new]
      exact iff_of_true (h.server.addSession_new random).1 rfl
    · rw [if_neg new, (h.server.addSession_old random new).1]
      exact rep.clients j
  · intro j p member
    have found : (sv.set sv.created (some ⟨random - 2 ^ 31, 0, none, false⟩)).peer j = some p := member
    show Stands p ((h.server.addSession random).session j)
    rw [Service.set_peer, ← created] at found
    by_cases new : j = h.server.created
    · rw [if_pos new] at found
      cases found
      rw [new, (h.server.addSession_new random).2]
      exact ⟨rfl, rfl, rfl, rfl, rfl⟩
    · rw [if_neg new] at found
      rw [(h.server.addSession_old random new).2]
      exact rep.sessions j p found

/-- One action. -/
theorem takesTo_step (rep : Represents udp offer sv h) (a : Action) : TakesTo udp offer h a.event (sv.step offer a) := by
  have absent {i : Nat} (none : sv.peer i = none) (read : SocketRead) : TakesTo udp offer h (.read i read) sv := by
    refine ⟨h, History.step_absent fun member => ?_, rep⟩
    have client := (rep.clients i).mp member
    rw [none] at client
    exact Bool.false_ne_true client
  cases a with
  | connect random => exact takesTo_connect rep random
  | request i q =>
    unfold Service.step
    dsimp only
    cases client : sv.peer i with
    | none => exact absent client _
    | some p => exact takesTo_request rep client q
  | other i q =>
    unfold Service.step
    dsimp only
    cases client : sv.peer i with
    | none => exact absent client _
    | some p => exact takesTo_other rep client q
  | wait i =>
    unfold Service.step
    dsimp only
    cases client : sv.peer i with
    | none => exact absent client _
    | some p => exact takesTo_wait rep client
  | hangUp i =>
    unfold Service.step
    dsimp only
    cases client : sv.peer i with
    | none => exact absent client _
    | some p => exact takesTo_hangUp rep client

theorem represents_run (rep : Represents udp offer sv h) (actions : List Action) :
    ∃ h', Runs.run History.step (actions.map Action.event) h = .ok h' ∧
      Represents udp offer (actions.foldl (Service.step offer) sv) h' := by
  have follows {sv : Service} {h : History} (a : Action) (rep : Represents udp offer sv h) :
      ∃ h', h.step a.event = .ok h' ∧ Represents udp offer (sv.step offer a) h' := takesTo_step rep a
  exact Runs.run_follows follows actions rep

theorem represents_start (udp : UdpSockets) (pres stream : Bytes) :
    Represents udp ⟨pres, stream, serverPort udp⟩ Service.start (History.start udp pres stream) where
  streamer := ⟨rfl, rfl, rfl, rfl, tracked_create udp pres stream⟩
  created := rfl
  clients _ := iff_of_false List.not_mem_nil Bool.false_ne_true
  sessions _ p member := absurd member (Option.not_mem_none p)
  idle := .inl rfl
  answers := rfl

end

/-- Whatever the clients do, in whatever order, the server takes their requests for what they are and answers
them as the service does. -/
theorem service_refined (udp : UdpSockets) (pres stream : Bytes) (actions : List Action) :
    ∃ h, Runs.run History.step (actions.map Action.event) (History.start udp pres stream) = .ok h ∧
      Represents udp ⟨pres, stream, serverPort udp⟩ (Service.run ⟨pres, stream, serverPort udp⟩ actions) h :=
  represents_run (represents_start udp pres stream) actions

/-! ### The packets -/

/-- A transport over which packets come through. -/
def Offer.reaches (offer : Offer) (uses : Int) : Asked → Bool
  | .tcp => true
  | .udp port => decide (offer.port.isSome ∧ 0 < uses ∧ port ≠ 0)

/-- The transport over which client `i` hears the stream. -/
def Service.hears (offer : Offer) (sv : Service) (i : Nat) : Option Asked :=
  (sv.peer i).bind fun p => if p.playing then p.transport.filter (offer.reaches sv.uses) else none

/-- Where a delivery ends up: without a socket and a port, nowhere. -/
def Delivery.reached : Delivery → Option Asked
  | tcp _ => some .tcp
  | udp socket port _ => if socket ≠ NULLSOCKET ∧ port ≠ 0 then some (.udp port) else none

theorem reached_fanOut {offer : Offer} {uses : Int} {socket : Nat} (transport : Option Asked) (f : Bytes)
    (pair : offer.port.isSome) (opened : socket ≠ NULLSOCKET ↔ 0 < uses) :
    (if decide (transport = some .tcp) then Delivery.tcp f
      else .udp socket (transport.elim 0 Asked.port) (f.drop 4)).reached = transport.filter (offer.reaches uses) := by
  match transport with
  | none => exact if_neg fun both => both.2 rfl
  | some .tcp => rfl
  | some (.udp port) =>
    show (if socket ≠ NULLSOCKET ∧ port ≠ 0 then some (Asked.udp port) else none) = _
    rw [if_congr (and_congr_left' opened) rfl rfl]
    simp only [Option.filter_some, Offer.reaches, pair, true_and, decide_eq_true_eq]

theorem Server.rtp_of_fanOut {server : Server} {f : Bytes} {i : Nat} {d : Delivery} (handed : (i, d) ∈ server.fanOut f) :
    d.rtp = f.drop 4 := by
  obtain ⟨j, -, same⟩ := List.mem_map.mp handed
  cases same
  exact Delivery.rtp_fanOut _ _ f

theorem Represents.reached {udp : UdpSockets} {offer : Offer} {sv : Service} {h : History} (rep : Represents udp offer sv h)
    (pair : offer.port.isSome) (f : Bytes) (i : Nat) :
    ((h.server.fanOut f).filter fun d => d.1 = i).filterMap (fun d => d.2.reached) = (sv.hears offer i).toList := by
  rw [Server.fanOut_own]
  unfold Service.hears
  cases client : sv.peer i with
  | none =>
    have gone : i ∉ h.server.m_Clients := by
      rw [rep.clients, client]
      exact Bool.false_ne_true
    rw [if_neg fun both => gone both.1]
    rfl
  | some p =>
    obtain ⟨member, stands⟩ := rep.member client
    rw [Option.bind_some, stands.playing, stands.tcp, stands.port]
    cases p.playing with
    | false =>
      rw [if_neg fun both => Bool.false_ne_true both.2]
      rfl
    | true =>
      have through := reached_fanOut p.transport f pair (rep.streamer.opened pair)
      rw [if_pos ⟨member, rfl⟩, if_pos rfl, ← through]
      unfold Peer.port
      generalize (if decide (p.transport = some .tcp) then Delivery.tcp f else _) = d
      cases found : d.reached with
      | none => exact List.filterMap_cons_none found
      | some a => exact List.filterMap_cons_some found

/-- Whatever the clients do, a packet reaches exactly those who play and have set up a transport, each once and over the
transport set up last; over UDP as long as the transports set up outnumber the clients gone. -/
theorem service_heard {udp : UdpSockets} {pres stream : Bytes} {actions : List Action} {h : History}
    (pair : (serverPort udp).isSome)
    (run : Runs.run History.step (actions.map Action.event) (History.start udp pres stream) = .ok h) (f : Bytes) :
    (∀ d ∈ h.server.fanOut f, d.2.rtp = f.drop 4) ∧
      ∀ i, ((h.server.fanOut f).filter fun d => d.1 = i).filterMap (fun d => d.2.reached) =
        ((Service.run ⟨pres, stream, serverPort udp⟩ actions).hears ⟨pres, stream, serverPort udp⟩ i).toList := by
  obtain ⟨h', run', rep⟩ := represents_run (represents_start udp pres stream) actions
  cases run.symm.trans run'
  exact ⟨fun d handed => Server.rtp_of_fanOut handed, rep.reached pair f⟩

theorem serverPort_free (next : Nat) (closed : List Nat) : serverPort ⟨fun _ => true, next, closed⟩ = some 6970 :=
  serverPort_iff.mpr ⟨⟨by decide, by decide, by decide⟩, ⟨rfl, rfl⟩, fun Q candidate lt => absurd candidate.low (by omega)⟩

/-- A SETUP over UDP with its header folded, and the PLAY behind it. -/
def setupFolded : ClientRequest where
  leadingCrlf := false
  method := .SETUP
  hostPort := ⟨ascii "h:8554", by decide +kernel, by decide, by decide⟩
  presentation := ⟨ascii "live", by decide +kernel, by decide, by decide⟩
  stream := ⟨ascii "1", by decide +kernel, by decide, by decide⟩
  afterHost := 0
  afterPresentation := 0
  afterStream := 0
  headers := [.cseq 2]
  cseq := 2
  contentLength := none
  cseqOnce := rfl
  lengthOnce := rfl
  cseq_lt := by decide
  length_lt := fun m none => absurd none (Option.not_mem_none m)
  before := [.cseq 2]
  transport := some {
    toFoldedTransport := typicalTransport
    asked := .udp 7000
    protocol := rfl
    ports := by decide +kernel }
  after := []
  split := rfl
  needed := fun _ => rfl
  fits := by decide +kernel

def playBehind : ClientRequest where
  leadingCrlf := true
  method := .PLAY
  hostPort := ⟨ascii "h:8554", by decide +kernel, by decide, by decide⟩
  presentation := ⟨ascii "live", by decide +kernel, by decide, by decide⟩
  stream := ⟨ascii "1", by decide +kernel, by decide, by decide⟩
  afterHost := 0
  afterPresentation := 0
  afterStream := 1
  headers := [.cseq 3]
  cseq := 3
  contentLength := none
  cseqOnce := rfl
  lengthOnce := rfl
  cseq_lt := by decide
  length_lt := fun m none => absurd none (Option.not_mem_none m)
  before := []
  transport := none
  after := [.cseq 3]
  split := rfl
  needed := fun setup => absurd setup (by decide)
  fits := by decide +kernel

theorem service_heard_setup :
    let udp : UdpSockets := ⟨fun _ => true, 2, []⟩
    let actions : List Action := [.connect 5, .request 0 setupFolded, .connect 6, .wait 1, .request 0 playBehind]
    let offer : Offer := ⟨ascii "live", ascii "1", serverPort udp⟩
    (serverPort udp).isSome ∧ (Service.run offer actions).hears offer 0 = some (.udp 7000) ∧
      ∃ h, Runs.run History.step (actions.map Action.event) (History.start udp (ascii "live") (ascii "1")) = .ok h ∧
        (∀ d ∈ h.server.fanOut [1, 2, 3, 4, 5], d.2.rtp = [5]) ∧
        ∀ i, ((h.server.fanOut [1, 2, 3, 4, 5]).filter fun d => d.1 = i).filterMap (fun d => d.2.reached) =
          ((Service.run offer actions).hears offer i).toList := by
  intro udp actions offer
  have port : serverPort udp = some 6970 := serverPort_free 2 []
  have pair : (serverPort udp).isSome := by rw [port]; rfl
  obtain ⟨h, run, -⟩ := represents_run (represents_start udp (ascii "live") (ascii "1")) actions
  refine ⟨pair, ?_, h, run, service_heard pair run [1, 2, 3, 4, 5]⟩
  show (Service.run ⟨ascii "live", ascii "1", serverPort udp⟩ actions).hears ⟨ascii "live", ascii "1", serverPort udp⟩ 0 = _
  rw [port]
  decide +kernel

end RtspServer
