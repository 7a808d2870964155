import RtspServer.Media.FanOut
import RtspServer.Media.Worker

/-!
# The thread of a client

`workerThread` serves the requests of one client and streams the file in the
rounds in which `handleRequests` returns false. A run of it is a run of the
server with one session, and what the client is handed are the units of those
rounds, from its PLAY on.
-/

namespace RtspServer

namespace Server

def anySessions (sv : Server) : Bool := sv.m_Clients ≠ []

/-- `CStreamer::handleRequests` with the calls that it makes. -/
def serve (reads : Nat → SocketRead) : List Nat → Server → Run (Server × Bool × List Entry)
  | [], sv => return (sv, true, [])
  | i :: rest, sv => do
    let t ← sv.turn i (reads i)
    let (sv, retVal, calls) ← serve reads rest (sv.settle i t)
    return (sv, t.result && retVal, ⟨i, reads i, t.session, t.sent⟩ :: calls)

theorem serve_visit (reads : Nat → SocketRead) (ids : List Nat) (sv : Server) :
    Run.Rel (fun a b => a.1 = b.1 ∧ a.2.1 = b.2) (sv.serve reads ids) (sv.visit reads ids) := by
  induction ids generalizing sv with
  | nil => exact ⟨rfl, rfl⟩
  | cons i ids ih =>
    refine Run.Rel.bind_same (sv.turn i (reads i)) fun t => Run.Rel.bind (ih _) fun a b same => ⟨same.1, ?_⟩
    exact congrArg (t.result && ·) same.2

end Server

/-- A round of the loop: the calls of `handleRequests`, whether these returned false, and what was handed out. -/
structure Round where
  calls : List Entry
  idle : Bool
  handed : List (Nat × Delivery)

/-- The session streams behind the calls of the round. -/
def Round.streams (r : Round) : Bool := r.calls.any fun e => e.session.receives

/-- The locals of `workerThread` with the rounds so far. -/
structure Thread where
  streamer : Server
  worker : Worker
  log : List Round

namespace Thread

def start (udp : UdpSockets) (random : Nat) (stream : Segment) (ctx : RTPMuxContext) : Thread :=
  ⟨(Server.create (CStreamer.create udp)).addSession random, Worker.start stream ctx, []⟩

/-- The body of the loop; the socket of each session returns `read`. -/
def round (stream : Segment) (th : Thread) (read : SocketRead) : Run Thread := do
  let (streamer, retVal, calls) ← th.streamer.serve (fun _ => read) th.streamer.m_Clients
  if retVal then return ⟨streamer, th.worker, th.log ++ [⟨calls, false, []⟩]⟩
  else
    match th.worker.iterate stream with
    | some (worker, fs) => return ⟨streamer, worker, th.log ++ [⟨calls, true, fs.flatMap streamer.fanOut⟩]⟩
    | none => .error .outOfBounds

/-- Where the loop has ended there are no more reads. -/
def step (stream : Segment) (th : Thread) (read : SocketRead) : Run Thread :=
  if th.streamer.anySessions then th.round stream read else return th

def calls (th : Thread) : List Entry := th.log.flatMap (·.calls)

/-- The RTP packets handed to the socket, as bytes. -/
def handed (th : Thread) : List Bytes := th.log.flatMap fun r => r.handed.map fun d => d.2.rtp

end Thread

/-! ### A round with one session -/

section

variable {stream : Segment} {th th' : Thread} {read : SocketRead} {sv : Server} {t : Turn}

/-- The entry of a call on the session of the thread. -/
def Turn.entry (t : Turn) (read : SocketRead) : Entry := ⟨0, read, t.session, t.sent⟩

theorem serve_single (sv : Server) (read : SocketRead) : sv.serve (fun _ => read) [0] = (do
    let t ← sv.turn 0 read
    return (sv.settle 0 t, t.result, [t.entry read])) := by
  unfold Server.serve Server.serve
  cases sv.turn 0 read with
  | error e => rfl
  | ok t =>
    show Except.ok (_, t.result && true, _) = Except.ok (_, t.result, _)
    rw [Bool.and_true]
    rfl

theorem Thread.step_ended (ended : th.streamer.m_Clients = []) : th.step stream read = .ok th := by
  unfold Thread.step Server.anySessions
  rw [ended]
  rfl

theorem Thread.step_cases (one : th.streamer.m_Clients = [0]) (taken : th.step stream read = .ok th') :
    ∃ t, th.streamer.turn 0 read = .ok t ∧
      ((t.result = true ∧
        th' = ⟨th.streamer.settle 0 t, th.worker, th.log ++ [⟨[t.entry read], false, []⟩]⟩) ∨
      (t.result = false ∧ ∃ worker fs, th.worker.iterate stream = some (worker, fs) ∧
        th' = ⟨th.streamer.settle 0 t, worker,
          th.log ++ [⟨[t.entry read], true, fs.flatMap (th.streamer.settle 0 t).fanOut⟩]⟩)) := by
  unfold Thread.step Server.anySessions Thread.round at taken
  rw [one, if_pos (by rfl), serve_single] at taken
  obtain ⟨⟨sv, retVal, calls⟩, served, rest⟩ := bind_ok taken
  obtain ⟨t, turn, same⟩ := bind_ok served
  cases pure_ok same
  refine ⟨t, turn, ?_⟩
  dsimp only at rest
  split at rest
  · rename_i busy
    exact .inl ⟨busy, (pure_ok rest).symm⟩
  · rename_i idle
    split at rest
    · rename_i worker fs iterated
      exact .inr ⟨by simpa using idle, worker, fs, iterated, (pure_ok rest).symm⟩
    · cases rest

/-- `handleRequests` returns false on a live session for a timeout or a method that is not known. -/
theorem turn_idle {i : Nat} (member : i ∈ sv.m_Clients) (turn : sv.turn i read = .ok t) (idle : t.result = false) :
    t.session.m_streaming = (sv.session i).m_streaming ∧ t.session.m_stopped = false := by
  have live := sv.live i member
  rcases handleRequests_cases live turn with ⟨-, rfl⟩ | ⟨-, rfl⟩ | ⟨bytes, fits, -, -, answered⟩
  · exact ⟨rfl, live⟩
  · cases idle
  rcases answer_cases answered with ⟨-, -, rfl⟩ | ⟨-, -, rfl⟩ | ⟨st', s', sent, handled, rfl⟩
  · cases idle
  · have flags := findMethod_flags (sv.session i) (sv.receiver.refresh.append bytes fits)
    exact ⟨flags.2, flags.1.trans live⟩
  · cases idle

theorem settle_single (one : sv.m_Clients = [0]) (t : Turn) :
    (sv.settle 0 t).m_Clients = if t.session.m_stopped then [] else [0] := by
  cases stopped : t.session.m_stopped with
  | true =>
    rw [(Server.settle_stopped sv 0 stopped).2.1, one]
    rfl
  | false =>
    rw [(Server.settle_going sv 0 stopped).2.1, one]
    rfl

theorem fanOut_single (one : sv.m_Clients = [0]) (fs : List Bytes) :
    (fs.flatMap sv.fanOut).map (fun d => d.2.rtp) =
      if (sv.session 0).m_streaming then fs.map (·.drop 4) else [] := by
  have live : (sv.session 0).m_stopped = false := sv.live 0 (by rw [one]; exact List.mem_singleton_self 0)
  have each (f : Bytes) : (sv.fanOut f).map (fun d => d.2.rtp) =
      if (sv.session 0).m_streaming then [f.drop 4] else [] := by
    unfold Server.fanOut
    rw [one]
    cases streams : (sv.session 0).m_streaming <;> cases tcp : (sv.session 0).m_TcpTransport <;>
      simp [CRtspSession.receives, live, streams, tcp, Delivery.rtp]
  rw [List.map_flatMap]
  simp only [each]
  split
  · exact List.flatMap_pure_eq_map _ fs
  · exact List.flatMap_eq_nil_iff.mpr fun _ _ => rfl

end

/-! ### The rounds that stream -/

/-- The idle rounds in front of the stream, and those in it. -/
def unitsMissed (log : List Round) : Nat := (log.takeWhile fun r => !r.streams).countP (·.idle)

def unitsHanded (log : List Round) : Nat := log.countP fun r => r.idle && r.streams

section

variable {log : List Round} {r : Round}

theorem idle_concat (log : List Round) (r : Round) :
    (log ++ [r]).countP (·.idle) = log.countP (·.idle) + if r.idle then 1 else 0 := by
  rw [List.countP_append, List.countP_singleton]

theorem unitsMissed_silent (silent : ∀ x ∈ log, x.streams = false) :
    unitsMissed log = log.countP (·.idle) ∧ unitsHanded log = 0 := by
  constructor
  · rw [unitsMissed, List.takeWhile_eq_self_iff.mpr fun x member => by rw [silent x member]; rfl]
  · refine List.countP_eq_zero.mpr fun x member => ?_
    rw [silent x member, Bool.and_false]
    exact Bool.false_ne_true

theorem unitsMissed_streaming (some : ∃ x ∈ log, x.streams = true) (r : Round) :
    unitsMissed (log ++ [r]) = unitsMissed log := by
  obtain ⟨x, member, streams⟩ := some
  rw [unitsMissed, unitsMissed, List.takeWhile_append, if_neg]
  intro whole
  have all := List.takeWhile_eq_self_iff.mp ((List.takeWhile_prefix _).eq_of_length whole) x member
  rw [streams] at all
  cases all

theorem unitsMissed_busy (busy : r.idle = false) :
    unitsMissed (log ++ [r]) = unitsMissed log ∧ unitsHanded (log ++ [r]) = unitsHanded log := by
  constructor
  · by_cases some : ∃ x ∈ log, x.streams = true
    · exact unitsMissed_streaming some r
    · have silent : ∀ x ∈ log, (!x.streams) = true := by simpa using some
      rw [unitsMissed, unitsMissed, List.takeWhile_append_of_pos silent, List.takeWhile_eq_self_iff.mpr silent,
        List.countP_append, Nat.add_eq_left, List.countP_eq_zero]
      intro x member
      rw [List.mem_singleton.mp (List.takeWhile_subset _ member), busy]
      exact Bool.false_ne_true
  · rw [unitsHanded, unitsHanded, List.countP_append, Nat.add_eq_left, List.countP_singleton, busy]
    rfl

theorem unitsHanded_concat (idle : r.idle = true) (streams : r.streams = true) :
    unitsHanded (log ++ [r]) = unitsHanded log + 1 := by
  rw [unitsHanded, List.countP_append, List.countP_singleton, idle, streams]
  rfl

end

/-! ### What the client is handed -/

/-- Where the client of the thread stands, when `packets` were handed to it and packet number `s` is the next. -/
inductive Stage (th : Thread) (packets : List Rtp.Packet) (start s : Nat) : Prop
  | waiting (one : th.streamer.m_Clients = [0]) (silent : (th.streamer.session 0).m_streaming = false)
      (none : ∀ r ∈ th.log, r.streams = false) (nothing : packets = [])
  | playing (one : th.streamer.m_Clients = [0]) (streams : (th.streamer.session 0).m_streaming = true)
      (some : ∃ r ∈ th.log, r.streams = true) (rounds : unitsMissed th.log + unitsHanded th.log = th.log.countP (·.idle))
      (next : start + packets.length = s)
  | ended (gone : th.streamer.m_Clients = [])

/-- The packets so far carry the units of the rounds in which the client streamed. -/
structure Delivered (nals : List Bytes) (th : Thread) (packets : List Rtp.Packet) (start s : Nat) : Prop where
  stage : Stage th packets start s
  parsed : th.handed.mapM Rtp.parse = some packets
  units : Hevc.receiveAll none (packets.map Rtp.Packet.payload) =
    some (none, (List.range' (unitsMissed th.log) (unitsHanded th.log)).map fun j => nals[j % nals.length]!)
  numbers : packets.map (fun p => p.seq.toNat) = (List.range' start packets.length).map (· % 65536)

section

variable {stream : Segment} {nals : List Bytes} {th th' : Thread} {read : SocketRead} {packets : List Rtp.Packet} {start s : Nat}

theorem handed_concat (streamer : Server) (worker : Worker) (log : List Round) (r : Round) :
    Thread.handed ⟨streamer, worker, log ++ [r]⟩ =
      Thread.handed ⟨streamer, worker, log⟩ ++ r.handed.map fun d => d.2.rtp := by
  rw [Thread.handed, Thread.handed, List.flatMap_append, List.flatMap_singleton]

theorem streams_entry (t : Turn) (read : SocketRead) (idle : Bool) (handed : List (Nat × Delivery)) :
    Round.streams ⟨[t.entry read], idle, handed⟩ = t.session.receives := by
  simp [Round.streams, Turn.entry]

/-- A round in which `handleRequests` returns true moves the client on, and hands it nothing. -/
theorem delivered_busy {t : Turn} (one : th.streamer.m_Clients = [0]) (delivered : Delivered nals th packets start s)
    (turn : th.streamer.turn 0 read = .ok t) :
    ∃ start, Delivered nals ⟨th.streamer.settle 0 t, th.worker, th.log ++ [⟨[t.entry read], false, []⟩]⟩ packets
      start s := by
  obtain ⟨stage, parsed, units, numbers⟩ := delivered
  have member : 0 ∈ th.streamer.m_Clients := by rw [one]; exact List.mem_singleton_self 0
  have kept := (Server.settle_self th.streamer 0 member t).2
  have clients := settle_single one t
  have flags : Round.streams ⟨[t.entry read], false, []⟩ = t.session.receives := streams_entry t read false []
  have busy : (⟨[t.entry read], false, []⟩ : Round).idle = false := rfl
  have handed : Thread.handed ⟨th.streamer.settle 0 t, th.worker, th.log ++ [⟨[t.entry read], false, []⟩]⟩ = th.handed :=
    (handed_concat _ _ _ _).trans (List.append_nil _)
  generalize (⟨[t.entry read], false, []⟩ : Round) = r at flags busy handed ⊢
  have idle : (th.log ++ [r]).countP (·.idle) = th.log.countP (·.idle) := by
    rw [idle_concat, busy]
    rfl
  have same (start : Nat) (stage : Stage ⟨th.streamer.settle 0 t, th.worker, th.log ++ [r]⟩ packets start s)
      (numbers : packets.map (fun p => p.seq.toNat) = (List.range' start packets.length).map (· % 65536)) :
      Delivered nals ⟨th.streamer.settle 0 t, th.worker, th.log ++ [r]⟩ packets start s := by
    refine ⟨stage, by rw [handed]; exact parsed, ?_, numbers⟩
    rw [(unitsMissed_busy busy).1, (unitsMissed_busy busy).2]
    exact units
  cases stopped : t.session.m_stopped with
  | true =>
    rw [stopped] at clients
    exact ⟨start, same start (.ended clients) numbers⟩
  | false =>
    rw [stopped] at clients
    unfold CRtspSession.receives at flags
    rw [stopped, Bool.not_false, Bool.and_true] at flags
    cases stage with
    | waiting _ silent none nothing =>
      subst nothing
      cases streams : t.session.m_streaming with
      | false =>
        refine ⟨start, same start (.waiting clients ?_ ?_ rfl) numbers⟩
        · show ((th.streamer.settle 0 t).session 0).m_streaming = false
          rw [kept stopped, streams]
        · exact List.forall_mem_append.mpr ⟨none, List.forall_mem_singleton.mpr (flags.trans streams)⟩
      | true =>
        -- The stream starts: the packets are counted from the next one on.
        have now : r ∈ th.log ++ [r] := List.mem_append_right _ (List.mem_singleton_self r)
        refine ⟨s, same s (.playing clients ?_ ⟨r, now, flags.trans streams⟩ ?_ rfl) rfl⟩
        · show ((th.streamer.settle 0 t).session 0).m_streaming = true
          rw [kept stopped, streams]
        · show unitsMissed (th.log ++ [r]) + unitsHanded (th.log ++ [r]) = _
          rw [(unitsMissed_busy busy).1, (unitsMissed_busy busy).2, idle, (unitsMissed_silent none).1,
            (unitsMissed_silent none).2, Nat.add_zero]
    | playing _ streams some rounds next =>
      obtain ⟨x, inside, playing⟩ := some
      refine ⟨start, same start (.playing clients ?_ ⟨x, List.mem_append_left _ inside, playing⟩ ?_ next) numbers⟩
      · show ((th.streamer.settle 0 t).session 0).m_streaming = true
        rw [kept stopped]
        exact turn_streaming member streams turn
      · show unitsMissed (th.log ++ [r]) + unitsHanded (th.log ++ [r]) = _
        rw [(unitsMissed_busy busy).1, (unitsMissed_busy busy).2, idle]
        exact rounds
    | ended gone => rw [one] at gone; cases gone

/-- An idle round hands out the packets if the session streams, and leaves it as it is. -/
theorem idle_round {t : Turn} {worker : Worker} (fs : List Bytes) (one : th.streamer.m_Clients = [0])
    (turn : th.streamer.turn 0 read = .ok t) (idle : t.result = false) :
    (th.streamer.settle 0 t).m_Clients = [0] ∧
      ((th.streamer.settle 0 t).session 0).m_streaming = (th.streamer.session 0).m_streaming ∧
      Round.streams ⟨[t.entry read], true, fs.flatMap (th.streamer.settle 0 t).fanOut⟩ = (th.streamer.session 0).m_streaming ∧
      Thread.handed ⟨th.streamer.settle 0 t, worker, th.log ++ [⟨[t.entry read], true, fs.flatMap (th.streamer.settle 0 t).fanOut⟩]⟩ =
        th.handed ++ if (th.streamer.session 0).m_streaming then fs.map (·.drop 4) else [] := by
  have member : 0 ∈ th.streamer.m_Clients := by rw [one]; exact List.mem_singleton_self 0
  obtain ⟨same, going⟩ := turn_idle member turn idle
  have kept := (Server.settle_self th.streamer 0 member t).2 going
  have clients : (th.streamer.settle 0 t).m_Clients = [0] := by
    rw [settle_single one, going]
    rfl
  have rtps := fanOut_single clients fs
  rw [kept, same] at rtps
  refine ⟨clients, by rw [kept, same], ?_, ?_⟩
  · rw [streams_entry, CRtspSession.receives, going, Bool.not_false, Bool.and_true, same]
  · rw [handed_concat, rtps]
    rfl

/-- An idle round hands the client its packets as long as it streams. -/
theorem delivered_idle {t : Turn} {worker : Worker} {fs : List Bytes} {ps : List Rtp.Packet}
    (one : th.streamer.m_Clients = [0]) (delivered : Delivered nals th packets start s)
    (turn : th.streamer.turn 0 read = .ok t) (idle : t.result = false) (parsed : packetsOf fs = some ps)
    (unit : Hevc.receiveAll none (ps.map Rtp.Packet.payload) =
      some (none, [nals[th.log.countP (·.idle) % nals.length]!]))
    (numbers : ps.map (fun p => p.seq.toNat) = (List.range' s ps.length).map (· % 65536)) :
    ∃ packets start, Delivered nals ⟨th.streamer.settle 0 t, worker,
      th.log ++ [⟨[t.entry read], true, fs.flatMap (th.streamer.settle 0 t).fanOut⟩]⟩ packets start (s + ps.length) := by
  obtain ⟨stage, parsed', units, numbers'⟩ := delivered
  obtain ⟨clients, same, flags, handed⟩ := @idle_round th read t worker fs one turn idle
  have counted : (⟨[t.entry read], true, fs.flatMap (th.streamer.settle 0 t).fanOut⟩ : Round).idle = true := rfl
  generalize (⟨[t.entry read], true, fs.flatMap (th.streamer.settle 0 t).fanOut⟩ : Round) = r at flags handed counted ⊢
  have count : (th.log ++ [r]).countP (·.idle) = th.log.countP (·.idle) + 1 := by
    rw [idle_concat, counted]
    rfl
  cases stage with
  | waiting _ silent none nothing =>
    subst nothing
    rw [silent] at flags handed
    have none' : ∀ x ∈ th.log ++ [r], x.streams = false :=
      List.forall_mem_append.mpr ⟨none, List.forall_mem_singleton.mpr flags⟩
    refine ⟨[], s + ps.length, .waiting clients ?_ none' rfl, ?_, ?_, rfl⟩
    · show ((th.streamer.settle 0 t).session 0).m_streaming = false
      rw [same, silent]
    · rw [handed, if_neg Bool.false_ne_true, List.append_nil]
      exact parsed'
    · show _ = Option.some (Option.none, (List.range' _ (unitsHanded (th.log ++ [r]))).map _)
      rw [(unitsMissed_silent none').2]
      rfl
  | playing _ streams some rounds next =>
    rw [streams] at flags handed
    rw [if_pos rfl] at handed
    obtain ⟨x, inside, playing⟩ := some
    have front := unitsMissed_streaming ⟨x, inside, playing⟩ r
    have more : unitsHanded (th.log ++ [r]) = unitsHanded th.log + 1 := unitsHanded_concat counted flags
    refine ⟨packets ++ ps, start, .playing clients ?_ ⟨x, List.mem_append_left _ inside, playing⟩ ?_ ?_, ?_, ?_, ?_⟩
    · show ((th.streamer.settle 0 t).session 0).m_streaming = true
      rw [same, streams]
    · show unitsMissed (th.log ++ [r]) + unitsHanded (th.log ++ [r]) = (th.log ++ [r]).countP (·.idle)
      rw [front, more, count, ← rounds, Nat.add_assoc]
    · rw [List.length_append, ← Nat.add_assoc, next]
    · rw [handed, List.mapM_append, parsed', List.mapM_map]
      show (packetsOf fs >>= _) = _
      rw [parsed]
      rfl
    · show _ = Option.some (Option.none, (List.range' (unitsMissed (th.log ++ [r])) (unitsHanded (th.log ++ [r]))).map _)
      have all := Hevc.receiveAll_append units unit
      rw [List.map_append, all, front, more, List.range'_concat, List.map_append, List.map_singleton, Nat.one_mul, rounds]
    · rw [List.map_append, numbers', numbers, List.length_append, ← List.map_append, ← next, List.range'_append_1]
  | ended gone => rw [one] at gone; cases gone

/-- What holds between the rounds of a thread that streams the file of `nals`. -/
structure Serves (stream : Segment) (nals : List Bytes) (th : Thread) : Prop where
  position : ∃ packets start s, th.worker.At stream nals (th.log.countP (·.idle) % nals.length) s ∧
    Delivered nals th packets start s

theorem serves_start (udp : UdpSockets) (random : Nat) (ctx : RTPMuxContext) (file : StreamableFile stream nals) :
    Serves stream nals (Thread.start udp random stream ctx) := by
  refine ⟨[], 0, 0, ?_, .waiting rfl rfl nofun rfl, rfl, rfl, rfl⟩
  have first : (Thread.start udp random stream ctx).log.countP (·.idle) % nals.length = 0 := Nat.zero_mod _
  rw [first]
  exact Worker.at_start file.toUnitFile ctx

theorem Serves.clients (serves : Serves stream nals th) : th.streamer.m_Clients = [0] ∨ th.streamer.m_Clients = [] := by
  obtain ⟨packets, start, s, -, ⟨stage, -, -, -⟩⟩ := serves.position
  cases stage with
  | waiting one => exact .inl one
  | playing one => exact .inl one
  | ended gone => exact .inr gone

theorem serves_busy {t : Turn} (serves : Serves stream nals th) (one : th.streamer.m_Clients = [0])
    (turn : th.streamer.turn 0 read = .ok t) :
    Serves stream nals ⟨th.streamer.settle 0 t, th.worker, th.log ++ [⟨[t.entry read], false, []⟩]⟩ := by
  obtain ⟨packets, start, s, position, delivered⟩ := serves.position
  obtain ⟨start, delivered⟩ := delivered_busy one delivered turn
  refine ⟨packets, start, s, ?_, delivered⟩
  rw [idle_concat]
  exact position

/-- An idle round sends the unit at the position of the thread, and goes on to the next one. -/
theorem serves_idle {t : Turn} (file : StreamableFile stream nals) (serves : Serves stream nals th)
    (one : th.streamer.m_Clients = [0]) (turn : th.streamer.turn 0 read = .ok t) (idle : t.result = false) :
    ∃ worker fs, th.worker.iterate stream = some (worker, fs) ∧
      Serves stream nals ⟨th.streamer.settle 0 t, worker,
        th.log ++ [⟨[t.entry read], true, fs.flatMap (th.streamer.settle 0 t).fanOut⟩]⟩ := by
  obtain ⟨packets, start, s, position, delivered⟩ := serves.position
  obtain ⟨worker, fs, ps, iterated, parsed, unit, numbers, next⟩ := Worker.iterate_at file position
  obtain ⟨packets, start, delivered⟩ := @delivered_idle nals th read packets start s t worker fs ps one delivered turn idle
    parsed unit numbers
  refine ⟨worker, fs, iterated, packets, start, s + ps.length, ?_, delivered⟩
  rw [idle_concat, if_pos rfl, ← Nat.mod_add_mod]
  exact next

theorem serves_step (file : StreamableFile stream nals) (serves : Serves stream nals th)
    (taken : th.step stream read = .ok th') : Serves stream nals th' := by
  rcases serves.clients with one | none
  · obtain ⟨t, turn, ⟨-, rfl⟩ | ⟨idle, worker, fs, iterated, rfl⟩⟩ := Thread.step_cases one taken
    · exact serves_busy serves one turn
    · obtain ⟨worker', fs', iterated', next⟩ := serves_idle file serves one turn idle
      cases iterated.symm.trans iterated'
      exact next
  · rw [Thread.step_ended none] at taken
    cases taken
    exact serves

end

/-- Whatever the client sends and whenever it does, the packets it is handed carry the units of the file
that the loop passes while the client streams, one for each idle round from its PLAY on. -/
theorem workerThread_delivers (udp : UdpSockets) (random : Nat) (ctx : RTPMuxContext) (stream : Segment) (nals : List Bytes)
    (reads : List SocketRead) (file : StreamableFile stream nals) {th : Thread}
    (run : Runs.run (Thread.step stream) reads (Thread.start udp random stream ctx) = .ok th) :
    ∃ packets start, th.handed.mapM Rtp.parse = some packets ∧
      Hevc.depacketize (packets.map Rtp.Packet.payload) =
        some ((List.range' (unitsMissed th.log) (unitsHanded th.log)).map fun j => nals[j % nals.length]!) ∧
      packets.map (fun p => p.seq.toNat) = (List.range' start packets.length).map (· % 65536) := by
  have serves : Serves stream nals th := Runs.run_invariant (serves_step file) (serves_start udp random ctx file) run
  obtain ⟨packets, start, s, -, delivered⟩ := serves.position
  exact ⟨packets, start, delivered.parsed, Hevc.depacketize_of_receiveAll delivered.units, delivered.numbers⟩

/-- One idle round in front of the PLAY, two behind it. -/
def playReads : List SocketRead := [.timeout, .data playRequest.bytes, .timeout, .timeout, .closed, .timeout]

theorem workerThread_delivers_play :
    let nals : List Bytes := [[0x40, 1, 7], [0x42, 1]]
    let ctx : RTPMuxContext := ⟨.zero _, .zero _, 0, 0, 0, 0, 0, 0⟩
    ∃ th, (StreamableFile ⟨1, fileOf nals⟩ nals ∧
        Runs.run (Thread.step ⟨1, fileOf nals⟩) playReads
          (Thread.start ⟨fun _ => true, 2, []⟩ 5 ⟨1, fileOf nals⟩ ctx) = .ok th) ∧
      (unitsMissed th.log, unitsHanded th.log) = (1, 2) ∧
      ∃ packets start, th.handed.mapM Rtp.parse = some packets ∧
        Hevc.depacketize (packets.map Rtp.Packet.payload) =
          some ((List.range' (unitsMissed th.log) (unitsHanded th.log)).map fun j => nals[j % nals.length]!) ∧
        packets.map (fun p => p.seq.toNat) = (List.range' start packets.length).map (· % 65536) := by
  intro nals ctx
  have rounds : (Runs.run (Thread.step ⟨1, fileOf nals⟩) playReads
      (Thread.start ⟨fun _ => true, 2, []⟩ 5 ⟨1, fileOf nals⟩ ctx)).toOption.map
        (fun th => (unitsMissed th.log, unitsHanded th.log)) = some (1, 2) := by decide +kernel
  obtain ⟨th, run, counts⟩ := Runs.run_ends rounds
  exact ⟨th, ⟨streamable_two, run⟩, counts, workerThread_delivers _ 5 ctx ⟨1, fileOf nals⟩ nals playReads streamable_two run⟩

end RtspServer
