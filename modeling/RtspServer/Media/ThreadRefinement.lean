import RtspServer.Media.Timestamp
import RtspServer.Media.WorkerThread

/-!
# The thread as a run of the server

A run of `workerThread` refines both descriptions of the server: to the requests
it is the run of one session, whatever is streamed, and to the packets it is a
broadcast with one client.
-/

namespace RtspServer

theorem Run.Rel.imp {α β : Type} {P Q : α → β → Prop} {r : Run α} {r' : Run β} (h : Run.Rel P r r')
    (weaker : ∀ a b, P a b → Q a b) : Run.Rel Q r r' := by
  cases r with
  | ok a =>
    cases r' with
    | ok b => exact weaker a b h
    | error e => exact h
  | error e =>
    cases r' with
    | ok b => exact h
    | error e' => exact h

/-- What always holds of the left result joins the relation. -/
theorem Run.Rel.and_left {α β : Type} {P : α → Prop} {Q : α → β → Prop} {r : Run α} {r' : Run β} (h : Run.Rel Q r r')
    (left : ∀ a, r = .ok a → P a) : Run.Rel (fun a b => P a ∧ Q a b) r r' := by
  cases r with
  | ok a =>
    cases r' with
    | ok b => exact ⟨left a rfl, h⟩
    | error e => exact h
  | error e =>
    cases r' with
    | ok b => exact h
    | error e' => exact h

/-- Steps that keep a relation make up runs that keep it, and that fail together. -/
theorem Run.Rel.run {σ τ ε δ : Type} {R : σ → τ → Prop} {step : σ → ε → Run σ} {step' : τ → δ → Run τ} {event : ε → δ}
    (steps : ∀ x y e, R x y → Run.Rel R (step x e) (step' y (event e))) {es : List ε} {x : σ} {y : τ} (related : R x y) :
    Run.Rel R (Runs.run step es x) (Runs.run step' (es.map event) y) := by
  induction es generalizing x y with
  | nil => exact related
  | cons e es ih => exact Run.Rel.bind (steps x y e related) fun x' y' related' => ih related'

/-! ### The requests -/

/-- The server and the calls of the thread are those of the history. -/
structure SameRequests (th : Thread) (h : History) : Prop where
  server : th.streamer = h.server
  calls : h.log = th.calls.reverse

/-- The streaming loop goes on for ever on what `stream` holds. -/
def Endless (stream : Segment) (ctx : RTPMuxContext) : Prop := ∀ n, ((Worker.start stream ctx).run stream n).isSome

theorem calls_concat (streamer : Server) (worker : Worker) (log : List Round) (r : Round) :
    Thread.calls ⟨streamer, worker, log ++ [r]⟩ = log.flatMap (·.calls) ++ r.calls := by
  rw [Thread.calls, List.flatMap_append, List.flatMap_singleton]

section

variable {stream : Segment} {ctx : RTPMuxContext} {th th' : Thread} {h : History} {read : SocketRead}

theorem single_step (single : th.streamer.m_Clients = [0] ∨ th.streamer.m_Clients = []) (taken : th.step stream read = .ok th') :
    th'.streamer.m_Clients = [0] ∨ th'.streamer.m_Clients = [] := by
  rcases single with one | none
  · obtain ⟨t, -, ⟨-, rfl⟩ | ⟨-, worker, fs, -, rfl⟩⟩ := Thread.step_cases one taken
    all_goals
      show (th.streamer.settle 0 t).m_Clients = [0] ∨ (th.streamer.settle 0 t).m_Clients = []
      rw [settle_single one]
      cases t.session.m_stopped
      · exact .inl rfl
      · exact .inr rfl
  · rw [Thread.step_ended none] at taken
    cases taken
    exact .inr none

/-- Where the streaming loop is able to go on, a round is a call of the server with one session. -/
theorem step_requests (single : th.streamer.m_Clients = [0] ∨ th.streamer.m_Clients = [])
    (goes : (th.worker.iterate stream).isSome) (read : SocketRead) (same : SameRequests th h) :
    Run.Rel SameRequests (th.step stream read) (h.step (.read 0 read)) := by
  obtain ⟨server, calls⟩ := same
  rcases single with one | none
  swap
  · rw [Thread.step_ended none]
    unfold History.step
    dsimp only
    rw [← server, none, if_neg List.not_mem_nil]
    exact ⟨server, calls⟩
  have member : 0 ∈ h.server.m_Clients := by
    rw [← server, one]
    exact List.mem_singleton_self 0
  unfold History.step Thread.step Server.anySessions Thread.round
  dsimp only
  rw [if_pos member, ← server, one, if_pos (by rfl), serve_single, bind_assoc]
  cases turn : th.streamer.turn 0 read with
  | error e => rfl
  | ok t =>
    show Run.Rel _ (if t.result = true then _ else _) _
    cases result : t.result with
    | true =>
      rw [if_pos rfl]
      refine ⟨rfl, ?_⟩
      rw [calls_concat, calls, List.reverse_append]
      rfl
    | false =>
      obtain ⟨⟨worker, fs⟩, iterated⟩ := Option.isSome_iff_exists.mp goes
      rw [if_neg Bool.false_ne_true, iterated]
      refine ⟨rfl, ?_⟩
      rw [calls_concat, calls, List.reverse_append]
      rfl

/-- What holds between the rounds of a thread, whatever it streams: the worker has made some iterations. -/
structure Going (stream : Segment) (ctx : RTPMuxContext) (th : Thread) : Prop where
  single : th.streamer.m_Clients = [0] ∨ th.streamer.m_Clients = []
  reached : ∃ n fs, (Worker.start stream ctx).run stream n = some (th.worker, fs)

theorem going_start (udp : UdpSockets) (random : Nat) (stream : Segment) (ctx : RTPMuxContext) :
    Going stream ctx (Thread.start udp random stream ctx) := ⟨.inl rfl, 0, [], rfl⟩

theorem Going.goes (going : Going stream ctx th) (endless : Endless stream ctx) : (th.worker.iterate stream).isSome := by
  obtain ⟨n, fs, run⟩ := going.reached
  obtain ⟨⟨w, gs⟩, more⟩ := Option.isSome_iff_exists.mp (endless (n + 1))
  obtain ⟨hs, step, -⟩ := Worker.run_split n run more
  rw [Worker.run] at step
  obtain ⟨next, iterated, -⟩ := Option.bind_eq_some_iff.mp step
  rw [iterated]
  rfl

theorem going_step (going : Going stream ctx th) (taken : th.step stream read = .ok th') : Going stream ctx th' := by
  refine ⟨single_step going.single taken, ?_⟩
  obtain ⟨n, fs, run⟩ := going.reached
  rcases going.single with one | none
  · obtain ⟨t, -, ⟨-, rfl⟩ | ⟨-, worker, gs, iterated, rfl⟩⟩ := Thread.step_cases one taken
    · exact ⟨n, fs, run⟩
    · exact ⟨n + 1, fs ++ gs, Worker.run_succ run iterated⟩
  · rw [Thread.step_ended none] at taken
    cases taken
    exact ⟨n, fs, run⟩

end

/-- To the requests the thread is the server with one session: it answers them in the same way and fails where
the server fails, wherever it is in the file, as long as the streaming loop itself goes on. -/
theorem thread_history (udp : UdpSockets) (random : Nat) (stream : Segment) (ctx : RTPMuxContext) (reads : List SocketRead)
    (endless : Endless stream ctx) :
    Run.Rel SameRequests
      (Runs.run (Thread.step stream) reads (Thread.start udp random stream ctx))
      (Runs.run History.step (.addSession random :: reads.map (Event.read 0))
        (History.start udp (ascii "live") (ascii "1"))) := by
  have start : SameRequests (Thread.start udp random stream ctx)
      ⟨(Server.create ((CStreamer.create udp).setURI (ascii "live") (ascii "1"))).addSession random, []⟩ := ⟨rfl, rfl⟩
  have step (th : Thread) (h : History) (read : SocketRead) (both : Going stream ctx th ∧ SameRequests th h) :
      Run.Rel (fun th h => Going stream ctx th ∧ SameRequests th h) (th.step stream read) (h.step (.read 0 read)) :=
    (step_requests both.1.single (both.1.goes endless) read both.2).and_left fun _ taken => going_step both.1 taken
  exact (Run.Rel.run step ⟨going_start udp random stream ctx, start⟩).imp fun _ _ both => both.2

theorem thread_history_play :
    let stream : Segment := ⟨1, fileOf [[0x40, 1, 7], [0x42, 1]]⟩
    let ctx : RTPMuxContext := ⟨.zero _, .zero _, 0, 0, 0, 0, 0, 0⟩
    Endless stream ctx ∧
      Run.Rel SameRequests
        (Runs.run (Thread.step stream) playReads (Thread.start ⟨fun _ => true, 2, []⟩ 5 stream ctx))
        (Runs.run History.step (.addSession 5 :: playReads.map (Event.read 0))
          (History.start ⟨fun _ => true, 2, []⟩ (ascii "live") (ascii "1"))) := by
  intro stream ctx
  have endless : Endless stream ctx := streams_of_streamable streamable_two ctx
  exact ⟨endless, thread_history _ 5 stream ctx playReads endless⟩

/-! ### The packets -/

/-- The server, the context and the packets of the thread are those of the broadcast. -/
structure SamePackets (th : Thread) (b : Broadcast) : Prop where
  server : th.streamer = b.server
  ctx : th.worker.rtpMuxContext = b.ctx
  handed : th.handed = b.log.flatMap (Item.handedTo 0)

/-- A broadcast gets where the thread is. -/
def Thread.Broadcasts (udp : UdpSockets) (ctx : RTPMuxContext) (th : Thread) : Prop :=
  ∃ events b, Runs.run Broadcast.step events
    (Broadcast.start udp (ascii "live") (ascii "1") (initRTPMuxContext ctx)) = .ok b ∧ SamePackets th b

section

variable {stream : Segment} {th th' : Thread} {b : Broadcast} {read : SocketRead}

theorem broadcast_call {t : Turn} (one : b.server.m_Clients = [0]) (turn : b.server.turn 0 read = .ok t) :
    ∃ b', b.step (.handleRequests fun _ => read) = .ok b' ∧ b'.server = b.server.settle 0 t ∧ b'.ctx = b.ctx ∧
      b'.log.flatMap (Item.handedTo 0) = b.log.flatMap (Item.handedTo 0) := by
  refine ⟨⟨b.server.settle 0 t, b.ctx, b.log ++ [.called 0 t.session.m_streaming t.session.m_stopped]⟩, ?_, rfl, rfl, ?_⟩
  · unfold Broadcast.step
    dsimp only
    rw [one, Broadcast.visit, Broadcast.call, turn]
    rfl
  · rw [List.flatMap_append]
    exact List.append_nil _

/-- What an iteration of the streaming loop sends, as one call of the sender. -/
theorem iterate_sends {w w' : Worker} {fs : List Bytes} (iterated : w.iterate stream = some (w', fs)) :
    ∃ nal ctx, rtpSendNALH265 w.rtpMuxContext nal 0 = some (ctx, fs) ∧
      w'.rtpMuxContext = { ctx with timestamp := ctx.timestamp + 3000 } := by
  unfold Worker.iterate at iterated
  simp only [Option.bind_eq_bind, Option.bind_eq_some_iff] at iterated
  obtain ⟨v, -, ⟨ctx, gs⟩, streamed, rest⟩ := iterated
  have call : ∃ nal, rtpSendNALH265 w.rtpMuxContext nal 0 = some (ctx, gs) := by
    unfold streamNal at streamed
    split at streamed
    · cases streamed
    · obtain ⟨nal, -, sent⟩ := Option.bind_eq_some_iff.mp streamed
      exact ⟨nal, sent⟩
  obtain ⟨nal, sent⟩ := call
  refine ⟨nal, ctx, ?_⟩
  split at rest
  all_goals
    cases rest
    exact ⟨sent, rfl⟩

theorem packets_handed (one : b.server.m_Clients = [0]) (fs : List Bytes) :
    (b.packets fs).flatMap (Item.handedTo 0) = (fs.flatMap b.server.fanOut).map fun d => d.2.rtp := by
  have each (f : Bytes) : (Item.packet f (b.server.fanOut f)).handedTo 0 =
      if (b.server.session 0).m_streaming = true then [f.drop 4] else [] := by
    rw [handedTo_packet, one]
    simp
  rw [fanOut_single one, Broadcast.packets, List.flatMap_map]
  simp only [each]
  split
  · exact List.flatMap_pure_eq_map _ fs
  · exact List.flatMap_eq_nil_iff.mpr fun _ _ => rfl

theorem step_packets (single : th.streamer.m_Clients = [0] ∨ th.streamer.m_Clients = []) (same : SamePackets th b)
    (taken : th.step stream read = .ok th') : ∃ events b', Runs.run Broadcast.step events b = .ok b' ∧ SamePackets th' b' := by
  obtain ⟨server, ctx, handed⟩ := same
  rcases single with one | none
  swap
  · rw [Thread.step_ended none] at taken
    cases taken
    exact ⟨[], b, rfl, server, ctx, handed⟩
  obtain ⟨t, turn, outcome⟩ := Thread.step_cases one taken
  obtain ⟨b1, called, server1, ctx1, silent⟩ := broadcast_call (server ▸ one) (server ▸ turn)
  rw [← server] at server1
  rw [← ctx] at ctx1
  rw [← handed] at silent
  rcases outcome with ⟨-, rfl⟩ | ⟨idle, worker, fs, iterated, rfl⟩
  · refine ⟨[.handleRequests fun _ => read], b1, by rw [Runs.run, called]; rfl, server1.symm, ctx1.symm, ?_⟩
    rw [silent, handed_concat]
    exact List.append_nil _
  · obtain ⟨nal, next, sent, after⟩ := iterate_sends iterated
    rw [← ctx1] at sent
    have member : 0 ∈ th.streamer.m_Clients := by rw [one]; exact List.mem_singleton_self 0
    have clients : b1.server.m_Clients = [0] := by
      rw [server1, settle_single one, (turn_idle member turn idle).2]
      rfl
    refine ⟨[.handleRequests fun _ => read, .rtpSendNALH265 nal 0, .timestamp (next.timestamp + 3000)],
      ⟨b1.server, { next with timestamp := next.timestamp + 3000 }, b1.log ++ b1.packets fs⟩, ?_, server1.symm, after, ?_⟩
    · have send : b1.step (.rtpSendNALH265 nal 0) = .ok ⟨b1.server, next, b1.log ++ b1.packets fs⟩ := by
        unfold Broadcast.step
        dsimp only
        rw [sent]
        rfl
      simp only [Runs.run, called, send, ok_bind]
      rfl
    · rw [List.flatMap_append, silent, packets_handed clients, handed_concat, server1]
      rfl

end

/-- To the packets the thread is a broadcast with one client, whatever the file holds. -/
theorem thread_broadcast {udp : UdpSockets} {random : Nat} {stream : Segment} {ctx : RTPMuxContext} {reads : List SocketRead}
    {th : Thread} (run : Runs.run (Thread.step stream) reads (Thread.start udp random stream ctx) = .ok th) :
    th.Broadcasts udp ctx := by
  have keeps {x : Thread} {read : SocketRead} {y : Thread}
      (inv : (x.streamer.m_Clients = [0] ∨ x.streamer.m_Clients = []) ∧ x.Broadcasts udp ctx) (taken : x.step stream read = .ok y) :
      (y.streamer.m_Clients = [0] ∨ y.streamer.m_Clients = []) ∧ y.Broadcasts udp ctx := by
    obtain ⟨single, events, b, before, same⟩ := inv
    obtain ⟨more, b', after, same'⟩ := step_packets single same taken
    exact ⟨single_step single taken, events ++ more, b', Runs.run_append before after, same'⟩
  have start : (Thread.start udp random stream ctx).Broadcasts udp ctx :=
    ⟨[.addSession random], _, rfl, rfl, rfl, rfl⟩
  exact (Runs.run_invariant keeps ⟨.inl rfl, start⟩ run).2

theorem thread_broadcast_play :
    let stream : Segment := ⟨1, fileOf [[0x40, 1, 7], [0x42, 1]]⟩
    let ctx : RTPMuxContext := ⟨.zero _, .zero _, 0, 0, 0, 0, 0, 0⟩
    ∃ th, Runs.run (Thread.step stream) playReads (Thread.start ⟨fun _ => true, 2, []⟩ 5 stream ctx) = .ok th ∧
      th.handed.length = 2 ∧ th.Broadcasts ⟨fun _ => true, 2, []⟩ ctx := by
  intro stream ctx
  have two : (Runs.run (Thread.step stream) playReads (Thread.start ⟨fun _ => true, 2, []⟩ 5 stream ctx)).toOption.map
      (fun th => th.handed.length) = some 2 := by decide +kernel
  obtain ⟨th, run, length⟩ := Runs.run_ends two
  exact ⟨th, run, length, thread_broadcast run⟩

/-! ### The end of the loop -/

/-- A call stops the session when its socket is closed or the request it finishes is a TEARDOWN, accepted or not. -/
theorem turn_stopped {sv : Server} {i : Nat} {read : SocketRead} {t : Turn} (member : i ∈ sv.m_Clients)
    (turn : sv.turn i read = .ok t) (stopped : t.session.m_stopped = true) :
    read = .closed ∨ t.session.m_RtspCmdType = .RTSP_TEARDOWN := by
  have live := sv.live i member
  rcases handleRequests_cases live turn with ⟨-, rfl⟩ | ⟨closed, -⟩ | ⟨bytes, fits, -, -, answered⟩
  · exact absurd (live.symm.trans stopped) Bool.false_ne_true
  · exact .inl closed
  have found : (findMethod (sv.session i) (sv.receiver.refresh.append bytes fits)).1.m_stopped = false :=
    (findMethod_flags _ _).1.trans live
  rcases answer_cases answered with ⟨-, -, rfl⟩ | ⟨-, -, rfl⟩ | ⟨st', s', sent, handled, rfl⟩
  · exact absurd (found.symm.trans stopped) Bool.false_ne_true
  · exact absurd (found.symm.trans stopped) Bool.false_ne_true
  have before : s'.m_stopped = false := by
    rcases Handle_RtspRequest_cases handled with ⟨s1, accepted, same⟩ | ⟨rejected, -, -⟩
    · have flags := dispatch_flags sv.streamer s1
      rw [← same] at flags
      rw [flags.2.1, (ParseRtspRequest_outside accepted).stopped, found]
    · rw [(ParseRtspRequest_outside rejected).stopped, found]
  have marked := (markCommand_fields s').2.1.mp stopped
  refine .inr ?_
  show s'.markCommand.m_RtspCmdType = .RTSP_TEARDOWN
  unfold CRtspSession.markCommand
  rcases marked with wrong | teardown
  · exact absurd (before.symm.trans wrong) Bool.false_ne_true
  · rw [teardown]

/-- The calls made for `reads`: all of them while the session lives, else those up to the one that stopped it. -/
inductive Lifetime (th : Thread) (reads : List SocketRead) : Prop
  | going (one : th.streamer.m_Clients = [0]) (all : th.calls.map (·.read) = reads)
      (live : ∀ e ∈ th.calls, e.session.m_stopped = false)
  | ended (gone : th.streamer.m_Clients = []) (front : List Entry) (last : Entry) (calls : th.calls = front ++ [last])
      (made : th.calls.map (·.read) <+: reads) (live : ∀ e ∈ front, e.session.m_stopped = false)
      (stopped : last.session.m_stopped = true)
      (cause : last.read = .closed ∨ last.session.m_RtspCmdType = .RTSP_TEARDOWN)

section

variable {stream : Segment} {th th' : Thread} {read : SocketRead} {reads more : List SocketRead}

theorem lifetime_step (lifetime : Lifetime th reads) (taken : th.step stream read = .ok th') :
    Lifetime th' (reads ++ [read]) := by
  cases lifetime with
  | ended gone front last calls made live stopped cause =>
    rw [Thread.step_ended gone] at taken
    cases taken
    exact .ended gone front last calls (List.prefix_append_of_prefix made) live stopped cause
  | going one all live =>
    obtain ⟨t, turn, outcome⟩ := Thread.step_cases one taken
    have member : 0 ∈ th.streamer.m_Clients := by rw [one]; exact List.mem_singleton_self 0
    have after : th'.streamer.m_Clients = (if t.session.m_stopped then [] else [0]) ∧ th'.calls = th.calls ++ [t.entry read] := by
      rcases outcome with ⟨-, rfl⟩ | ⟨-, worker, fs, -, rfl⟩
      · exact ⟨settle_single one t, calls_concat _ _ _ _⟩
      · exact ⟨settle_single one t, calls_concat _ _ _ _⟩
    obtain ⟨clients, calls⟩ := after
    have made : th'.calls.map (·.read) = reads ++ [read] := by
      rw [calls, List.map_append, all]
      rfl
    cases stopped : t.session.m_stopped with
    | true =>
      rw [stopped] at clients
      exact .ended clients th.calls (t.entry read) calls (by rw [made]) live stopped (turn_stopped member turn stopped)
    | false =>
      rw [stopped] at clients
      refine .going clients made ?_
      rw [calls]
      exact List.forall_mem_append.mpr ⟨live, List.forall_mem_singleton.mpr stopped⟩

theorem run_lifetime (lifetime : Lifetime th reads) (run : Runs.run (Thread.step stream) more th = .ok th') :
    Lifetime th' (reads ++ more) := by
  induction more generalizing th reads with
  | nil =>
    cases run
    rw [List.append_nil]
    exact lifetime
  | cons read more ih =>
    obtain ⟨mid, taken, rest⟩ := Runs.run_cons run
    have next := ih (lifetime_step lifetime taken) rest
    rwa [List.append_assoc] at next

end

/-- The loop ends with the first round in which the session stops, and makes no read behind it; it stops only for a
closed socket or a TEARDOWN. -/
theorem workerThread_ends {udp : UdpSockets} {random : Nat} {stream : Segment} {ctx : RTPMuxContext} {reads : List SocketRead}
    {th : Thread} (run : Runs.run (Thread.step stream) reads (Thread.start udp random stream ctx) = .ok th) :
    Lifetime th reads :=
  run_lifetime (.going rfl rfl fun _ none => absurd none List.not_mem_nil) run

theorem workerThread_ends_play :
    let stream : Segment := ⟨1, fileOf [[0x40, 1, 7], [0x42, 1]]⟩
    let ctx : RTPMuxContext := ⟨.zero _, .zero _, 0, 0, 0, 0, 0, 0⟩
    ∃ th, Runs.run (Thread.step stream) playReads (Thread.start ⟨fun _ => true, 2, []⟩ 5 stream ctx) = .ok th ∧
      th.calls.length = 5 ∧ Lifetime th playReads := by
  intro stream ctx
  have five : (Runs.run (Thread.step stream) playReads (Thread.start ⟨fun _ => true, 2, []⟩ 5 stream ctx)).toOption.map
      (fun th => th.calls.length) = some 5 := by decide +kernel
  obtain ⟨th, run, length⟩ := Runs.run_ends five
  exact ⟨th, run, length, workerThread_ends run⟩

end RtspServer
