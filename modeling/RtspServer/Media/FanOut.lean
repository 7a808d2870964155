import Mathlib.Data.List.TakeWhile
import RtspServer.Media.NalSender
import RtspServer.Session.Streaming

/-!
# Packets to the sessions

The loop of `CStreamer::rtpSendData` over the clients, and runs in which
sessions come, play and go while units are sent. A session is handed one stretch
of the packets.
-/

namespace RtspServer

/-- What `socketsend` or `udpsocketsend` is given. -/
inductive Delivery where
  | tcp (bytes : Bytes)
  | udp (socket : Nat) (port : UInt16) (bytes : Bytes)
  deriving DecidableEq

/-- The RTP packet of a delivery, behind the interleaved header of TCP. -/
def Delivery.rtp : Delivery → Bytes
  | tcp bytes => bytes.drop 4
  | udp _ _ bytes => bytes

def CRtspSession.receives (s : CRtspSession) : Bool := s.m_streaming && !s.m_stopped

/-- The loop over the clients, for the `len + 12 + 4` bytes at `ctx->cache`. -/
def Server.fanOut (sv : Server) (cache : Bytes) : List (Nat × Delivery) :=
  (sv.m_Clients.filter fun i => (sv.session i).receives).map fun i =>
    (i, if (sv.session i).m_TcpTransport then .tcp cache
      else .udp sv.streamer.m_RtpSocket (sv.session i).m_RtpClientPort (cache.drop 4))

/-! ### Runs -/

/-- What happens to be seen of a run: a call of `session->handleRequests` with the flags
it leaves, or a packet. -/
inductive Item where
  | called (id : Nat) (m_streaming m_stopped : Bool)
  | packet (cache : Bytes) (handed : List (Nat × Delivery))

/-- A streamer and the context it sends with. The log is in the order of time. -/
structure Broadcast where
  server : Server
  ctx : RTPMuxContext
  log : List Item

def Broadcast.start (udp : UdpSockets) (pres stream : Bytes) (ctx : RTPMuxContext) : Broadcast :=
  ⟨Server.create ((CStreamer.create udp).setURI pres stream), ctx, []⟩

inductive BroadcastEvent where
  | addSession (random : Nat)
  | handleRequests (reads : Nat → SocketRead)
  | rtpSendNALH265 (nal : Bytes) (last : Int)
  /-- The owner of the context sets the time of the next packets. -/
  | timestamp (timestamp : UInt32)

namespace Broadcast

def call (b : Broadcast) (i : Nat) (read : SocketRead) : Run Broadcast := do
  let t ← b.server.turn i read
  return { b with server := b.server.settle i t, log := b.log ++ [.called i t.session.m_streaming t.session.m_stopped] }

def visit (reads : Nat → SocketRead) : List Nat → Broadcast → Run Broadcast
  | [], b => return b
  | i :: rest, b => do visit reads rest (← b.call i (reads i))

def packets (b : Broadcast) (fs : List Bytes) : List Item := fs.map fun f => .packet f (b.server.fanOut f)

def step (b : Broadcast) : BroadcastEvent → Run Broadcast
  | .addSession random => return { b with server := b.server.addSession random }
  | .handleRequests reads => b.visit reads b.server.m_Clients
  | .rtpSendNALH265 nal last =>
    match rtpSendNALH265 b.ctx nal last with
    | some (ctx, fs) => return { b with ctx, log := b.log ++ b.packets fs }
    | none => .error .outOfBounds
  | .timestamp timestamp => return { b with ctx := { b.ctx with timestamp } }

/-- The calls of `visit` are those of `CStreamer::handleRequests`. -/
theorem visit_server (reads : Nat → SocketRead) (ids : List Nat) (b : Broadcast) :
    Run.Rel (fun b' r => b'.server = r.1) (b.visit reads ids) (b.server.visit reads ids) := by
  induction ids generalizing b with
  | nil => rfl
  | cons i ids ih =>
    rw [visit, call, Server.visit, bind_assoc]
    refine Run.Rel.bind_same (b.server.turn i (reads i)) fun t => ?_
    exact Run.Rel.bind_right (ih _) fun b' r same => same

end Broadcast

/-! ### The packets of a session -/

namespace Item

/-- `m_streaming` of session `i` is true behind the call. -/
def starts (i : Nat) : Item → Bool
  | called j m_streaming _ => j = i ∧ m_streaming
  | packet .. => false

/-- `m_stopped` of session `i` is true behind the call. -/
def stops (i : Nat) : Item → Bool
  | called j _ m_stopped => j = i ∧ m_stopped
  | packet .. => false

def rtp : Item → List Bytes
  | called .. => []
  | packet cache _ => [cache.drop 4]

/-- What session `i` is handed. -/
def handedTo (i : Nat) : Item → List Bytes
  | called .. => []
  | packet _ handed => (handed.filter fun d => d.1 = i).map fun d => d.2.rtp

end Item

/-- The log from the call that starts the stream of session `i` on. -/
def started (i : Nat) (log : List Item) : List Item := log.dropWhile fun x => !x.starts i

/-- The part of the log in which session `i` streams. -/
def stretch (i : Nat) (log : List Item) : List Item := (started i log).takeWhile fun x => !x.stops i

theorem started_concat (i : Nat) (log : List Item) (x : Item) :
    started i (log ++ [x]) = if started i log = [] then (if x.starts i then [x] else []) else started i log ++ [x] := by
  unfold started
  rw [List.dropWhile_append]
  cases found : log.dropWhile fun x => !x.starts i with
  | nil =>
    rw [if_pos List.isEmpty_nil, if_pos rfl]
    cases starts : x.starts i
    · rw [List.dropWhile_cons_of_pos (by rw [starts]; rfl)]
      rfl
    · rw [List.dropWhile_cons_of_neg (by rw [starts]; exact Bool.false_ne_true)]
      rfl
  | cons y rest =>
    rw [if_neg (by exact Bool.false_ne_true), if_neg (List.cons_ne_nil y rest)]

/-- Where session `i` stands: before its stream, in it or behind it. -/
inductive Status (i : Nat) (b : Broadcast) : Prop
  | waiting (none : started i b.log = [])
      (silent : i ∈ b.server.m_Clients → (b.server.session i).m_streaming = false)
  | streaming (some : started i b.log ≠ []) (going : ∀ x ∈ started i b.log, x.stops i = false)
      (member : i ∈ b.server.m_Clients) (streams : (b.server.session i).m_streaming = true)
  | gone (ended : ∃ x ∈ started i b.log, x.stops i = true) (removed : i ∉ b.server.m_Clients)
      (born : i < b.server.created)

/-- The stretch so far, and what session `i` was handed is its packets. -/
structure Follows (i : Nat) (b : Broadcast) : Prop where
  status : Status i b
  handed : b.log.flatMap (Item.handedTo i) = (stretch i b.log).flatMap Item.rtp

section

variable {i j : Nat} {log : List Item} {x : Item} {b : Broadcast}

theorem stretch_going (some : started i log ≠ []) (going : ∀ y ∈ started i log, y.stops i = false) (x : Item) :
    stretch i log = started i log ∧
      stretch i (log ++ [x]) = started i log ++ (if x.stops i then [] else [x]) := by
  have all : ∀ y ∈ started i log, (!y.stops i) = true := fun y member => by rw [going y member]; rfl
  refine ⟨List.takeWhile_eq_self_iff.mpr all, ?_⟩
  rw [stretch, started_concat, if_neg some, List.takeWhile_append_of_pos all]
  cases stops : x.stops i
  · rw [List.takeWhile_cons_of_pos (by rw [stops]; rfl)]
    rfl
  · rw [List.takeWhile_cons_of_neg (by rw [stops]; exact Bool.false_ne_true)]
    rfl

theorem stretch_gone (ended : ∃ y ∈ started i log, y.stops i = true) (x : Item) :
    stretch i (log ++ [x]) = stretch i log ∧ ∃ y ∈ started i (log ++ [x]), y.stops i = true := by
  obtain ⟨y, member, stops⟩ := ended
  have some : started i log ≠ [] := List.ne_nil_of_mem member
  rw [stretch, stretch, started_concat, if_neg some]
  refine ⟨?_, y, List.mem_append_left [x] member, stops⟩
  rw [List.takeWhile_append, if_neg]
  intro whole
  have all := List.takeWhile_eq_self_iff.mp ((List.takeWhile_prefix _).eq_of_length whole) y member
  rw [stops] at all
  cases all

/-- An item that is not about session `i` and hands it nothing changes nothing for it outside its stream. -/
theorem Follows.other (follows : Follows i b) (noStart : x.starts i = false) (noStop : x.stops i = false)
    (handed : x.handedTo i = if i ∈ b.server.m_Clients ∧ (b.server.session i).m_streaming = true then x.rtp else [])
    {server : Server} {ctx : RTPMuxContext} (clients : i ∈ server.m_Clients ↔ i ∈ b.server.m_Clients)
    (session : server.session i = b.server.session i) (created : b.server.created ≤ server.created) :
    Follows i ⟨server, ctx, b.log ++ [x]⟩ := by
  obtain ⟨status, whole⟩ := follows
  have total : (b.log ++ [x]).flatMap (Item.handedTo i) = b.log.flatMap (Item.handedTo i) ++ x.handedTo i := by
    rw [List.flatMap_append, List.flatMap_singleton]
  cases status with
  | waiting none silent =>
    have still : started i (b.log ++ [x]) = [] := by
      rw [started_concat, if_pos none, noStart]
      rfl
    refine ⟨.waiting still (by rw [clients, session]; exact silent), ?_⟩
    rw [total, whole, handed, stretch, stretch, none, still, if_neg]
    · rfl
    · exact fun both => Bool.false_ne_true ((silent both.1).symm.trans both.2)
  | streaming some going member streams =>
    obtain ⟨before, after⟩ := stretch_going some going x
    have more : started i (b.log ++ [x]) = started i b.log ++ [x] := by rw [started_concat, if_neg some]
    refine ⟨.streaming ?_ ?_ (clients.mpr member) (by rw [session]; exact streams), ?_⟩
    · show started i (b.log ++ [x]) ≠ []
      rw [more]
      exact List.append_ne_nil_of_left_ne_nil some [x]
    · show ∀ y ∈ started i (b.log ++ [x]), y.stops i = false
      rw [more]
      exact List.forall_mem_append.mpr ⟨going, List.forall_mem_singleton.mpr noStop⟩
    · rw [total, whole, after, noStop, before, handed, if_pos ⟨member, streams⟩, List.flatMap_append]
      show _ = _ ++ [x].flatMap Item.rtp
      rw [List.flatMap_singleton]
  | gone ended removed born =>
    obtain ⟨same, ended'⟩ := stretch_gone ended x
    refine ⟨.gone ended' (mt clients.mp removed) (Nat.lt_of_lt_of_le born created), ?_⟩
    rw [total, whole, handed, if_neg fun both => removed both.1, List.append_nil]
    exact congrArg (List.flatMap Item.rtp) same.symm

theorem Delivery.rtp_fanOut (s : CRtspSession) (socket : Nat) (f : Bytes) :
    (if s.m_TcpTransport then Delivery.tcp f else .udp socket s.m_RtpClientPort (f.drop 4)).rtp = f.drop 4 := by
  cases s.m_TcpTransport <;> rfl

/-- What a session is handed of a packet: one delivery while it streams. -/
theorem Server.fanOut_own (sv : Server) (i : Nat) (f : Bytes) :
    (sv.fanOut f).filter (fun d => d.1 = i) =
      if i ∈ sv.m_Clients ∧ (sv.session i).m_streaming = true then
        [(i, if (sv.session i).m_TcpTransport then .tcp f
          else .udp sv.streamer.m_RtpSocket (sv.session i).m_RtpClientPort (f.drop 4))]
      else [] := by
  have receivers : i ∈ (sv.m_Clients.filter fun i => (sv.session i).receives) ↔
      i ∈ sv.m_Clients ∧ (sv.session i).m_streaming = true := by
    rw [List.mem_filter]
    refine and_congr_right fun member => ?_
    rw [CRtspSession.receives, sv.live i member, Bool.not_false, Bool.and_true]
  have own : ((fun d : Nat × Delivery => decide (d.1 = i)) ∘ fun i => (i, if (sv.session i).m_TcpTransport then
      Delivery.tcp f else .udp sv.streamer.m_RtpSocket (sv.session i).m_RtpClientPort (f.drop 4))) =
        fun j => j == i := by
    funext j
    exact Bool.beq_eq_decide_eq j i |>.symm
  rw [Server.fanOut, List.filter_map, own, List.filter_beq, (sv.nodup.filter _).count]
  by_cases receives : i ∈ sv.m_Clients ∧ (sv.session i).m_streaming = true
  · rw [if_pos (receivers.mpr receives), if_pos receives]
    rfl
  · rw [if_neg (mt receivers.mp receives), if_neg receives]
    rfl

theorem handedTo_packet (b : Broadcast) (f : Bytes) :
    (Item.packet f (b.server.fanOut f)).handedTo i =
      if i ∈ b.server.m_Clients ∧ (b.server.session i).m_streaming = true then [f.drop 4] else [] := by
  rw [Item.handedTo, Server.fanOut_own]
  split
  · exact congrArg (fun rtp => [rtp]) (Delivery.rtp_fanOut _ _ f)
  · rfl

/-! ### Steps -/

theorem turn_streaming {sv : Server} {read : SocketRead} {t : Turn} (member : i ∈ sv.m_Clients)
    (streams : (sv.session i).m_streaming = true) (turn : sv.turn i read = .ok t) : t.session.m_streaming = true := by
  rcases handleRequests_cases (sv.live i member) turn with ⟨-, rfl⟩ | ⟨-, rfl⟩ | ⟨bytes, fits, -, -, answered⟩
  · exact streams
  · exact streams
  rw [← (findMethod_flags (sv.session i) (sv.receiver.refresh.append bytes fits)).2] at streams
  rcases answer_cases answered with ⟨-, -, rfl⟩ | ⟨-, -, rfl⟩ | ⟨st', s', sent, handled, rfl⟩
  · exact streams
  · exact streams
  have after : s'.m_streaming = true := by
    rcases Handle_RtspRequest_cases handled with ⟨s1, accepted, same⟩ | ⟨rejected, -, -⟩
    · have flags := dispatch_flags sv.streamer s1
      rw [← same] at flags
      rw [flags.2.2, (ParseRtspRequest_outside accepted).streaming]
      exact streams
    · rw [(ParseRtspRequest_outside rejected).streaming]
      exact streams
  exact (markCommand_fields s').1.mpr (.inl after)

theorem stretch_silent (silent : x.rtp = []) (log : List Item) :
    (stretch i (log ++ [x])).flatMap Item.rtp = (stretch i log).flatMap Item.rtp := by
  have none : [x].flatMap Item.rtp = [] := by rw [List.flatMap_singleton, silent]
  by_cases some : started i log = []
  · have before : stretch i log = [] := by rw [stretch, some]; rfl
    have here : started i (log ++ [x]) <+: [x] := by
      rw [started_concat, if_pos some]
      split
      · exact List.prefix_refl _
      · exact List.nil_prefix
    obtain ⟨rest, whole⟩ := (List.takeWhile_prefix fun y => !y.stops i).trans here
    rw [← whole, List.flatMap_append] at none
    rw [before]
    exact List.append_eq_nil_iff.mp none |>.1
  by_cases going : ∀ y ∈ started i log, y.stops i = false
  · obtain ⟨before, after⟩ := stretch_going some going x
    rw [after, before, List.flatMap_append]
    cases x.stops i
    · rw [if_neg Bool.false_ne_true, none, List.append_nil]
    · rw [if_pos rfl, List.flatMap_nil, List.append_nil]
  · obtain ⟨y, member, stops⟩ : ∃ y ∈ started i log, y.stops i = true := by simpa using going
    rw [(stretch_gone ⟨y, member, stops⟩ x).1]

/-- A session that was called starts its stream, goes on with it, or ends it. -/
theorem Status.called {read : SocketRead} {t : Turn} (status : Status i b) (member : i ∈ b.server.m_Clients)
    (turn : b.server.turn i read = .ok t) :
    Status i ⟨b.server.settle i t, b.ctx, b.log ++ [.called i t.session.m_streaming t.session.m_stopped]⟩ := by
  obtain ⟨client, kept⟩ := Server.settle_self b.server i member t
  have born : i < (b.server.settle i t).created := by
    rw [Server.settle_created]
    exact b.server.born i member
  have starts : (Item.called i t.session.m_streaming t.session.m_stopped).starts i = t.session.m_streaming := by
    simp [Item.starts]
  have stops : (Item.called i t.session.m_streaming t.session.m_stopped).stops i = t.session.m_stopped := by
    simp [Item.stops]
  generalize Item.called i t.session.m_streaming t.session.m_stopped = x at starts stops
  -- In the stretch, the call goes on or ends it.
  have within (streams : t.session.m_streaming = true) (front : List Item) (going : ∀ y ∈ front, y.stops i = false)
      (now : started i (b.log ++ [x]) = front ++ [x]) : Status i ⟨b.server.settle i t, b.ctx, b.log ++ [x]⟩ := by
    have last : x ∈ started i (b.log ++ [x]) := by
      rw [now]
      exact List.mem_append_right front (List.mem_singleton_self x)
    cases stopped : t.session.m_stopped with
    | true => exact .gone ⟨x, last, stops.trans stopped⟩ (fun inside => nomatch stopped.symm.trans (client.mp inside)) born
    | false =>
      refine .streaming (List.ne_nil_of_mem last) ?_ (client.mpr stopped) ?_
      · show ∀ y ∈ started i (b.log ++ [x]), y.stops i = false
        rw [now]
        exact List.forall_mem_append.mpr ⟨going, List.forall_mem_singleton.mpr (stops.trans stopped)⟩
      · show ((b.server.settle i t).session i).m_streaming = true
        rw [kept stopped, streams]
  cases status with
  | waiting none silent =>
    cases streams : t.session.m_streaming with
    | false =>
      have still : started i (b.log ++ [x]) = [] := by
        rw [started_concat, if_pos none, starts, streams]
        rfl
      refine .waiting still fun inside => ?_
      show ((b.server.settle i t).session i).m_streaming = false
      rw [kept (client.mp inside), streams]
    | true =>
      apply within streams [] nofun
      rw [started_concat, if_pos none, starts, if_pos streams]
      rfl
  | streaming some going inside streams =>
    exact within (turn_streaming member streams turn) (started i b.log) going (by rw [started_concat, if_neg some])
  | gone ended gone' _ => exact absurd member gone'

theorem call_follows {read : SocketRead} {b' : Broadcast} (follows : Follows j b) (member : i ∈ b.server.m_Clients)
    (taken : b.call i read = .ok b') : Follows j b' := by
  obtain ⟨t, turn, rest⟩ := bind_ok taken
  obtain rfl := pure_ok rest
  by_cases same : i = j
  · subst same
    refine ⟨follows.status.called member turn, ?_⟩
    rw [stretch_silent rfl, List.flatMap_append, ← follows.handed]
    exact List.append_nil _
  · obtain ⟨clients, session⟩ := Server.settle_others b.server t (fun own => same own.symm)
    refine follows.other ?_ ?_ ?_ clients session (Nat.le_of_eq (Server.settle_created b.server i).symm)
    · exact decide_eq_false fun both => same both.1
    · exact decide_eq_false fun both => same both.1
    · exact (ite_self ([] : List Bytes)).symm

theorem addSession_follows (follows : Follows i b) (random : Nat) :
    Follows i { b with server := b.server.addSession random } := by
  obtain ⟨status, whole⟩ := follows
  by_cases new : i = b.server.created
  · -- The name is fresh: nothing has been logged for it.
    subst new
    cases status with
    | waiting none _ =>
      refine ⟨.waiting none fun _ => ?_, whole⟩
      show ((b.server.addSession random).session b.server.created).m_streaming = false
      rw [(Server.addSession_new b.server random).2]
      rfl
    | streaming _ _ member _ => exact absurd member b.server.not_born
    | gone _ _ born => exact absurd born (Nat.lt_irrefl _)
  obtain ⟨clients, session⟩ := Server.addSession_old b.server random new
  cases status with
  | waiting none silent =>
    refine ⟨.waiting none fun member => ?_, whole⟩
    show ((b.server.addSession random).session i).m_streaming = false
    rw [session]
    exact silent (clients.mp member)
  | streaming some going member streams =>
    refine ⟨.streaming some going (clients.mpr member) ?_, whole⟩
    show ((b.server.addSession random).session i).m_streaming = true
    rw [session]
    exact streams
  | gone ended removed born => exact ⟨.gone ended (mt clients.mp removed) (Nat.lt_succ_of_lt born), whole⟩

theorem Follows.context (follows : Follows i b) (ctx : RTPMuxContext) : Follows i { b with ctx } := by
  obtain ⟨status, whole⟩ := follows
  refine ⟨?_, whole⟩
  cases status with
  | waiting none silent => exact .waiting none silent
  | streaming some going member streams => exact .streaming some going member streams
  | gone ended removed born => exact .gone ended removed born

theorem packets_follow (fs : List Bytes) (follows : Follows i b) (ctx : RTPMuxContext) :
    Follows i { b with ctx, log := b.log ++ b.packets fs } := by
  induction fs generalizing b with
  | nil =>
    rw [Broadcast.packets, List.map_nil, List.append_nil]
    exact follows.context ctx
  | cons f fs ih =>
    have one : Follows i ⟨b.server, ctx, b.log ++ [.packet f (b.server.fanOut f)]⟩ :=
      follows.other rfl rfl (handedTo_packet b f) Iff.rfl rfl (Nat.le_refl _)
    have rest := ih one
    rw [List.append_assoc] at rest
    exact rest

theorem visit_follows {reads : Nat → SocketRead} {ids : List Nat} {b' : Broadcast} (distinct : ids.Nodup)
    (clients : ∀ i ∈ ids, i ∈ b.server.m_Clients) (follows : ∀ j, Follows j b) (taken : b.visit reads ids = .ok b') :
    ∀ j, Follows j b' := by
  induction ids generalizing b with
  | nil =>
    obtain rfl := pure_ok taken
    exact follows
  | cons i ids ih =>
    obtain ⟨b1, called, rest⟩ := bind_ok taken
    obtain ⟨first, others⟩ := List.nodup_cons.mp distinct
    have member := clients i List.mem_cons_self
    refine ih others (fun j inside => ?_) (fun j => call_follows (follows j) member called) rest
    obtain ⟨t, -, settled⟩ := bind_ok called
    obtain rfl := pure_ok settled
    have other : j ≠ i := fun same => first (same ▸ inside)
    exact (Server.settle_others b.server t other).1.mpr (clients j (List.mem_cons_of_mem i inside))

theorem step_follows {e : BroadcastEvent} {b' : Broadcast} (follows : ∀ j, Follows j b) (taken : b.step e = .ok b') :
    ∀ j, Follows j b' := by
  cases e with
  | addSession random =>
    obtain rfl := pure_ok taken
    exact fun j => addSession_follows (follows j) random
  | handleRequests reads => exact visit_follows b.server.nodup (fun _ member => member) follows taken
  | rtpSendNALH265 nal last =>
    rw [Broadcast.step] at taken
    split at taken
    · obtain rfl := pure_ok taken
      exact fun j => packets_follow _ (follows j) _
    · cases taken
  | timestamp timestamp =>
    obtain rfl := pure_ok taken
    exact fun j => (follows j).context _

end

/-! ### The numbers of the packets -/

/-- The packets so far are numbered on from `s`, and so will the next one be. -/
def Numbered (s : Nat) (b : Broadcast) : Prop :=
  ∃ ps, (b.log.flatMap Item.rtp).mapM Rtp.parse = some ps ∧
    ps.map (fun p => p.seq.toNat) = (List.range' s ps.length).map (· % 65536) ∧
    b.ctx.seq.toNat % 65536 = (s + ps.length) % 65536

section

variable {b b' : Broadcast} {s i : Nat}

theorem nextSeq_iterate_mod (seq : UInt32) (n s : Nat) (start : seq.toNat % 65536 = s % 65536) :
    (nextSeq^[n] seq).toNat % 65536 = (s + n) % 65536 := by
  induction n with
  | zero => exact start
  | succ n ih =>
    rw [Function.iterate_succ_apply', nextSeq_toNat]
    omega

theorem numbered_packets {ctx : RTPMuxContext} {payloads fs : List Bytes} (numbered : Numbered s b)
    (sent : Sent b.ctx ctx payloads fs) : Numbered s { b with ctx, log := b.log ++ b.packets fs } := by
  obtain ⟨ps, parsed, numbers, next⟩ := numbered
  obtain ⟨qs, parsed', payloads', numbers'⟩ := packetsOf_frames b.ctx.timestamp b.ctx.ssrc payloads next
  rw [← sent.frames] at parsed'
  have count : qs.length = payloads.length := by rw [← payloads', List.length_map]
  have rtps : (b.packets fs).flatMap Item.rtp = fs.map fun f => f.drop 4 := by
    rw [Broadcast.packets, List.flatMap_map]
    exact List.flatMap_pure_eq_map _ fs
  refine ⟨ps ++ qs, ?_, ?_, ?_⟩
  · rw [List.flatMap_append, rtps, List.mapM_append, parsed, List.mapM_map]
    show (packetsOf fs >>= _) = _
    rw [parsed']
    rfl
  · rw [List.map_append, numbers, numbers', ← count, ← List.map_append, List.length_append]
    congr 1
    exact List.range'_append_1
  · rw [sent.seq, List.length_append, ← Nat.add_assoc, count]
    exact nextSeq_iterate_mod _ _ _ next

theorem visit_log {reads : Nat → SocketRead} {ids : List Nat} (taken : b.visit reads ids = .ok b') :
    b'.ctx = b.ctx ∧ ∃ calls, b'.log = b.log ++ calls ∧ ∀ x ∈ calls, ∃ j f g, x = .called j f g := by
  induction ids generalizing b with
  | nil =>
    obtain rfl := pure_ok taken
    exact ⟨rfl, [], (List.append_nil _).symm, fun x member => absurd member List.not_mem_nil⟩
  | cons i ids ih =>
    obtain ⟨b1, called, rest⟩ := bind_ok taken
    obtain ⟨ctx, calls, log, only⟩ := ih rest
    obtain ⟨t, -, settled⟩ := bind_ok called
    obtain rfl := pure_ok settled
    refine ⟨ctx, _ :: calls, by rw [log, List.append_assoc]; rfl, ?_⟩
    exact List.forall_mem_cons.mpr ⟨⟨i, _, _, rfl⟩, only⟩

theorem step_numbered {e : BroadcastEvent} (numbered : Numbered s b) (taken : b.step e = .ok b') : Numbered s b' := by
  cases e with
  | addSession random =>
    obtain rfl := pure_ok taken
    exact numbered
  | handleRequests reads =>
    obtain ⟨ctx, calls, log, only⟩ := visit_log taken
    obtain ⟨ps, parsed, numbers, next⟩ := numbered
    have none : calls.flatMap Item.rtp = [] := by
      rw [List.flatMap_eq_nil_iff]
      intro x member
      obtain ⟨j, f, g, rfl⟩ := only x member
      rfl
    exact ⟨ps, by rw [log, List.flatMap_append, none, List.append_nil]; exact parsed, numbers, by rw [ctx]; exact next⟩
  | rtpSendNALH265 nal last =>
    rw [Broadcast.step] at taken
    split at taken
    · rename_i ctx fs sent
      obtain rfl := pure_ok taken
      obtain ⟨payloads, sent, -⟩ := rtpSendNALH265_inv sent
      exact numbered_packets numbered sent
    · cases taken
  | timestamp timestamp =>
    obtain rfl := pure_ok taken
    exact numbered

theorem numbered_stretch (numbered : Numbered s b) (i : Nat) :
    ∃ ps start, ((stretch i b.log).flatMap Item.rtp).mapM Rtp.parse = some ps ∧
      ps.map (fun p => p.seq.toNat) = (List.range' start ps.length).map (· % 65536) := by
  obtain ⟨ps, parsed, numbers, -⟩ := numbered
  obtain ⟨front, back, whole⟩ : stretch i b.log <:+: b.log :=
    (List.takeWhile_prefix _).isInfix.trans (List.dropWhile_suffix _).isInfix
  rw [← whole, List.flatMap_append, List.flatMap_append, List.mapM_append, List.mapM_append] at parsed
  simp only [Option.bind_eq_bind, Option.pure_def, Option.bind_eq_some_iff, Option.some.injEq] at parsed
  obtain ⟨-, ⟨before, -, middle, parsed, rfl⟩, after, -, rfl⟩ := parsed
  refine ⟨middle, s + before.length, parsed, ?_⟩
  rw [List.length_append, List.length_append, List.map_append, List.map_append, ← List.range'_append_1,
    ← List.range'_append_1, List.map_append, List.map_append] at numbers
  have left := (List.append_inj numbers (by simp)).1
  exact (List.append_inj left (by simp)).2

/-- Over TCP and UDP the sessions are handed the same packet. -/
def Identical (b : Broadcast) : Prop :=
  ∀ cache handed, Item.packet cache handed ∈ b.log → ∀ d ∈ handed,
    d.2 = .tcp cache ∨ ∃ socket port, d.2 = .udp socket port (cache.drop 4)

theorem step_identical {e : BroadcastEvent} (same : Identical b) (taken : b.step e = .ok b') : Identical b' := by
  cases e with
  | addSession random =>
    obtain rfl := pure_ok taken
    exact same
  | handleRequests reads =>
    obtain ⟨-, calls, log, only⟩ := visit_log taken
    intro cache handed member
    rw [log] at member
    rcases List.mem_append.mp member with old | new
    · exact same cache handed old
    · obtain ⟨j, f, g, wrong⟩ := only _ new
      cases wrong
  | rtpSendNALH265 nal last =>
    rw [Broadcast.step] at taken
    split at taken
    · obtain rfl := pure_ok taken
      intro cache handed member
      rcases List.mem_append.mp member with old | new
      · exact same cache handed old
      obtain ⟨f, -, made⟩ := List.mem_map.mp new
      cases made
      intro d inside
      obtain ⟨i, -, rfl⟩ := List.mem_map.mp inside
      dsimp only
      split
      · exact .inl rfl
      · exact .inr ⟨_, _, rfl⟩
    · cases taken
  | timestamp timestamp =>
    obtain rfl := pure_ok taken
    exact same

end

structure Served (s : Nat) (b : Broadcast) : Prop where
  follows : ∀ i, Follows i b
  numbered : Numbered s b
  identical : Identical b

theorem served_start (udp : UdpSockets) (pres stream : Bytes) (ctx : RTPMuxContext) :
    Served ctx.seq.toNat (Broadcast.start udp pres stream ctx) where
  follows _ := ⟨.waiting rfl fun member => absurd member List.not_mem_nil, rfl⟩
  numbered := ⟨[], rfl, rfl, rfl⟩
  identical _ _ member := absurd member List.not_mem_nil

theorem step_served {s : Nat} {b b' : Broadcast} {e : BroadcastEvent} (served : Served s b) (taken : b.step e = .ok b') :
    Served s b' where
  follows := step_follows served.follows taken
  numbered := step_numbered served.numbered taken
  identical := step_identical served.identical taken

/-- In every run each session is handed the packets of its stretch, once each and in order.
Over TCP and UDP these are the same bytes, and they are numbered consecutively. -/
theorem broadcast_gapless {udp : UdpSockets} {pres stream : Bytes} {ctx : RTPMuxContext} {es : List BroadcastEvent}
    {b : Broadcast} (run : Runs.run Broadcast.step es (Broadcast.start udp pres stream ctx) = .ok b) :
    (∀ i, b.log.flatMap (Item.handedTo i) = (stretch i b.log).flatMap Item.rtp) ∧ Identical b ∧
      ∀ i, ∃ ps start, (b.log.flatMap (Item.handedTo i)).mapM Rtp.parse = some ps ∧
        ps.map (fun p => p.seq.toNat) = (List.range' start ps.length).map (· % 65536) := by
  obtain ⟨follows, numbered, identical⟩ := Runs.run_invariant step_served (served_start udp pres stream ctx) run
  refine ⟨fun i => (follows i).handed, identical, fun i => ?_⟩
  rw [(follows i).handed]
  exact numbered_stretch numbered i

/-- A session plays, a unit is sent, and the session is closed. -/
def playAndClose : List BroadcastEvent :=
  [.addSession 5, .handleRequests fun _ => .data playRequest.bytes, .rtpSendNALH265 [0x40, 1, 7] 1,
    .handleRequests fun _ => .closed]

theorem broadcast_gapless_play :
    ∃ b, Runs.run Broadcast.step playAndClose
        (Broadcast.start ⟨fun _ => true, 2, []⟩ (ascii "live") (ascii "1") ⟨.zero _, .zero _, 0, 0, 0, 0, 0, 0⟩) = .ok b ∧
      b.log.length = 3 ∧ (∀ i, b.log.flatMap (Item.handedTo i) = (stretch i b.log).flatMap Item.rtp) ∧ Identical b ∧
        ∀ i, ∃ ps start, (b.log.flatMap (Item.handedTo i)).mapM Rtp.parse = some ps ∧
          ps.map (fun p => p.seq.toNat) = (List.range' start ps.length).map (· % 65536) := by
  have three : (Runs.run Broadcast.step playAndClose (Broadcast.start ⟨fun _ => true, 2, []⟩ (ascii "live") (ascii "1")
      ⟨.zero _, .zero _, 0, 0, 0, 0, 0, 0⟩)).toOption.map (fun b => b.log.length) = some 3 := by decide +kernel
  obtain ⟨b, run, length⟩ := Runs.run_ends three
  exact ⟨b, run, length, broadcast_gapless run⟩

end RtspServer
