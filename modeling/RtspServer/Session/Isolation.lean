import RtspServer.Session.RefCount

/-!
# Sessions side by side

The receive buffer with its position and state belongs to all sessions. What a
session does depends only on its own reads as long as no read puts bytes of this
session behind those of another, or the other way round: then it goes as it
would alone.
-/

namespace RtspServer

def CRtspSession.mask (s : CRtspSession) : CRtspSession := { s with m_RtspSessionID := 0 }

/-- A response without server ports and session id. -/
def Response.mask : Response → Response
  | setup n (.udp rtp rtcp _ _) _ => setup n (.udp rtp rtcp 0 0) 0
  | setup n .tcp _ => setup n .tcp 0
  | play n _ => play n 0
  | x => x

def Entry.view (e : Entry) : CRtspSession × List Response := (e.session.mask, e.sent.map Response.mask)

/-- The calls of session `i` in which something was read or its client was gone. -/
def callsOf (log : List Entry) (i : Nat) : List Entry := log.filter fun e => e.id = i ∧ e.read ≠ .timeout

def received (log : List Entry) (i : Nat) : List SocketRead := (callsOf log i).map Entry.read

def seen (log : List Entry) (i : Nat) : List (CRtspSession × List Response) := (callsOf log i).map Entry.view

def SocketRead.hasBytes : SocketRead → Bool
  | data bytes => bytes ≠ []
  | timeout => false

def lastReader (log : List Entry) : Option Nat := (log.find? fun e => e.read.hasBytes).map Entry.id

/-- A read does not put bytes of session `i` behind those of another session, nor the other way round. -/
def Apart (i : Nat) (h : History) : Event → Prop
  | .read j read => j ∈ h.server.m_Clients → read.hasBytes → ¬ h.server.receiver.Idle →
      (j = i ↔ lastReader h.log = some i)
  | _ => True

instance (i : Nat) (h : History) : ∀ e, Decidable (Apart i h e)
  | .addSession _ => isTrue trivial
  | .read j read => inferInstanceAs (Decidable (j ∈ h.server.m_Clients → read.hasBytes → ¬ h.server.receiver.Idle →
      (j = i ↔ lastReader h.log = some i)))

/-! ### What a call looks at -/

structure SameURI (st st' : CStreamer) : Prop where
  pres : st'.m_URIPresentation = st.m_URIPresentation
  stream : st'.m_URIStream = st.m_URIStream

section

variable {st st' : CStreamer} {s s' : CRtspSession} {r : Receiver}

theorem SameURI.trans {st'' : CStreamer} (h : SameURI st st') (h' : SameURI st' st'') : SameURI st st'' :=
  ⟨h'.pres.trans h.pres, h'.stream.trans h.stream⟩

theorem SameURI.symm (h : SameURI st st') : SameURI st' st := ⟨h.pres.symm, h.stream.symm⟩

theorem bindPair_uri (st : CStreamer) (P : Nat) : SameURI st (st.bindPair P).1 := by
  unfold CStreamer.bindPair
  dsimp only
  split
  · split <;> exact ⟨rfl, rfl⟩
  · exact ⟨rfl, rfl⟩

theorem bindFrom_uri (n : Nat) (st : CStreamer) : SameURI st (CStreamer.bindFrom n st) := by
  induction n generalizing st with
  | zero => exact ⟨rfl, rfl⟩
  | succ n ih =>
    have first := bindPair_uri st (0xFFFE - 2 * (n + 1))
    rw [CStreamer.bindFrom]
    split
    · rename_i bound
      rwa [bound] at first
    · rename_i failed
      rw [failed] at first
      exact first.trans (ih _)

theorem init_uri (st : CStreamer) : SameURI st st.InitUdpTransport := by
  unfold CStreamer.InitUdpTransport
  dsimp only
  split
  · exact ⟨rfl, rfl⟩
  · have bound := bindFrom_uri ((0xFFFE - 6970) / 2) st
    exact ⟨bound.pres, bound.stream⟩

theorem release_uri (st : CStreamer) : SameURI st st.ReleaseUdpTransport := by
  unfold CStreamer.ReleaseUdpTransport
  dsimp only
  split <;> exact ⟨rfl, rfl⟩

/-- The sessions differ in their ids at most. -/
def SameButId (s s' : CRtspSession) : Prop := ∃ id, s' = { s with m_RtspSessionID := id }

theorem SameButId.stopped (same : SameButId s s') : s.m_stopped = s'.m_stopped := by
  obtain ⟨id, rfl⟩ := same
  rfl

theorem SameButId.mask (same : SameButId s s') : s.mask = s'.mask := by
  obtain ⟨id, rfl⟩ := same
  rfl

theorem sameButId_rel : ParserRel SameButId where
  cmd := fun ⟨id, same⟩ => by rw [same]
  init := fun ⟨id, same⟩ => ⟨id, by rw [same]; rfl⟩
  host part := fun ⟨id, same⟩ => ⟨id, by rw [same]⟩
  pres part := fun ⟨id, same⟩ => ⟨id, by rw [same]⟩
  stream part := fun ⟨id, same⟩ => ⟨id, by rw [same]⟩
  cseq n := fun ⟨id, same⟩ => ⟨id, by rw [same]⟩
  length n := fun ⟨id, same⟩ => ⟨id, by rw [same]⟩
  tcp b := fun ⟨id, same⟩ _ => ⟨id, by rw [same]⟩
  port p := fun ⟨id, same⟩ _ => ⟨id, by rw [same]⟩

/-- Alike streamers and sessions, and the same responses but for ports and ids. -/
structure Alike (a b : CStreamer × CRtspSession × List Response) : Prop where
  uri : SameURI a.1 b.1
  session : SameButId a.2.1 b.2.1
  sent : a.2.2.map Response.mask = b.2.2.map Response.mask

theorem Handle_RtspDESCRIBE_alike (uri : SameURI st st') (same : SameButId s s') :
    SameButId (s.Handle_RtspDESCRIBE st).1 (s'.Handle_RtspDESCRIBE st').1 ∧
      (s.Handle_RtspDESCRIBE st).2 = (s'.Handle_RtspDESCRIBE st').2 := by
  obtain ⟨id, rfl⟩ := same
  have stream : ({ s with m_RtspSessionID := id }).requestedStream st' = s.requestedStream st := by
    unfold CRtspSession.requestedStream
    rw [uri.pres, uri.stream]
  unfold CRtspSession.Handle_RtspDESCRIBE
  dsimp only
  rw [stream]
  exact ⟨⟨id, rfl⟩, rfl⟩

theorem InitTransport_alike (uri : SameURI st st') (same : SameButId s s') (rtp rtcp : UInt16) :
    SameURI (s.InitTransport st rtp rtcp).1 (s'.InitTransport st' rtp rtcp).1 ∧
      SameButId (s.InitTransport st rtp rtcp).2 (s'.InitTransport st' rtp rtcp).2 := by
  obtain ⟨id, rfl⟩ := same
  refine ⟨?_, ⟨id, rfl⟩⟩
  unfold CRtspSession.InitTransport
  dsimp only
  by_cases tcp : s.m_TcpTransport = true
  · rw [if_pos tcp, if_pos tcp]
    exact uri
  · rw [if_neg tcp, if_neg tcp]
    exact (init_uri st).symm.trans (uri.trans (init_uri st'))

theorem Handle_RtspSETUP_alike (uri : SameURI st st') (same : SameButId s s') :
    Alike (s.Handle_RtspSETUP st) (s'.Handle_RtspSETUP st') := by
  have rtp : s'.m_ClientRTPPort = s.m_ClientRTPPort := by obtain ⟨id, rfl⟩ := same; rfl
  have rtcp : s'.m_ClientRTCPPort = s.m_ClientRTCPPort := by obtain ⟨id, rfl⟩ := same; rfl
  have init := InitTransport_alike uri same s.m_ClientRTPPort s.m_ClientRTCPPort
  unfold CRtspSession.Handle_RtspSETUP
  rw [rtp, rtcp]
  generalize s.InitTransport st s.m_ClientRTPPort s.m_ClientRTCPPort = first at init ⊢
  generalize s'.InitTransport st' s.m_ClientRTPPort s.m_ClientRTCPPort = second at init ⊢
  obtain ⟨st1, s1⟩ := first
  obtain ⟨st2, s2⟩ := second
  obtain ⟨uri', id, equal⟩ := init
  dsimp only at uri' equal
  subst equal
  refine ⟨uri', ⟨id, rfl⟩, ?_⟩
  dsimp only
  by_cases tcp : s1.m_TcpTransport = true
  · rw [if_pos tcp, if_pos tcp]
    rfl
  · rw [if_neg tcp, if_neg tcp]
    rfl

theorem dispatch_alike (uri : SameURI st st') (same : SameButId s s') : Alike (s.dispatch st) (s'.dispatch st') := by
  unfold CRtspSession.dispatch
  rw [← sameButId_rel.cmd same]
  cases s.m_RtspCmdType with
  | RTSP_DESCRIBE =>
    obtain ⟨session, sent⟩ := Handle_RtspDESCRIBE_alike uri same
    exact ⟨uri, session, congrArg (List.map Response.mask) sent⟩
  | RTSP_SETUP => exact Handle_RtspSETUP_alike uri same
  | RTSP_OPTIONS =>
    obtain ⟨id, rfl⟩ := same
    exact ⟨uri, ⟨id, rfl⟩, rfl⟩
  | RTSP_PLAY =>
    obtain ⟨id, rfl⟩ := same
    exact ⟨uri, ⟨id, rfl⟩, rfl⟩
  | RTSP_TEARDOWN => exact ⟨uri, same, rfl⟩
  | RTSP_UNKNOWN => exact ⟨uri, same, rfl⟩

theorem Handle_RtspRequest_alike (uri : SameURI st st') (same : SameButId s s') (aRequest : Bytes) (size : Nat) :
    Run.Rel Alike (s.Handle_RtspRequest st aRequest size) (s'.Handle_RtspRequest st' aRequest size) := by
  unfold CRtspSession.Handle_RtspRequest
  apply Run.Rel.bind (ParseRtspRequest_rel sameButId_rel same aRequest size)
  intro a b related
  obtain ⟨s1, accepted⟩ := a
  obtain ⟨s1', accepted'⟩ := b
  obtain ⟨same, verdict⟩ := related
  dsimp only at same verdict
  subst verdict
  cases accepted with
  | true => exact dispatch_alike uri same
  | false => exact ⟨uri, same, rfl⟩

/-- Calls that leave the same behind, but for ports and ids. -/
structure TurnAlike (t t' : Turn) : Prop where
  uri : SameURI t.streamer t'.streamer
  session : SameButId t.session t'.session
  receiver : t.receiver = t'.receiver
  sent : t.sent.map Response.mask = t'.sent.map Response.mask

theorem markCommand_alike (same : SameButId s s') : SameButId s.markCommand s'.markCommand := by
  unfold CRtspSession.markCommand
  rw [← sameButId_rel.cmd same]
  cases s.m_RtspCmdType <;> (obtain ⟨id, rfl⟩ := same; exact ⟨id, rfl⟩)

theorem answer_alike (uri : SameURI st st') (same : SameButId s s') (r : Receiver) (res : Nat) :
    Run.Rel TurnAlike (answer st s r res) (answer st' s' r res) := by
  unfold answer
  split
  · exact ⟨uri, same, rfl, rfl⟩
  split
  · have cseq : s'.m_CSeq = s.m_CSeq := by
      obtain ⟨id, rfl⟩ := same
      rfl
    rw [cseq]
    exact ⟨uri, same, rfl, rfl⟩
  · apply Run.Rel.bind (Handle_RtspRequest_alike uri same _ _)
    intro a b alike
    exact ⟨alike.uri, markCommand_alike alike.session, rfl, alike.sent⟩

theorem findMethod_alike (same : SameButId s s') (r : Receiver) :
    SameButId (findMethod s r).1 (findMethod s' r).1 ∧ (findMethod s r).2 = (findMethod s' r).2 := by
  obtain ⟨id, rfl⟩ := same
  unfold findMethod
  split <;> exact ⟨⟨id, rfl⟩, rfl⟩

/-- A call looks at the buffer after its reset, the stream served and the session but its id. -/
theorem handleRequests_alike {r r' : Receiver} (uri : SameURI st st') (same : SameButId s s')
    (live : s.m_stopped = false) (buffer : r.refresh = r'.refresh) (read : SocketRead) :
    Run.Rel TurnAlike (s.handleRequests st r read) (s'.handleRequests st' r' read) := by
  have live' : s'.m_stopped = false := same.stopped.symm.trans live
  unfold CRtspSession.handleRequests
  rw [live, live', buffer, if_neg Bool.false_ne_true, if_neg Bool.false_ne_true]
  cases read with
  | timeout => exact ⟨uri, same, rfl, rfl⟩
  | data bytes =>
    dsimp only
    split
    · obtain ⟨id, rfl⟩ := same
      exact ⟨uri, ⟨id, rfl⟩, rfl, rfl⟩
    split
    · obtain ⟨session, receiver⟩ := findMethod_alike same (r'.refresh.append bytes ‹_›)
      rw [receiver]
      exact answer_alike uri session _ _
    · rfl

end

/-! ### A session on its own -/

/-- The calls of the only session of a server, with what is seen of them. The newest read and call come first. -/
def alone (st : CStreamer) : List SocketRead → Run (Conn × List (CRtspSession × List Response))
  | [] => return (⟨st, CRtspSession.create 0, Receiver.empty⟩, [])
  | read :: earlier => do
    let (c, views) ← alone st earlier
    let t ← c.read read
    return (t.conn, (t.session.mask, t.sent.map Response.mask) :: views)

/-- The buffer `own` of session `i` alone, when all sessions together have `shared` and
`last` was the last to put bytes there. -/
def Synced (i : Nat) (shared : Receiver) (last : Option Nat) (own : Receiver) : Prop :=
  if ¬ shared.Idle ∧ last = some i then own = shared else own.Idle

/-- Session `i` goes as it would alone. -/
structure GoesAlone (st : CStreamer) (i : Nat) (h : History) (c : Conn) : Prop where
  run : alone st (received h.log i) = .ok (c, seen h.log i)
  uri : SameURI st c.streamer
  gone : i ∉ h.server.m_Clients → c.session.m_stopped = true
  session : i ∈ h.server.m_Clients → SameButId c.session (h.server.session i)
  synced : i ∈ h.server.m_Clients → Synced i h.server.receiver (lastReader h.log) c.receiver

structure Isolated (st : CStreamer) (i : Nat) (h : History) : Prop where
  uri : SameURI st h.server.streamer
  named : h.Named
  alone : i < h.server.created → ∃ c, GoesAlone st i h c

section

variable {st : CStreamer} {x y : History} {e : Event} {i j : Nat} {read : SocketRead} {t : Turn} {c : Conn}
  {shared own : Receiver} {last : Option Nat}

theorem alone_cons {reads : List SocketRead} {views : List (CRtspSession × List Response)}
    (h : alone st reads = .ok (c, views)) (turn : c.read read = .ok t) :
    alone st (read :: reads) = .ok (t.conn, (t.session.mask, t.sent.map Response.mask) :: views) := by
  rw [alone, h]
  show c.read read >>= _ = _
  rw [turn]
  rfl

theorem refresh_eq (shared : Receiver) : shared.refresh = if shared.Idle then Receiver.empty else shared := rfl

theorem Synced.refresh (synced : Synced i shared last own) : Synced i shared.refresh last own := by
  unfold Synced at synced ⊢
  rw [refresh_eq]
  by_cases idle : shared.Idle
  · rw [if_neg (fun both => both.1 idle)] at synced
    rw [if_pos idle, if_neg (fun both => both.1 (.inl rfl))]
    exact synced
  · rw [if_neg idle]
    exact synced

/-- What `i` reads into is what it would read into alone, if it was the last to put bytes there. -/
theorem Synced.refresh_eq (synced : Synced i shared last own) (last_own : ¬ shared.Idle → last = some i) :
    own.refresh = shared.refresh := by
  unfold Synced at synced
  by_cases idle : shared.Idle
  · rw [if_neg (fun both => both.1 idle)] at synced
    rw [refresh_idle synced, refresh_idle idle]
  · rw [if_pos ⟨idle, last_own idle⟩] at synced
    rw [synced]

theorem callsOf_cons_other {s : CRtspSession} {sent : List Response} {log : List Entry}
    (other : j ≠ i ∨ read = .timeout) : callsOf (⟨j, read, s, sent⟩ :: log) i = callsOf log i := by
  unfold callsOf
  rw [List.filter_cons_of_neg]
  rcases other with distinct | timeout
  · simp [distinct]
  · simp [timeout]

theorem callsOf_cons_own {s : CRtspSession} {sent : List Response} {log : List Entry} (some : read ≠ .timeout) :
    callsOf (⟨i, read, s, sent⟩ :: log) i = ⟨i, read, s, sent⟩ :: callsOf log i := by
  unfold callsOf
  rw [List.filter_cons_of_pos (by simpa using some)]

theorem lastReader_cons {s : CRtspSession} {sent : List Response} {log : List Entry} :
    lastReader (⟨j, read, s, sent⟩ :: log) = if read.hasBytes then some j else lastReader log := by
  unfold lastReader
  rw [List.find?_cons]
  cases read.hasBytes <;> rfl

theorem turn_uri (member : j ∈ x.server.m_Clients) (turn : x.server.turn j read = .ok t) :
    SameURI x.server.streamer t.streamer := by
  rcases turn_udp member turn with ⟨-, opened, -⟩ | ⟨-, kept⟩
  · rw [opened]
    exact init_uri _
  · rw [kept]
    exact ⟨rfl, rfl⟩

theorem settle_uri (member : j ∈ x.server.m_Clients) (turn : x.server.turn j read = .ok t) :
    SameURI x.server.streamer (x.server.settle j t).streamer := by
  have kept := turn_uri member turn
  unfold Server.settle
  split
  · exact kept.trans (release_uri _)
  · exact kept

theorem goesAlone_new (random : Nat) (named : x.Named) :
    GoesAlone st x.server.created ⟨x.server.addSession random, x.log⟩
      ⟨st, CRtspSession.create 0, Receiver.empty⟩ := by
  have none : callsOf x.log x.server.created = [] := by
    unfold callsOf
    rw [List.filter_eq_nil_iff]
    intro e member
    have old := named e member
    simp [Nat.ne_of_lt old]
  have unread : lastReader x.log ≠ some x.server.created := by
    intro reader
    obtain ⟨e, found, same⟩ := Option.map_eq_some_iff.mp reader
    have old := named e (List.mem_of_find?_eq_some found)
    omega
  constructor
  · show alone st (received x.log x.server.created) = .ok (_, seen x.log x.server.created)
    unfold received seen
    rw [none]
    rfl
  · exact ⟨rfl, rfl⟩
  · intro gone
    exact absurd (List.mem_append_right _ (List.mem_singleton_self _)) gone
  · intro _
    show SameButId _ (Function.update x.server.session x.server.created (CRtspSession.create random) x.server.created)
    rw [Function.update_self]
    exact ⟨_, rfl⟩
  · intro _
    unfold Synced
    rw [if_neg (fun both => unread both.2)]
    exact .inl rfl

theorem goesAlone_other (goes : GoesAlone st i x c) (other : j ≠ i) (apart : Apart i x (.read j read))
    (member : j ∈ x.server.m_Clients) (turn : x.server.turn j read = .ok t) :
    GoesAlone st i ⟨x.server.settle j t, ⟨j, read, t.session, t.sent⟩ :: x.log⟩ c := by
  have others := Server.settle_others x.server t (Ne.symm other)
  have calls : callsOf (⟨j, read, t.session, t.sent⟩ :: x.log) i = callsOf x.log i := callsOf_cons_other (.inl other)
  constructor
  · show alone st (received _ i) = .ok (c, seen _ i)
    unfold received seen
    rw [calls]
    exact goes.run
  · exact goes.uri
  · exact fun gone => goes.gone fun inside => gone (others.1.mpr inside)
  · intro inside
    show SameButId c.session ((x.server.settle j t).session i)
    rw [others.2]
    exact goes.session (others.1.mp inside)
  · intro inside
    have synced := goes.synced (others.1.mp inside)
    show Synced i (x.server.settle j t).receiver (lastReader _) c.receiver
    rw [Server.settle_receiver, lastReader_cons]
    by_cases bytes : read.hasBytes = true
    · -- The bytes went behind those of a session other than `i`.
      unfold Synced at synced ⊢
      rw [if_pos bytes, if_neg (fun both => other (Option.some.inj both.2))]
      rwa [if_neg] at synced
      exact fun both => other ((apart member bytes both.1).mpr both.2)
    · rw [if_neg bytes]
      have kept : t.receiver = x.server.receiver.refresh := by
        rcases handleRequests_cases (x.server.live j member) turn with ⟨-, rfl⟩ | ⟨-, rfl⟩ | ⟨data, -, rfl, nonempty, -⟩
        · rfl
        · rfl
        · exact absurd (by simpa [SocketRead.hasBytes] using nonempty) bytes
      rw [kept]
      exact synced.refresh

theorem goesAlone_timeout (goes : GoesAlone st i x c) (member : i ∈ x.server.m_Clients) :
    let t : Turn := ⟨x.server.streamer, x.server.session i, x.server.receiver.refresh, [], false⟩
    GoesAlone st i ⟨x.server.settle i t, ⟨i, .timeout, t.session, t.sent⟩ :: x.log⟩ c := by
  intro t
  have going : t.session.m_stopped = false := x.server.live i member
  obtain ⟨-, clients, sessions⟩ := Server.settle_going x.server i going
  refine ⟨?_, goes.uri, ?_, ?_, ?_⟩
  · show alone st (received _ i) = .ok (c, seen _ i)
    unfold received seen
    rw [callsOf_cons_other (.inr rfl)]
    exact goes.run
  · intro gone
    dsimp only at gone
    rw [clients] at gone
    exact absurd member gone
  · intro _
    dsimp only
    rw [sessions, Function.update_self]
    exact goes.session member
  · intro _
    dsimp only
    rw [Server.settle_receiver, lastReader_cons]
    exact (goes.synced member).refresh

theorem goesAlone_closed (goes : GoesAlone st i x c) (member : i ∈ x.server.m_Clients) :
    let t : Turn := ⟨x.server.streamer, { x.server.session i with m_stopped := true }, x.server.receiver.refresh, [], true⟩
    ∃ c', GoesAlone st i ⟨x.server.settle i t, ⟨i, .closed, t.session, t.sent⟩ :: x.log⟩ c' := by
  intro t
  have same := goes.session member
  have live : c.session.m_stopped = false := same.stopped.trans (x.server.live i member)
  have stopped : t.session.m_stopped = true := rfl
  obtain ⟨-, clients, -⟩ := Server.settle_stopped x.server i stopped
  have gone : i ∉ x.server.m_Clients.erase i := x.server.nodup.not_mem_erase
  have closed : c.read .closed =
      .ok ⟨c.streamer, { c.session with m_stopped := true }, c.receiver.refresh, [], true⟩ := by
    unfold Conn.read CRtspSession.handleRequests
    rw [live]
    rfl
  refine ⟨⟨c.streamer, { c.session with m_stopped := true }, c.receiver.refresh⟩, ?_, goes.uri, ?_, ?_, ?_⟩
  · show alone st (received _ i) = .ok (_, seen _ i)
    unfold received seen
    rw [callsOf_cons_own (show SocketRead.closed ≠ .timeout by decide), List.map_cons, List.map_cons]
    have next := alone_cons goes.run closed
    obtain ⟨id, equal⟩ := same
    unfold Entry.view
    dsimp only [t]
    rw [equal]
    exact next
  · exact fun _ => rfl
  · intro inside
    dsimp only at inside
    rw [clients] at inside
    exact absurd inside gone
  · intro inside
    dsimp only at inside
    rw [clients] at inside
    exact absurd inside gone

theorem goesAlone_silent (goes : GoesAlone st i x c) (member : i ∈ x.server.m_Clients)
    (turn : x.server.turn i read = .ok t) (silent : read.hasBytes = false) :
    ∃ c', GoesAlone st i ⟨x.server.settle i t, ⟨i, read, t.session, t.sent⟩ :: x.log⟩ c' := by
  rcases handleRequests_cases (x.server.live i member) turn with ⟨rfl, rfl⟩ | ⟨rfl, rfl⟩ | ⟨data, -, rfl, nonempty, -⟩
  · exact ⟨c, goesAlone_timeout goes member⟩
  · exact goesAlone_closed goes member
  · exact absurd silent (by simpa [SocketRead.hasBytes] using nonempty)

theorem goesAlone_own (goes : GoesAlone st i x c) (uri : SameURI st x.server.streamer)
    (apart : Apart i x (.read i read)) (member : i ∈ x.server.m_Clients) (turn : x.server.turn i read = .ok t)
    (bytes : read.hasBytes = true) :
    ∃ c', GoesAlone st i ⟨x.server.settle i t, ⟨i, read, t.session, t.sent⟩ :: x.log⟩ c' := by
  have same := goes.session member
  have live : c.session.m_stopped = false := same.stopped.trans (x.server.live i member)
  have buffer := (goes.synced member).refresh_eq fun busy => (apart member bytes busy).mp rfl
  have alike := handleRequests_alike (goes.uri.symm.trans uri) same live buffer read
  have turn' : (x.server.session i).handleRequests x.server.streamer x.server.receiver read = .ok t := turn
  rw [turn'] at alike
  cases own : c.read read with
  | error fault =>
    unfold Conn.read at own
    rw [own] at alike
    exact alike.elim
  | ok t' =>
    have own' := own
    unfold Conn.read at own'
    rw [own'] at alike
    have view : (t'.session.mask, t'.sent.map Response.mask) = (t.session.mask, t.sent.map Response.mask) := by
      rw [alike.session.mask, alike.sent]
    have some : read ≠ .timeout := by
      intro timeout
      rw [timeout] at bytes
      exact Bool.false_ne_true bytes
    have stops := alike.session.stopped
    have uri' : SameURI st t'.streamer := (uri.trans (turn_uri member turn)).trans alike.uri.symm
    refine ⟨t'.conn, ?_, uri', ?_, ?_, ?_⟩
    · show alone st (received _ i) = .ok (_, seen _ i)
      unfold received seen
      rw [callsOf_cons_own some, List.map_cons, List.map_cons]
      have next := alone_cons goes.run own
      rw [view] at next
      exact next
    · intro gone
      show t'.session.m_stopped = true
      by_contra going
      rw [stops] at going
      exact gone ((Server.settle_self x.server i member t).1.mpr (by simpa using going))
    · intro inside
      obtain ⟨client, kept⟩ := Server.settle_self x.server i member t
      show SameButId t'.session ((x.server.settle i t).session i)
      rw [kept (client.mp inside)]
      exact alike.session
    · intro _
      show Synced i (x.server.settle i t).receiver (lastReader _) t'.receiver
      rw [Server.settle_receiver, lastReader_cons, if_pos bytes, alike.receiver]
      unfold Synced
      by_cases idle : t.receiver.Idle
      · rw [if_neg (fun both => both.1 idle)]
        exact idle
      · rw [if_pos ⟨idle, rfl⟩]

theorem isolated_step (isolated : Isolated st i x) (apart : Apart i x e) (taken : x.step e = .ok y) :
    Isolated st i y := by
  have named := named_step isolated.named taken
  rcases History.step_cases taken with ⟨random, rfl, rfl⟩ | ⟨j, read, rfl, -, rfl⟩ |
    ⟨j, read, t, rfl, member, turn, rfl⟩
  · refine ⟨isolated.uri, named, ?_⟩
    intro born
    by_cases new : i = x.server.created
    · rw [new]
      exact ⟨_, goesAlone_new random isolated.named⟩
    have old := x.server.addSession_old random new
    obtain ⟨c, goes⟩ := isolated.alone (Nat.lt_of_le_of_ne (Nat.le_of_lt_succ born) new)
    refine ⟨c, goes.run, goes.uri, fun gone => goes.gone fun inside => gone (old.1.mpr inside), ?_,
      fun inside => goes.synced (old.1.mp inside)⟩
    intro inside
    dsimp only at inside ⊢
    rw [old.2]
    exact goes.session (old.1.mp inside)
  · exact isolated
  · refine ⟨isolated.uri.trans (settle_uri member turn), named, ?_⟩
    intro born
    have created : (x.server.settle j t).created = x.server.created := Server.settle_created x.server j
    obtain ⟨c, goes⟩ := isolated.alone (by rw [← created]; exact born)
    by_cases own : j = i
    · subst own
      cases bytes : read.hasBytes with
      | true => exact goesAlone_own goes isolated.uri apart member turn bytes
      | false => exact goesAlone_silent goes member turn bytes
    · exact ⟨c, goesAlone_other goes own apart member turn⟩

end

/-- In runs in which its bytes come to no other session's, nor the other way round, what a
session does and what is sent to it depend only on what it reads. -/
theorem isolated_of_apart (udp₁ udp₂ : UdpSockets) (pres stream : Bytes) (events₁ events₂ : List Event) (i₁ i₂ : Nat)
    (h₁ h₂ : History)
    (run₁ : Runs.run History.step events₁ (History.start udp₁ pres stream) = .ok h₁)
    (run₂ : Runs.run History.step events₂ (History.start udp₂ pres stream) = .ok h₂)
    (apart₁ : Runs.EachStep History.step (Apart i₁) events₁ (History.start udp₁ pres stream))
    (apart₂ : Runs.EachStep History.step (Apart i₂) events₂ (History.start udp₂ pres stream))
    (born₁ : i₁ < h₁.server.created) (born₂ : i₂ < h₂.server.created) (same : received h₁.log i₁ = received h₂.log i₂) :
    seen h₁.log i₁ = seen h₂.log i₂ ∧ (i₁ ∈ h₁.server.m_Clients ↔ i₂ ∈ h₂.server.m_Clients) ∧
      (i₁ ∈ h₁.server.m_Clients → (h₁.server.session i₁).mask = (h₂.server.session i₂).mask) := by
  have start : ∀ udp i, Isolated ((CStreamer.create udp₁).setURI pres stream) i
      (History.start udp pres stream) := fun udp i =>
    ⟨⟨rfl, rfl⟩, fun e member => absurd member List.not_mem_nil, fun born => absurd born (Nat.not_lt_zero i)⟩
  have isolated₁ := Runs.run_keeps (E := fun _ => True) (fun _ => isolated_step) (fun _ _ => trivial) (start udp₁ i₁)
    apart₁ run₁
  have isolated₂ := Runs.run_keeps (E := fun _ => True) (fun _ => isolated_step) (fun _ _ => trivial) (start udp₂ i₂)
    apart₂ run₂
  obtain ⟨c₁, goes₁⟩ := isolated₁.alone born₁
  obtain ⟨c₂, goes₂⟩ := isolated₂.alone born₂
  have runs := goes₁.run
  rw [same, goes₂.run] at runs
  obtain ⟨rfl, views⟩ := Prod.mk.inj (Except.ok.inj runs)
  have going : ∀ {h : History} {i : Nat}, GoesAlone ((CStreamer.create udp₁).setURI pres stream) i h c₂ →
      (i ∈ h.server.m_Clients ↔ c₂.session.m_stopped = false) := by
    intro h i goes
    constructor
    · exact fun member => (goes.session member).stopped.trans (h.server.live i member)
    · intro live
      by_contra gone
      rw [goes.gone gone] at live
      cases live
  refine ⟨views.symm, (going goes₁).trans (going goes₂).symm, ?_⟩
  intro member
  rw [← (goes₁.session member).mask]
  exact (goes₂.session ((going goes₂).mpr ((going goes₁).mp member))).mask

/-- The other session is answered in between, and leaves. -/
theorem isolated_of_apart_between :
    let start := History.start ⟨fun _ => true, 2, []⟩ (ascii "live") (ascii "1")
    let first := SocketRead.data (optionRequest.bytes.take 31)
    let second := SocketRead.data (optionRequest.bytes.drop 31)
    let unknown := SocketRead.data unknownRequest.bytes
    let events₁ := [Event.addSession 5, .addSession 6, .read 0 (.data optionRequest.bytes), .read 1 unknown,
      .read 0 (.data optionRequest.bytes), .read 1 first, .read 1 second, .read 0 (.data teardownRequest.bytes), .read 1 unknown]
    let events₂ := [Event.addSession 7, .read 0 unknown, .read 0 first, .read 0 second, .read 0 unknown]
    (Runs.EachStep History.step (Apart 1) events₁ start ∧ Runs.EachStep History.step (Apart 0) events₂ start) ∧
      ∃ h₁ h₂, Runs.run History.step events₁ start = .ok h₁ ∧ Runs.run History.step events₂ start = .ok h₂ ∧
        (received h₁.log 0).length = 3 ∧ received h₁.log 1 = received h₂.log 0 ∧ seen h₁.log 1 = seen h₂.log 0 := by
  intro start first second unknown events₁ events₂
  have apart₁ : Runs.EachStep History.step (Apart 1) events₁ start := by decide +kernel
  have apart₂ : Runs.EachStep History.step (Apart 0) events₂ start := by decide +kernel
  have facts₁ : (Runs.run History.step events₁ start).toOption.map
      (fun h => (h.server.created, (received h.log 0).length, received h.log 1)) =
        some (2, 3, [unknown, second, first, unknown]) := by decide +kernel
  have facts₂ : (Runs.run History.step events₂ start).toOption.map
      (fun h => (h.server.created, received h.log 0)) = some (1, [unknown, second, first, unknown]) := by decide +kernel
  obtain ⟨h₁, run₁, same₁⟩ := Runs.run_ends facts₁
  obtain ⟨h₂, run₂, same₂⟩ := Runs.run_ends facts₂
  obtain ⟨created₁, rest₁⟩ := Prod.mk.inj same₁
  obtain ⟨others, received₁⟩ := Prod.mk.inj rest₁
  obtain ⟨created₂, received₂⟩ := Prod.mk.inj same₂
  have same : received h₁.log 1 = received h₂.log 0 := received₁.trans received₂.symm
  exact ⟨⟨apart₁, apart₂⟩, h₁, h₂, run₁, run₂, others, same,
    (isolated_of_apart _ _ _ _ events₁ events₂ 1 0 h₁ h₂ run₁ run₂ apart₁ apart₂ (by omega) (by omega) same).1⟩

/-- The request line that session 1 has sent so far is put in front of the request of session 0. -/
theorem not_isolated_half :
    let start := History.start ⟨fun _ => true, 2, []⟩ (ascii "live") (ascii "1")
    let half := ascii "SETUP rtsp://h/p/s RTSP/1.0" ++ CRLF
    ∃ h₁ h₂,
      Runs.run History.step [.addSession 5, .addSession 6, .read 0 (.data optionRequest.bytes)] start = .ok h₁ ∧
      Runs.run History.step [.addSession 5, .addSession 6, .read 1 (.data half), .read 0 (.data optionRequest.bytes)]
        start = .ok h₂ ∧
      received h₁.log 0 = received h₂.log 0 ∧ (seen h₁.log 0).map Prod.snd = [[.option 2]] ∧
      (seen h₂.log 0).map Prod.snd = [[]] ∧ seen h₁.log 0 ≠ seen h₂.log 0 := by
  intro start half
  have facts₁ : (Runs.run History.step [.addSession 5, .addSession 6, .read 0 (.data optionRequest.bytes)]
      start).toOption.map (fun h => (received h.log 0, (seen h.log 0).map Prod.snd)) =
        some ([.data optionRequest.bytes], [[.option 2]]) := by decide +kernel
  have facts₂ : (Runs.run History.step [.addSession 5, .addSession 6, .read 1 (.data half),
      .read 0 (.data optionRequest.bytes)] start).toOption.map
        (fun h => (received h.log 0, (seen h.log 0).map Prod.snd)) =
        some ([.data optionRequest.bytes], [[]]) := by decide +kernel
  obtain ⟨h₁, run₁, same₁⟩ := Runs.run_ends facts₁
  obtain ⟨h₂, run₂, same₂⟩ := Runs.run_ends facts₂
  obtain ⟨received₁, seen₁⟩ := Prod.mk.inj same₁
  obtain ⟨received₂, seen₂⟩ := Prod.mk.inj same₂
  refine ⟨h₁, h₂, run₁, run₂, received₁.trans received₂.symm, seen₁, seen₂, ?_⟩
  intro same
  rw [same, seen₂] at seen₁
  cases seen₁

end RtspServer
