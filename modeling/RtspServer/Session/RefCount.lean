import RtspServer.Session.Server
import RtspServer.Session.ParserRelation

/-!
# The count of UDP transports

`m_udpRefCount` goes up with each accepted UDP SETUP and down with each session
that is deleted. It is the number of sessions with UDP transport exactly as long
as every session sets up UDP once before it is deleted.
-/

namespace RtspServer

def Response.isUdpSetup : Response → Bool
  | setup _ (.udp ..) _ => true
  | _ => false

/-- A UDP SETUP of session `i` was accepted. -/
def SetUpUdp (log : List Entry) (i : Nat) : Prop := ∃ e ∈ log, e.id = i ∧ e.sent.any Response.isUdpSetup

instance (log : List Entry) (i : Nat) : Decidable (SetUpUdp log i) :=
  inferInstanceAs (Decidable (∃ e ∈ log, e.id = i ∧ e.sent.any Response.isUdpSetup))

/-- The sessions of `ids` that have set up UDP transport. -/
def udpSessions (ids : List Nat) (log : List Entry) : List Nat := ids.filter (SetUpUdp log)

/-- The sockets are open and the server ports set if `p` holds, and else neither. -/
structure OpenIff (st : CStreamer) (p : Prop) : Prop where
  rtp : st.m_RtpSocket ≠ NULLSOCKET ↔ p
  rtcp : st.m_RtcpSocket ≠ NULLSOCKET ↔ p
  rtpPort : st.m_RtpServerPort ≠ 0 ↔ p
  rtcpPort : st.m_RtcpServerPort ≠ 0 ↔ p

structure UdpCounted (h : History) : Prop where
  opened : OpenIff h.server.streamer (∃ i ∈ h.server.m_Clients, SetUpUdp h.log i)
  count : h.server.streamer.m_udpRefCount = (udpSessions h.server.m_Clients h.log).length

/-- A UDP SETUP is accepted from a session without UDP transport only, and a session is
deleted only with it. -/
def PairsUdp (h : History) : Event → Prop
  | .addSession _ => True
  | .read i read => i ∈ h.server.m_Clients → ∀ t, h.server.turn i read = .ok t →
      (t.sent.any Response.isUdpSetup → ¬ SetUpUdp h.log i) ∧ (t.session.m_stopped → SetUpUdp h.log i)

def CStreamer.Binds (st : CStreamer) : Prop := ∀ port, st.udp.bindable port = true

/-! ### The streamer -/

section

variable {st : CStreamer} {p q : Prop}

theorem OpenIff.congr (opened : OpenIff st p) (same : p ↔ q) : OpenIff st q :=
  ⟨opened.rtp.trans same, opened.rtcp.trans same, opened.rtpPort.trans same, opened.rtcpPort.trans same⟩

theorem bindFrom_first (binds : st.Binds) : CStreamer.bindFrom ((0xFFFE - 6970) / 2) st =
    { st with
      m_RtpSocket := st.udp.next + 1, m_RtcpSocket := st.udp.next + 2
      m_RtpServerPort := 6970, m_RtcpServerPort := 6971
      udp := { st.udp with next := st.udp.next + 2 } } := by
  have bound : st.bindPair 6970 = ({ st with
      m_RtpSocket := st.udp.next + 1, m_RtcpSocket := st.udp.next + 2
      m_RtpServerPort := 6970, m_RtcpServerPort := 6971
      udp := { st.udp with next := st.udp.next + 2 } }, true) := by
    unfold CStreamer.bindPair UdpSockets.udpsocketcreate
    simp only [binds 6970, if_true, ne_eq, Nat.add_one_ne_zero, not_false_eq_true, NULLSOCKET, binds (6970 + 1)]
    rfl
  show CStreamer.bindFrom (29281 + 1) st = _
  rw [CStreamer.bindFrom, show 0xFFFE - 2 * (29281 + 1) = 6970 from rfl, bound]

theorem init_binds (binds : st.Binds) : st.InitUdpTransport.Binds := by
  intro port
  unfold CStreamer.InitUdpTransport
  by_cases zero : st.m_udpRefCount ≠ 0
  · simp only [if_pos zero]
    exact binds port
  · simp only [if_neg zero, bindFrom_first binds]
    exact binds port

theorem release_binds (binds : st.Binds) : st.ReleaseUdpTransport.Binds := by
  intro port
  unfold CStreamer.ReleaseUdpTransport
  dsimp only
  split
  · exact binds port
  · exact binds port

theorem init_count (binds : st.Binds) : st.InitUdpTransport.m_udpRefCount = st.m_udpRefCount + 1 := by
  unfold CStreamer.InitUdpTransport
  by_cases zero : st.m_udpRefCount ≠ 0
  · simp only [if_pos zero]
  · simp only [if_neg zero, bindFrom_first binds]

theorem release_count : st.ReleaseUdpTransport.m_udpRefCount = st.m_udpRefCount - 1 := by
  unfold CStreamer.ReleaseUdpTransport
  dsimp only
  split <;> rfl

theorem init_open (binds : st.Binds) (opened : OpenIff st (st.m_udpRefCount ≠ 0)) : OpenIff st.InitUdpTransport True := by
  unfold CStreamer.InitUdpTransport
  by_cases zero : st.m_udpRefCount ≠ 0
  · simp only [if_pos zero]
    have all := opened.congr (iff_true_intro zero)
    exact ⟨all.rtp, all.rtcp, all.rtpPort, all.rtcpPort⟩
  · simp only [if_neg zero, bindFrom_first binds]
    exact ⟨by simp [NULLSOCKET], by simp [NULLSOCKET], by simp, by simp⟩

theorem release_open (opened : OpenIff st True) :
    OpenIff st.ReleaseUdpTransport (st.m_udpRefCount - 1 ≠ 0) := by
  unfold CStreamer.ReleaseUdpTransport
  dsimp only
  by_cases last : st.m_udpRefCount - 1 = 0
  · rw [if_pos last]
    exact ⟨by simp [last], by simp [last], by simp [last], by simp [last]⟩
  · rw [if_neg last]
    have all := opened.congr (iff_true_intro last).symm
    exact ⟨all.rtp, all.rtcp, all.rtpPort, all.rtcpPort⟩

end

/-! ### A call -/

theorem dispatch_udp (st : CStreamer) (s : CRtspSession) :
    ((s.dispatch st).2.2.any Response.isUdpSetup = true ∧ (s.dispatch st).1 = st.InitUdpTransport ∧
        s.m_RtspCmdType = .RTSP_SETUP) ∨
      ((s.dispatch st).2.2.any Response.isUdpSetup = false ∧ (s.dispatch st).1 = st) := by
  unfold CRtspSession.dispatch
  cases cmd : s.m_RtspCmdType with
  | RTSP_SETUP =>
    unfold CRtspSession.Handle_RtspSETUP CRtspSession.InitTransport
    cases tcp : s.m_TcpTransport with
    | true => exact .inr ⟨rfl, rfl⟩
    | false => exact .inl ⟨rfl, rfl, rfl⟩
  | RTSP_DESCRIBE =>
    refine .inr ⟨?_, rfl⟩
    show (s.Handle_RtspDESCRIBE st).2.any Response.isUdpSetup = false
    unfold CRtspSession.Handle_RtspDESCRIBE
    dsimp only
    split <;> rfl
  | RTSP_OPTIONS => exact .inr ⟨rfl, rfl⟩
  | RTSP_PLAY => exact .inr ⟨rfl, rfl⟩
  | RTSP_TEARDOWN => exact .inr ⟨rfl, rfl⟩
  | RTSP_UNKNOWN => exact .inr ⟨rfl, rfl⟩

theorem dispatch_flags (st : CStreamer) (s : CRtspSession) :
    (s.dispatch st).2.1.m_RtspCmdType = s.m_RtspCmdType ∧ (s.dispatch st).2.1.m_stopped = s.m_stopped ∧
      (s.dispatch st).2.1.m_streaming = s.m_streaming := by
  unfold CRtspSession.dispatch
  cases cmd : s.m_RtspCmdType <;> exact ⟨cmd, rfl, rfl⟩

theorem findMethod_flags (s : CRtspSession) (r : Receiver) :
    (findMethod s r).1.m_stopped = s.m_stopped ∧ (findMethod s r).1.m_streaming = s.m_streaming := by
  unfold findMethod
  split <;> exact ⟨rfl, rfl⟩

/-- A call opens UDP transport exactly when it accepts a UDP SETUP, and then goes on. -/
theorem turn_udp {sv : Server} {i : Nat} {read : SocketRead} {t : Turn} (member : i ∈ sv.m_Clients)
    (h : sv.turn i read = .ok t) :
    (t.sent.any Response.isUdpSetup = true ∧ t.streamer = sv.streamer.InitUdpTransport ∧
        t.session.m_stopped = false) ∨
      (t.sent.any Response.isUdpSetup = false ∧ t.streamer = sv.streamer) := by
  have live := sv.live i member
  rcases handleRequests_cases live h with ⟨-, rfl⟩ | ⟨-, rfl⟩ | ⟨bytes, fits, -, -, answered⟩
  · exact .inr ⟨rfl, rfl⟩
  · exact .inr ⟨rfl, rfl⟩
  rcases answer_cases answered with ⟨-, -, rfl⟩ | ⟨-, -, rfl⟩ | ⟨st', s', sent, handled, rfl⟩
  · exact .inr ⟨rfl, rfl⟩
  · exact .inr ⟨rfl, rfl⟩
  rcases Handle_RtspRequest_cases handled with ⟨s1, accepted, same⟩ | ⟨-, rfl, rfl⟩
  swap
  · exact .inr ⟨rfl, rfl⟩
  have flags := dispatch_flags sv.streamer s1
  have effect := dispatch_udp sv.streamer s1
  rw [← same] at flags effect
  rcases effect with ⟨udp, opened, setup⟩ | ⟨other, kept⟩
  · refine .inl ⟨udp, opened, ?_⟩
    have going : s'.m_stopped = false := by
      rw [flags.2.1, (ParseRtspRequest_outside accepted).stopped, (findMethod_flags _ _).1]
      exact live
    show s'.markCommand.m_stopped = false
    unfold CRtspSession.markCommand
    rw [flags.1, setup]
    exact going
  · exact .inr ⟨other, kept⟩

theorem settle_binds {sv : Server} {i : Nat} {read : SocketRead} {t : Turn} (binds : sv.streamer.Binds)
    (member : i ∈ sv.m_Clients) (turn : sv.turn i read = .ok t) : (sv.settle i t).streamer.Binds := by
  have after : t.streamer.Binds := by
    rcases turn_udp member turn with ⟨-, opened, -⟩ | ⟨-, kept⟩
    · rw [opened]
      exact init_binds binds
    · rw [kept]
      exact binds
  unfold Server.settle
  split
  · exact release_binds after
  · exact after

/-! ### The count -/

section

variable {ids : List Nat} {i : Nat} {e : Entry} {log : List Entry}

theorem setUpUdp_cons (j : Nat) :
    SetUpUdp (e :: log) j ↔ (e.id = j ∧ e.sent.any Response.isUdpSetup) ∨ SetUpUdp log j := by
  unfold SetUpUdp
  rw [List.exists_mem_cons_iff]

theorem udpSessions_other (other : e.sent.any Response.isUdpSetup = false) :
    udpSessions ids (e :: log) = udpSessions ids log := by
  unfold udpSessions
  apply List.filter_congr
  intro j _
  simp only [setUpUdp_cons, other, Bool.false_eq_true, and_false, false_or]

theorem udpSessions_erase (log : List Entry) (member : i ∈ ids) :
    (udpSessions ids log).length = (udpSessions (ids.erase i) log).length + if SetUpUdp log i then 1 else 0 := by
  unfold udpSessions
  rw [((List.perm_cons_erase member).filter _).length_eq, List.filter_cons]
  by_cases setUp : SetUpUdp log i <;> simp [setUp]

theorem udpSessions_setup (log : List Entry) (distinct : ids.Nodup) (member : e.id ∈ ids)
    (udp : e.sent.any Response.isUdpSetup = true) :
    (udpSessions ids (e :: log)).length = (udpSessions ids log).length + if SetUpUdp log e.id then 0 else 1 := by
  have now : SetUpUdp (e :: log) e.id := (setUpUdp_cons e.id).mpr (.inl ⟨rfl, udp⟩)
  have rest : udpSessions (ids.erase e.id) (e :: log) = udpSessions (ids.erase e.id) log := by
    unfold udpSessions
    apply List.filter_congr
    intro j other
    have apart : e.id ≠ j := fun same => distinct.not_mem_erase (same ▸ other)
    simp only [setUpUdp_cons, apart, false_and, false_or]
  rw [udpSessions_erase (e :: log) member, udpSessions_erase log member, if_pos now, rest]
  split <;> omega

end

theorem udpCounted_iff_count {h : History} : UdpCounted h ↔
    OpenIff h.server.streamer (h.server.streamer.m_udpRefCount ≠ 0) ∧
      h.server.streamer.m_udpRefCount = (udpSessions h.server.m_Clients h.log).length := by
  have some : (∃ i ∈ h.server.m_Clients, SetUpUdp h.log i) ↔ (udpSessions h.server.m_Clients h.log).length ≠ 0 := by
    rw [Ne, List.length_eq_zero_iff, udpSessions, List.filter_eq_nil_iff]
    simp
  constructor
  · intro counted
    have total := counted.count
    exact ⟨counted.opened.congr (some.trans (by omega)), total⟩
  · intro counted
    obtain ⟨opened, total⟩ := counted
    exact ⟨opened.congr (Iff.trans (by omega) some.symm), total⟩

/-! ### A step -/

/-- What holds of every history, counted or not. -/
structure UdpAmbient (h : History) : Prop where
  binds : h.server.streamer.Binds
  named : h.Named

section

variable {x y : History} {e : Event} {i : Nat} {read : SocketRead} {t : Turn}

theorem ambient_step (ambient : UdpAmbient x) (taken : x.step e = .ok y) : UdpAmbient y := by
  refine ⟨?_, named_step ambient.named taken⟩
  rcases History.step_cases taken with ⟨random, -, rfl⟩ | ⟨i, read, -, -, rfl⟩ | ⟨i, read, t, -, member, turn, rfl⟩
  · exact ambient.binds
  · exact ambient.binds
  · exact settle_binds ambient.binds member turn

theorem udpSessions_addSession (ambient : UdpAmbient x) (random : Nat) :
    udpSessions (x.server.addSession random).m_Clients x.log = udpSessions x.server.m_Clients x.log := by
  have unset : ¬ SetUpUdp x.log x.server.created := by
    intro setUp
    obtain ⟨e, inside, same, -⟩ := setUp
    exact absurd (ambient.named e inside) (by rw [same]; exact Nat.lt_irrefl _)
  unfold udpSessions Server.addSession
  rw [List.filter_append, List.filter_cons_of_neg (by simpa using unset), List.filter_nil, List.append_nil]

/-- A call keeps the count exactly when a UDP SETUP is its session's first and a deleted session had one. -/
theorem counted_turn (ambient : UdpAmbient x) (counted : UdpCounted x) (member : i ∈ x.server.m_Clients)
    (turn : x.server.turn i read = .ok t) :
    UdpCounted ⟨x.server.settle i t, ⟨i, read, t.session, t.sent⟩ :: x.log⟩ ↔
      (t.sent.any Response.isUdpSetup → ¬ SetUpUdp x.log i) ∧ (t.session.m_stopped → SetUpUdp x.log i) := by
  rw [udpCounted_iff_count] at counted ⊢
  obtain ⟨opened, total⟩ := counted
  dsimp only
  rcases turn_udp member turn with ⟨udp, streamer, going⟩ | ⟨other, streamer⟩
  · obtain ⟨streamer', clients, -⟩ := Server.settle_going x.server i going
    have count := init_count ambient.binds
    have now : (udpSessions x.server.m_Clients (⟨i, read, t.session, t.sent⟩ :: x.log)).length = _ :=
      udpSessions_setup x.log x.server.nodup member udp
    rw [streamer', clients, streamer, count, now, udp, going]
    dsimp only
    have opened' := (init_open ambient.binds opened).congr
      (iff_of_true trivial (show x.server.streamer.m_udpRefCount + 1 ≠ 0 by omega))
    by_cases setUp : SetUpUdp x.log i
    · rw [if_pos setUp]
      exact iff_of_false (fun both => by omega) (fun both => both.1 rfl setUp)
    · rw [if_neg setUp]
      exact iff_of_true ⟨opened', by omega⟩ ⟨fun _ => setUp, fun stopped => absurd stopped Bool.false_ne_true⟩
  · rw [udpSessions_other other, other]
    by_cases stopped : t.session.m_stopped = true
    · obtain ⟨streamer', clients, -⟩ := Server.settle_stopped x.server i stopped
      have before := udpSessions_erase x.log member
      rw [streamer', clients, streamer, release_count, stopped]
      by_cases setUp : SetUpUdp x.log i
      · rw [if_pos setUp] at before
        have all := opened.congr (iff_true_intro (show x.server.streamer.m_udpRefCount ≠ 0 by omega))
        exact iff_of_true ⟨release_open all, by omega⟩ ⟨fun udp => absurd udp Bool.false_ne_true, fun _ => setUp⟩
      · rw [if_neg setUp] at before
        exact iff_of_false (fun both => by omega) (fun both => setUp (both.2 rfl))
    · obtain ⟨streamer', clients, -⟩ := Server.settle_going x.server i (by simpa using stopped)
      rw [streamer', clients, streamer]
      exact iff_of_true ⟨opened, total⟩ ⟨fun udp => absurd udp Bool.false_ne_true, fun stop => absurd stop stopped⟩

theorem counted_step (ambient : UdpAmbient x) (counted : UdpCounted x) (taken : x.step e = .ok y) :
    UdpCounted y ↔ PairsUdp x e := by
  rcases History.step_cases taken with ⟨random, rfl, rfl⟩ | ⟨i, read, rfl, gone, rfl⟩ |
    ⟨i, read, t, rfl, member, turn, rfl⟩
  · refine iff_of_true ?_ trivial
    rw [udpCounted_iff_count] at counted ⊢
    dsimp only
    rw [udpSessions_addSession ambient]
    exact counted
  · exact iff_of_true counted fun member => absurd member gone
  · rw [counted_turn ambient counted member turn]
    constructor
    · intro paired _ t' turn'
      rw [turn] at turn'
      cases turn'
      exact paired
    · intro paired
      exact paired member t turn

end

/-- In a run the count is right in every state exactly when each session sets up UDP once
before it is deleted. -/
theorem udpCounted_iff (udp : UdpSockets) (pres stream : Bytes) (binds : ∀ port, udp.bindable port = true)
    (events : List Event) :
    Runs.Always History.step UdpCounted events (History.start udp pres stream) ↔
      Runs.EachStep History.step PairsUdp events (History.start udp pres stream) := by
  have counted : UdpCounted (History.start udp pres stream) := by
    have none : ¬ ∃ i ∈ (History.start udp pres stream).server.m_Clients, SetUpUdp [] i := by
      intro some
      obtain ⟨i, member, -⟩ := some
      exact absurd member List.not_mem_nil
    exact ⟨⟨iff_of_false (fun h => h rfl) none, iff_of_false (fun h => h rfl) none, iff_of_false (fun h => h rfl) none,
      iff_of_false (fun h => h rfl) none⟩, rfl⟩
  exact Runs.always_iff (E := fun _ => True) (fun _ => ambient_step) (fun _ => counted_step) (fun _ _ => trivial)
    ⟨binds, fun e member => absurd member List.not_mem_nil⟩ counted

theorem udpCounted_iff_disconnect :
    (∀ port, (⟨fun _ => true, 2, []⟩ : UdpSockets).bindable port = true) ∧
      (Runs.Always History.step UdpCounted [.addSession 5, .read 0 .closed]
          (History.start ⟨fun _ => true, 2, []⟩ (ascii "live") (ascii "1")) ↔
        Runs.EachStep History.step PairsUdp [.addSession 5, .read 0 .closed]
          (History.start ⟨fun _ => true, 2, []⟩ (ascii "live") (ascii "1"))) :=
  ⟨fun _ => rfl, udpCounted_iff _ _ _ (fun _ => rfl) _⟩

/-- A client that disconnects before any SETUP leaves a count of -1. -/
theorem not_udpCounted_disconnect :
    ¬ Runs.Always History.step UdpCounted [.addSession 5, .read 0 .closed]
      (History.start ⟨fun _ => true, 2, []⟩ (ascii "live") (ascii "1")) := by
  intro always
  have facts : (Runs.run History.step [.addSession 5, .read 0 .closed]
      (History.start ⟨fun _ => true, 2, []⟩ (ascii "live") (ascii "1"))).toOption.map
        (fun h => h.server.streamer.m_udpRefCount) = some (-1) := by decide +kernel
  obtain ⟨h, run, negative⟩ := Runs.run_ends facts
  have count := (always.last run).count
  omega

end RtspServer
