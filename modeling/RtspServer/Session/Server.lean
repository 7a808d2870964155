import RtspServer.Base.Runs
import RtspServer.Session.Connection
import Mathlib.Logic.Function.Basic
import Mathlib.Data.List.Nodup

/-!
# A streamer with its sessions

The list of clients of `CStreamer`, its `handleRequests`, and runs in which
sessions are added and read from in any order. The receive buffer is the
`static` one of `CRtspSession::handleRequests`.
-/

namespace RtspServer

/-- Sessions are named in the order of their creation. `session` is defined on the
clients only. -/
structure Server where
  streamer : CStreamer
  m_Clients : List Nat
  session : Nat → CRtspSession
  receiver : Receiver
  created : Nat
  nodup : m_Clients.Nodup
  born : ∀ i ∈ m_Clients, i < created
  live : ∀ i ∈ m_Clients, (session i).m_stopped = false

namespace Server

def create (streamer : CStreamer) : Server where
  streamer := streamer
  m_Clients := []
  session := fun _ => CRtspSession.create 0
  receiver := Receiver.empty
  created := 0
  nodup := List.nodup_nil
  born := by simp
  live := by simp

theorem not_born (sv : Server) : sv.created ∉ sv.m_Clients := fun member => Nat.lt_irrefl _ (sv.born _ member)

/-- `addSession`; the constructor puts the session at the end of the list. -/
def addSession (sv : Server) (random : Nat) : Server where
  streamer := sv.streamer
  m_Clients := sv.m_Clients ++ [sv.created]
  session := Function.update sv.session sv.created (CRtspSession.create random)
  receiver := sv.receiver
  created := sv.created + 1
  nodup := List.Nodup.append sv.nodup (List.nodup_singleton _) (by simpa using sv.not_born)
  born := by
    intro i member
    rcases List.mem_append.mp member with old | new
    · exact Nat.lt_succ_of_lt (sv.born i old)
    · rw [List.mem_singleton.mp new]
      exact Nat.lt_succ_self _
  live := by
    intro i member
    rcases List.mem_append.mp member with old | new
    · rw [Function.update_of_ne (Nat.ne_of_lt (sv.born i old))]
      exact sv.live i old
    · rw [List.mem_singleton.mp new, Function.update_self]
      rfl

theorem addSession_old {i : Nat} (sv : Server) (random : Nat) (old : i ≠ sv.created) :
    (i ∈ (sv.addSession random).m_Clients ↔ i ∈ sv.m_Clients) ∧
      (sv.addSession random).session i = sv.session i := by
  refine ⟨?_, Function.update_of_ne old _ _⟩
  show i ∈ sv.m_Clients ++ [sv.created] ↔ _
  rw [List.mem_append, List.mem_singleton, or_iff_left old]

theorem addSession_new (sv : Server) (random : Nat) :
    sv.created ∈ (sv.addSession random).m_Clients ∧
      (sv.addSession random).session sv.created = CRtspSession.create random :=
  ⟨List.mem_append_right _ (List.mem_singleton_self _), Function.update_self _ _ _⟩

def turn (sv : Server) (i : Nat) (read : SocketRead) : Run Turn :=
  (sv.session i).handleRequests sv.streamer sv.receiver read

/-- What follows the call: a stopped session is deleted, and its destructor releases the UDP transport. -/
def settle (sv : Server) (i : Nat) (t : Turn) : Server :=
  if stopped : t.session.m_stopped then
    { streamer := t.streamer.ReleaseUdpTransport
      m_Clients := sv.m_Clients.erase i
      session := sv.session
      receiver := t.receiver
      created := sv.created
      nodup := sv.nodup.erase i
      born := fun j member => sv.born j (List.mem_of_mem_erase member)
      live := fun j member => sv.live j (List.mem_of_mem_erase member) }
  else
    { streamer := t.streamer
      m_Clients := sv.m_Clients
      session := Function.update sv.session i t.session
      receiver := t.receiver
      created := sv.created
      nodup := sv.nodup
      born := sv.born
      live := by
        intro j member
        by_cases same : j = i
        · rw [same, Function.update_self]
          simpa using stopped
        · rw [Function.update_of_ne same]
          exact sv.live j member }

def visit (reads : Nat → SocketRead) : List Nat → Server → Run (Server × Bool)
  | [], sv => return (sv, true)
  | i :: rest, sv => do
    let t ← sv.turn i (reads i)
    let (sv, retVal) ← visit reads rest (sv.settle i t)
    return (sv, t.result && retVal)

def handleRequests (sv : Server) (reads : Nat → SocketRead) : Run (Server × Bool) := sv.visit reads sv.m_Clients

section

variable (sv : Server) (i : Nat) {j : Nat} {t : Turn}

theorem settle_stopped (stopped : t.session.m_stopped = true) :
    (sv.settle i t).streamer = t.streamer.ReleaseUdpTransport ∧ (sv.settle i t).m_Clients = sv.m_Clients.erase i ∧
      (sv.settle i t).session = sv.session := by
  unfold settle
  rw [dif_pos stopped]
  exact ⟨rfl, rfl, rfl⟩

theorem settle_going (going : t.session.m_stopped = false) :
    (sv.settle i t).streamer = t.streamer ∧ (sv.settle i t).m_Clients = sv.m_Clients ∧
      (sv.settle i t).session = Function.update sv.session i t.session := by
  unfold settle
  rw [dif_neg (by rw [going]; exact Bool.false_ne_true)]
  exact ⟨rfl, rfl, rfl⟩

@[simp] theorem settle_receiver : (sv.settle i t).receiver = t.receiver := by
  unfold settle
  split <;> rfl

@[simp] theorem settle_created : (sv.settle i t).created = sv.created := by
  unfold settle
  split <;> rfl

/-- The session that was called is a client on exactly as long as it is not stopped. -/
theorem settle_self (member : i ∈ sv.m_Clients) (t : Turn) :
    (i ∈ (sv.settle i t).m_Clients ↔ t.session.m_stopped = false) ∧
      (t.session.m_stopped = false → (sv.settle i t).session i = t.session) := by
  cases stopped : t.session.m_stopped with
  | true =>
    rw [(settle_stopped sv i stopped).2.1]
    exact ⟨iff_of_false sv.nodup.not_mem_erase nofun, nofun⟩
  | false =>
    obtain ⟨-, clients, sessions⟩ := settle_going sv i stopped
    rw [clients, sessions, Function.update_self]
    exact ⟨iff_of_true member rfl, fun _ => rfl⟩

theorem settle_others (t : Turn) {i : Nat} (other : j ≠ i) :
    (j ∈ (sv.settle i t).m_Clients ↔ j ∈ sv.m_Clients) ∧ (sv.settle i t).session j = sv.session j := by
  by_cases stopped : t.session.m_stopped = true
  · obtain ⟨-, clients, sessions⟩ := settle_stopped sv i stopped
    rw [clients, sessions]
    exact ⟨List.mem_erase_of_ne other, rfl⟩
  · obtain ⟨-, clients, sessions⟩ := settle_going sv i (by simpa using stopped)
    rw [clients, sessions]
    exact ⟨Iff.rfl, Function.update_of_ne other _ _⟩

end

end Server

/-! ### Runs -/

inductive Event where
  | addSession (random : Nat)
  | read (id : Nat) (read : SocketRead)

/-- A call of `handleRequests` on a session: what it read, the session it left and what it sent. -/
structure Entry where
  id : Nat
  read : SocketRead
  session : CRtspSession
  sent : List Response

/-- A server with the calls so far, the newest first. -/
structure History where
  server : Server
  log : List Entry

/-- A streamer that serves the stream `pres/stream`, before its first session. -/
def History.start (udp : UdpSockets) (pres stream : Bytes) : History :=
  ⟨Server.create ((CStreamer.create udp).setURI pres stream), []⟩

/-- A session that was deleted is not read from any more. -/
def History.step (h : History) : Event → Run History
  | .addSession random => return { h with server := h.server.addSession random }
  | .read i read =>
    if i ∈ h.server.m_Clients then do
      let t ← h.server.turn i read
      return ⟨h.server.settle i t, ⟨i, read, t.session, t.sent⟩ :: h.log⟩
    else return h

theorem History.step_cases {x y : History} {e : Event} (h : x.step e = .ok y) :
    (∃ random, e = .addSession random ∧ y = ⟨x.server.addSession random, x.log⟩) ∨
    (∃ i read, e = .read i read ∧ i ∉ x.server.m_Clients ∧ y = x) ∨
    (∃ i read t, e = .read i read ∧ i ∈ x.server.m_Clients ∧ x.server.turn i read = .ok t ∧
      y = ⟨x.server.settle i t, ⟨i, read, t.session, t.sent⟩ :: x.log⟩) := by
  cases e with
  | addSession random => exact .inl ⟨random, rfl, (pure_ok h).symm⟩
  | read i read =>
    unfold History.step at h
    dsimp only at h
    split at h
    · rename_i member
      obtain ⟨t, turn, rest⟩ := bind_ok h
      exact .inr (.inr ⟨i, read, t, rfl, member, turn, (pure_ok rest).symm⟩)
    · rename_i gone
      exact .inr (.inl ⟨i, read, rfl, gone, (pure_ok h).symm⟩)

/-- The calls so far were calls on sessions created. -/
def History.Named (h : History) : Prop := ∀ e ∈ h.log, e.id < h.server.created

theorem named_step {x y : History} {e : Event} (named : x.Named) (taken : x.step e = .ok y) : y.Named := by
  rcases History.step_cases taken with ⟨random, -, rfl⟩ | ⟨i, read, -, -, rfl⟩ | ⟨i, read, t, -, member, -, rfl⟩
  · exact fun e member => Nat.lt_succ_of_lt (named e member)
  · exact named
  · intro e inside
    show e.id < (x.server.settle i t).created
    rw [Server.settle_created]
    rcases List.mem_cons.mp inside with rfl | old
    · exact x.server.born i member
    · exact named e old

theorem visit_eq_run {reads : Nat → SocketRead} {ids : List Nat} {sv sv' : Server} {retVal : Bool} (log : List Entry)
    (distinct : ids.Nodup) (clients : ∀ i ∈ ids, i ∈ sv.m_Clients) (h : sv.visit reads ids = .ok (sv', retVal)) :
    ∃ log', Runs.run History.step (ids.map fun i => .read i (reads i)) ⟨sv, log⟩ = .ok ⟨sv', log'⟩ := by
  induction ids generalizing sv log retVal with
  | nil =>
    obtain ⟨rfl, -⟩ := Prod.mk.inj (pure_ok h)
    exact ⟨log, rfl⟩
  | cons i ids ih =>
    obtain ⟨t, turn, h⟩ := bind_ok h
    obtain ⟨⟨sv1, later⟩, rest, h⟩ := bind_ok h
    obtain ⟨rfl, -⟩ := Prod.mk.inj (pure_ok h)
    obtain ⟨first, others⟩ := List.nodup_cons.mp distinct
    have still : ∀ j ∈ ids, j ∈ (sv.settle i t).m_Clients := by
      intro j member
      have other : j ≠ i := fun same => first (same ▸ member)
      exact (Server.settle_others sv t other).1.mpr (clients j (List.mem_cons_of_mem i member))
    obtain ⟨log', run⟩ := ih (⟨i, reads i, t.session, t.sent⟩ :: log) others still rest
    refine ⟨log', ?_⟩
    have taken : History.step ⟨sv, log⟩ (.read i (reads i)) =
        .ok ⟨sv.settle i t, ⟨i, reads i, t.session, t.sent⟩ :: log⟩ := by
      unfold History.step
      dsimp only
      rw [if_pos (clients i List.mem_cons_self), turn]
      rfl
    rw [List.map_cons, Runs.run, taken]
    exact run

/-- `CStreamer::handleRequests` is a run with one read of each client. -/
theorem handleRequests_eq_run {reads : Nat → SocketRead} {sv sv' : Server} {retVal : Bool} (log : List Entry)
    (h : sv.handleRequests reads = .ok (sv', retVal)) :
    ∃ log', Runs.run History.step (sv.m_Clients.map fun i => .read i (reads i)) ⟨sv, log⟩ = .ok ⟨sv', log'⟩ :=
  visit_eq_run log sv.nodup (fun _ member => member) h

end RtspServer
