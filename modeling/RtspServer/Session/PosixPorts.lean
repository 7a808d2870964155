import RtspServer.Base.Descriptors
import RtspServer.Session.UdpHandles

/-!
# The search for UDP ports on POSIX

`InitUdpTransport` is written over the sockets of its platform. On POSIX these are
descriptors, so that `NULLSOCKET` is one of them: the search that closes it has the
next socket there, and takes that for a port that cannot be bound.
-/

namespace RtspServer

open Descriptors (Table)

/-! ### The streamer over any sockets -/

/-- `udpsocketcreate` and `udpsocketclose` of a platform, over the state `σ` of its sockets. -/
structure Platform (σ : Type) where
  udpsocketcreate : σ → Nat → Nat × σ
  udpsocketclose : σ → Nat → σ

/-- What `CStreamer` has for its UDP transport. -/
structure UdpTransport (σ : Type) where
  m_RtpSocket : Nat
  m_RtcpSocket : Nat
  m_RtpServerPort : UInt16
  m_RtcpServerPort : UInt16
  m_udpRefCount : Int
  sockets : σ

namespace UdpTransport

variable {σ : Type} (platform : Platform σ)

def create (sockets : σ) : UdpTransport σ := ⟨NULLSOCKET, NULLSOCKET, 0, 0, 0, sockets⟩

/-- The body of the loop over the ports; the loop ends when it returns true. -/
def bindPair (st : UdpTransport σ) (P : Nat) : UdpTransport σ × Bool :=
  let (rtp, sockets) := platform.udpsocketcreate st.sockets P
  let st := { st with m_RtpSocket := rtp, sockets }
  if rtp ≠ NULLSOCKET then
    let (rtcp, sockets) := platform.udpsocketcreate st.sockets (P + 1)
    let st := { st with m_RtcpSocket := rtcp, sockets }
    if rtcp ≠ NULLSOCKET then
      ({ st with m_RtpServerPort := UInt16.ofNat P, m_RtcpServerPort := UInt16.ofNat (P + 1) }, true)
    else ({ st with sockets := platform.udpsocketclose (platform.udpsocketclose st.sockets rtp) rtcp }, false)
  else (st, false)

/-- The loop over the last `n` even ports below `0xFFFE`. -/
def bindFrom : Nat → UdpTransport σ → UdpTransport σ
  | 0, st => st
  | n + 1, st =>
    match st.bindPair platform (0xFFFE - 2 * (n + 1)) with
    | (st, true) => st
    | (st, false) => bindFrom n st

def InitUdpTransport (st : UdpTransport σ) : UdpTransport σ :=
  let st := if st.m_udpRefCount ≠ 0 then st else st.bindFrom platform ((0xFFFE - 6970) / 2)
  { st with m_udpRefCount := st.m_udpRefCount + 1 }

def ReleaseUdpTransport (st : UdpTransport σ) : UdpTransport σ :=
  let st := { st with m_udpRefCount := st.m_udpRefCount - 1 }
  if st.m_udpRefCount = 0 then
    { st with
      m_RtpServerPort := 0
      m_RtcpServerPort := 0
      sockets := platform.udpsocketclose (platform.udpsocketclose st.sockets st.m_RtpSocket) st.m_RtcpSocket
      m_RtpSocket := NULLSOCKET
      m_RtcpSocket := NULLSOCKET }
  else st

end UdpTransport

/-- Sockets that are numbered as they are opened. -/
def Platform.numbered : Platform UdpSockets := ⟨UdpSockets.udpsocketcreate, UdpSockets.udpsocketclose⟩

def CStreamer.transport (st : CStreamer) : UdpTransport UdpSockets :=
  ⟨st.m_RtpSocket, st.m_RtcpSocket, st.m_RtpServerPort, st.m_RtcpServerPort, st.m_udpRefCount, st.udp⟩

theorem transport_bindPair (st : CStreamer) (P : Nat) :
    st.transport.bindPair .numbered P = ((st.bindPair P).1.transport, (st.bindPair P).2) := by
  unfold UdpTransport.bindPair CStreamer.bindPair
  dsimp only [CStreamer.transport, Platform.numbered]
  by_cases rtp : (st.udp.udpsocketcreate P).1 ≠ NULLSOCKET
  · rw [if_pos rtp, if_pos rtp]
    by_cases rtcp : ((st.udp.udpsocketcreate P).2.udpsocketcreate (P + 1)).1 ≠ NULLSOCKET
    · rw [if_pos rtcp, if_pos rtcp]
    · rw [if_neg rtcp, if_neg rtcp]
  · rw [if_neg rtp, if_neg rtp]

theorem transport_bindFrom (n : Nat) (st : CStreamer) :
    st.transport.bindFrom .numbered n = (CStreamer.bindFrom n st).transport := by
  induction n generalizing st with
  | zero => rfl
  | succ n ih =>
    rw [UdpTransport.bindFrom, CStreamer.bindFrom, transport_bindPair]
    cases round : st.bindPair (0xFFFE - 2 * (n + 1)) with
    | mk s done =>
      cases done with
      | true => rfl
      | false => exact ih s

/-- The streamer is the one over numbered sockets. -/
theorem transport_InitUdpTransport (st : CStreamer) :
    st.transport.InitUdpTransport .numbered = st.InitUdpTransport.transport := by
  unfold UdpTransport.InitUdpTransport CStreamer.InitUdpTransport
  rw [transport_bindFrom]
  by_cases used : st.m_udpRefCount ≠ 0
  · rw [if_pos used, if_pos (show st.transport.m_udpRefCount ≠ 0 from used)]
    rfl
  · rw [if_neg used, if_neg (show ¬ st.transport.m_udpRefCount ≠ 0 from used)]
    rfl

theorem transport_ReleaseUdpTransport (st : CStreamer) :
    st.transport.ReleaseUdpTransport .numbered = st.ReleaseUdpTransport.transport := by
  unfold UdpTransport.ReleaseUdpTransport CStreamer.ReleaseUdpTransport
  by_cases last : st.m_udpRefCount - 1 = 0
  · rw [if_pos last, if_pos (show st.transport.m_udpRefCount - 1 = 0 from last)]
    rfl
  · rw [if_neg last, if_neg (show ¬ st.transport.m_udpRefCount - 1 = 0 from last)]
    rfl

/-- What holds in front of each round of the search and is kept by the rounds that do not end it. -/
theorem UdpTransport.bindFrom_rule {σ : Type} {platform : Platform σ} {I : Nat → UdpTransport σ → Prop}
    (keeps : ∀ P s t, Candidate P → I P s → s.bindPair platform P = (t, false) → I (P + 2) t) (n : Nat)
    (le : n ≤ (0xFFFE - 6970) / 2) {st : UdpTransport σ} (initial : I (0xFFFE - 2 * n) st) :
    (∃ P s, Candidate P ∧ I P s ∧ s.bindPair platform P = (st.bindFrom platform n, true)) ∨
      I 0xFFFE (st.bindFrom platform n) := by
  induction n generalizing st with
  | zero => exact .inr initial
  | succ n ih =>
    have candidate : Candidate (0xFFFE - 2 * (n + 1)) := ⟨by omega, by omega, by omega⟩
    rw [bindFrom]
    cases round : st.bindPair platform (0xFFFE - 2 * (n + 1)) with
    | mk s done =>
      cases done with
      | true => exact .inl ⟨_, st, candidate, initial, round⟩
      | false =>
        have next := keeps _ st s candidate initial round
        rw [show 0xFFFE - 2 * (n + 1) + 2 = 0xFFFE - 2 * n by omega] at next
        exact ih (by omega) next

/-! ### POSIX -/

/-- What a descriptor refers to: a UDP socket, with its port once it is bound, or something else. -/
inductive Behind where
  | udp (port : Option Nat)
  | other
  deriving DecidableEq, Repr

/-- No other program has the port, and no descriptor of this one. -/
def canBind (free : Nat → Bool) (fds : Table Behind) (port : Nat) : Bool :=
  free port && !fds.refersTo (.udp (some port))

/-- `udpsocketcreate` calls `socket` and `bind`, and `close` where that fails. -/
def Platform.posix (free : Nat → Bool) : Platform (Table Behind) where
  udpsocketcreate fds portNum :=
    let s := fds.lowest
    let opened := fds.set s (some (.udp none))
    if canBind free fds portNum then (s, opened.set s (some (.udp (some portNum))))
    else (NULLSOCKET, opened.set s none)
  udpsocketclose fds s := fds.set s none

section

open Function (update)

variable {free : Nat → Bool} {fds : Table Behind} {st s t : UdpTransport (Table Behind)} {P : Nat}

theorem posix_create (free : Nat → Bool) (fds : Table Behind) (portNum : Nat) :
    ∃ fds', (canBind free fds portNum = false ∧ fds'.behind = fds.behind ∧
        (Platform.posix free).udpsocketcreate fds portNum = (NULLSOCKET, fds')) ∨
      (canBind free fds portNum = true ∧ fds'.behind = update fds.behind fds.lowest (some (.udp (some portNum))) ∧
        (Platform.posix free).udpsocketcreate fds portNum = (fds.lowest, fds')) := by
  cases can : canBind free fds portNum with
  | false =>
    refine ⟨_, .inl ⟨rfl, ?_, if_neg (by rw [can]; exact Bool.false_ne_true)⟩⟩
    show update (update _ _ _) _ _ = _
    rw [Function.update_idem, ← fds.lowest_closed, Function.update_eq_self]
  | true =>
    refine ⟨_, .inr ⟨rfl, ?_, if_pos can⟩⟩
    show update (update _ _ _) _ _ = _
    rw [Function.update_idem]

/-- How a round of the search goes. -/
inductive Trial (free : Nat → Bool) (st : UdpTransport (Table Behind)) (P : Nat) : UdpTransport (Table Behind) × Bool → Prop
  | busy (fds : Table Behind) (cannot : canBind free st.sockets P = false) (same : fds.behind = st.sockets.behind) :
    Trial free st P ({ st with m_RtpSocket := NULLSOCKET, sockets := fds }, false)
  /-- The socket has the descriptor 0. -/
  | mistaken (fds : Table Behind) (can : canBind free st.sockets P = true) (closed : st.sockets.behind 0 = none)
    (same : fds.behind = update st.sockets.behind 0 (some (.udp (some P)))) :
    Trial free st P ({ st with m_RtpSocket := NULLSOCKET, sockets := fds }, false)
  /-- The descriptor 0 is closed. -/
  | alone (fds : Table Behind) (rtp : Nat) (can : canBind free st.sockets P = true)
    (cannot : canBind free st.sockets (P + 1) = false) (opened : st.sockets.behind 0 ≠ none)
    (new : st.sockets.behind rtp = none) (same : fds.behind = update st.sockets.behind 0 none) :
    Trial free st P ({ st with m_RtpSocket := rtp, m_RtcpSocket := NULLSOCKET, sockets := fds }, false)
  | pair (fds : Table Behind) (rtp rtcp : Nat) (can : canBind free st.sockets P = true)
    (can' : canBind free st.sockets (P + 1) = true) (opened : st.sockets.behind 0 ≠ none)
    (new : st.sockets.behind rtp = none) (new' : st.sockets.behind rtcp = none) (apart : rtp ≠ rtcp)
    (same : fds.behind = update (update st.sockets.behind rtp (some (.udp (some P)))) rtcp (some (.udp (some (P + 1))))) :
    Trial free st P ({ st with
      m_RtpSocket := rtp, m_RtcpSocket := rtcp, m_RtpServerPort := UInt16.ofNat P, m_RtcpServerPort := UInt16.ofNat (P + 1)
      sockets := fds }, true)

theorem canBind_other {free : Nat → Bool} {fds fds' : Table Behind} {d p q : Nat} (closed : fds.behind d = none)
    (same : fds'.behind = update fds.behind d (some (.udp (some q)))) (other : p ≠ q) :
    canBind free fds' p = canBind free fds p := by
  unfold canBind
  rw [Descriptors.Table.refersTo_congr fun e => ?_]
  rw [same]
  by_cases here : e = d
  · rw [here, Function.update_self, closed]
    simp only [Option.some.injEq, Behind.udp.injEq, reduceCtorEq, iff_false]
    exact fun wrong => other wrong.symm
  · rw [Function.update_of_ne here]

theorem bindPair_trial (free : Nat → Bool) (st : UdpTransport (Table Behind)) (P : Nat) :
    Trial free st P (st.bindPair (.posix free) P) := by
  have creates := posix_create free
  unfold UdpTransport.bindPair
  generalize (Platform.posix free).udpsocketcreate = udpsocketcreate at creates ⊢
  obtain ⟨fds, ⟨cannot, same, create⟩ | ⟨can, same, create⟩⟩ := creates st.sockets P
  · rw [create]
    exact .busy fds cannot same
  rw [create]
  dsimp only
  by_cases zero : st.sockets.lowest = NULLSOCKET
  · rw [if_neg (not_not_intro zero), zero]
    rw [zero] at same
    exact .mistaken fds can (st.sockets.lowest_eq_zero.mp zero) same
  rw [if_pos zero]
  have closed := st.sockets.lowest_closed
  have opened : st.sockets.behind 0 ≠ none := mt st.sockets.lowest_eq_zero.mpr zero
  have other : canBind free fds (P + 1) = canBind free st.sockets (P + 1) :=
    canBind_other closed same (Nat.succ_ne_self P)
  obtain ⟨fds', ⟨cannot, same', create'⟩ | ⟨can', same', create'⟩⟩ := creates fds (P + 1)
  · rw [create']
    refine .alone _ st.sockets.lowest can (other ▸ cannot) opened closed ?_
    show update (update _ _ _) _ _ = _
    rw [same', same, Function.update_idem, ← closed, Function.update_eq_self]
    rfl
  · rw [create']
    dsimp only
    obtain ⟨notNull, apart, closed'⟩ := Descriptors.Table.lowest_second zero same
    rw [if_pos (show fds.lowest ≠ NULLSOCKET from notNull)]
    exact .pair fds' _ _ can (other ▸ can') opened closed closed' apart (by rw [same', same])

end

/-! ### Runs -/

/-- The descriptors other than 0 are as they were. -/
structure Unopened (start : Table Behind) (st : UdpTransport (Table Behind)) : Prop where
  rtcp : st.m_RtcpSocket = NULLSOCKET
  ports : st.m_RtpServerPort = 0 ∧ st.m_RtcpServerPort = 0
  stale : st.m_RtpSocket = NULLSOCKET ∨ start.behind st.m_RtpSocket = none
  others : ∀ d ≠ 0, st.sockets.behind d = start.behind d
  zero : st.sockets.behind 0 = start.behind 0 ∨ st.sockets.behind 0 = none ∨
    ∃ Q, Candidate Q ∧ st.sockets.behind 0 = some (.udp (some Q))

/-- Besides them the sockets of the two ports are open. -/
structure OpenedPair (start : Table Behind) (P : Nat) (st : UdpTransport (Table Behind)) : Prop where
  candidate : Candidate P
  ports : st.m_RtpServerPort = UInt16.ofNat P ∧ st.m_RtcpServerPort = UInt16.ofNat (P + 1)
  notNull : st.m_RtpSocket ≠ NULLSOCKET ∧ st.m_RtcpSocket ≠ NULLSOCKET
  new : start.behind st.m_RtpSocket = none ∧ start.behind st.m_RtcpSocket = none
  rtp : st.sockets.behind st.m_RtpSocket = some (.udp (some P))
  rtcp : st.sockets.behind st.m_RtcpSocket = some (.udp (some (P + 1)))
  others : ∀ d ≠ 0, d ≠ st.m_RtpSocket → d ≠ st.m_RtcpSocket → st.sockets.behind d = start.behind d
  zero : st.sockets.behind 0 = start.behind 0 ∨ st.sockets.behind 0 = none ∨
    ∃ Q, Candidate Q ∧ st.sockets.behind 0 = some (.udp (some Q))

inductive Holds (start : Table Behind) (st : UdpTransport (Table Behind)) : Prop
  | unopened (unopened : Unopened start st)
  | opened (P : Nat) (opened : OpenedPair start P st) (count : 0 < st.m_udpRefCount)

section

open Function (update)

variable {free : Nat → Bool} {start : Table Behind} {st s t : UdpTransport (Table Behind)} {P : Nat}

theorem Unopened.trial (before : Unopened start s) (candidate : Candidate P) (trial : Trial free s P (t, false)) :
    Unopened start t := by
  obtain ⟨rtcp, ports, -, others, zero⟩ := before
  cases trial with
  | busy fds cannot same => exact ⟨rtcp, ports, .inl rfl, by rwa [same], by rwa [same]⟩
  | mistaken fds can closed same =>
    refine ⟨rtcp, ports, .inl rfl, fun d other => ?_, .inr (.inr ⟨P, candidate, ?_⟩)⟩
    · rw [same, Function.update_of_ne other]
      exact others d other
    · rw [same, Function.update_self]
  | alone fds rtp can cannot opened new same =>
    refine ⟨rfl, ports, ?_, fun d other => ?_, .inr (.inl ?_)⟩
    · have notNull : rtp ≠ 0 := fun null => opened (null ▸ new)
      exact .inr ((others rtp notNull).symm.trans new)
    · rw [same, Function.update_of_ne other]
      exact others d other
    · rw [same, Function.update_self]

theorem Unopened.pair (before : Unopened start s) (candidate : Candidate P) (trial : Trial free s P (t, true)) :
    OpenedPair start P t := by
  obtain ⟨-, -, -, others, zero⟩ := before
  cases trial with
  | pair fds rtp rtcp can can' opened new new' apart same =>
    have rtpNotNull : rtp ≠ 0 := fun null => opened (null ▸ new)
    have rtcpNotNull : rtcp ≠ 0 := fun null => opened (null ▸ new')
    refine ⟨candidate, ⟨rfl, rfl⟩, ⟨rtpNotNull, rtcpNotNull⟩,
      ⟨(others rtp rtpNotNull).symm.trans new, (others rtcp rtcpNotNull).symm.trans new'⟩, ?_, ?_, ?_, ?_⟩
    · rw [same, Function.update_of_ne apart, Function.update_self]
    · rw [same, Function.update_self]
    · intro d other notRtp notRtcp
      rw [same, Function.update_of_ne notRtcp, Function.update_of_ne notRtp]
      exact others d other
    · rwa [same, Function.update_of_ne (Ne.symm rtcpNotNull), Function.update_of_ne (Ne.symm rtpNotNull)]

theorem trial_count {r : UdpTransport (Table Behind) × Bool} (trial : Trial free s P r) :
    r.1.m_udpRefCount = s.m_udpRefCount := by
  cases trial <;> rfl

theorem Unopened.counted (unopened : Unopened start st) (n : Int) : Unopened start { st with m_udpRefCount := n } :=
  ⟨unopened.rtcp, unopened.ports, unopened.stale, unopened.others, unopened.zero⟩

theorem OpenedPair.counted (opened : OpenedPair start P st) (n : Int) : OpenedPair start P { st with m_udpRefCount := n } :=
  ⟨opened.candidate, opened.ports, opened.notNull, opened.new, opened.rtp, opened.rtcp, opened.others, opened.zero⟩

theorem Holds.init (holds : Holds start st) (free : Nat → Bool) : Holds start (st.InitUdpTransport (.posix free)) := by
  unfold UdpTransport.InitUdpTransport
  by_cases used : st.m_udpRefCount ≠ 0
  · rw [if_pos used]
    cases holds with
    | unopened unopened => exact .unopened (unopened.counted _)
    | opened P opened count => exact .opened P (opened.counted _) (Int.lt_add_one_of_le (Int.le_of_lt count))
  · rw [if_neg used]
    have unused := Decidable.not_not.mp used
    cases holds with
    | opened P opened count => exact absurd count (by rw [unused]; exact Int.lt_irrefl 0)
    | unopened unopened =>
      have keeps : ∀ P s t, Candidate P → Unopened start s ∧ s.m_udpRefCount = 0 →
          s.bindPair (.posix free) P = (t, false) → Unopened start t ∧ t.m_udpRefCount = 0 := by
        rintro P s t candidate ⟨before, zero⟩ round
        have trial := bindPair_trial free s P
        rw [round] at trial
        exact ⟨before.trial candidate trial, (trial_count trial).trans zero⟩
      rcases UdpTransport.bindFrom_rule keeps _ (Nat.le_refl _) ⟨unopened, unused⟩ with
        ⟨P, s, candidate, ⟨before, zero⟩, round⟩ | ⟨after, -⟩
      · have trial := bindPair_trial free s P
        rw [round] at trial
        refine .opened P ((before.pair candidate trial).counted _) ?_
        show 0 < UdpTransport.m_udpRefCount _ + 1
        rw [(trial_count trial).trans zero]
        decide
      · exact .unopened (after.counted _)

theorem close_two (fds : Table Behind) (a b d : Nat) :
    ((fds.set a none).set b none).behind d = if d = a ∨ d = b then none else fds.behind d := by
  show update (update fds.behind a none) b none d = _
  by_cases second : d = b
  · rw [second, Function.update_self, if_pos (.inr rfl)]
  by_cases first : d = a
  · rw [Function.update_of_ne second, first, Function.update_self, if_pos (.inl rfl)]
  · rw [Function.update_of_ne second, Function.update_of_ne first, if_neg fun either => either.elim first second]

theorem Holds.release (holds : Holds start st) (free : Nat → Bool) : Holds start (st.ReleaseUdpTransport (.posix free)) := by
  unfold UdpTransport.ReleaseUdpTransport
  by_cases last : st.m_udpRefCount - 1 = 0
  · rw [if_pos last]
    have closes := close_two st.sockets st.m_RtpSocket st.m_RtcpSocket
    cases holds with
    | unopened unopened =>
      obtain ⟨rtcp, -, stale, others, -⟩ := unopened
      refine .unopened ⟨rfl, ⟨rfl, rfl⟩, .inl rfl, fun d other => (closes d).trans ?_, .inr (.inl ((closes 0).trans ?_))⟩
      · split
        · rename_i either
          obtain rfl : d = st.m_RtpSocket := either.resolve_right fun same => other (same.trans rtcp)
          exact (stale.resolve_left other).symm
        · exact others d other
      · exact if_pos (.inr rtcp.symm)
    | opened P opened count =>
      obtain ⟨-, -, notNull, new, -, -, others, zero⟩ := opened
      have kept : ((st.sockets.set st.m_RtpSocket none).set st.m_RtcpSocket none).behind 0 = st.sockets.behind 0 :=
        (closes 0).trans (if_neg fun either => either.elim (fun same => notNull.1 same.symm) fun same => notNull.2 same.symm)
      refine .unopened ⟨rfl, ⟨rfl, rfl⟩, .inl rfl, fun d other => (closes d).trans ?_, ?_⟩
      · split
        · rename_i either
          rcases either with rfl | rfl
          · exact new.1.symm
          · exact new.2.symm
        · rename_i neither
          exact others d other (fun same => neither (.inl same)) fun same => neither (.inr same)
      · rw [← kept] at zero
        exact zero
  · rw [if_neg last]
    cases holds with
    | unopened unopened => exact .unopened (unopened.counted _)
    | opened P opened count =>
      refine .opened P (opened.counted _) ?_
      show 0 < st.m_udpRefCount - 1
      omega

end

/-! ### The calls of a server -/

inductive UdpCall where
  | init
  | release
  deriving DecidableEq, Repr

def UdpTransport.call {σ : Type} (platform : Platform σ) (st : UdpTransport σ) : UdpCall → UdpTransport σ
  | .init => st.InitUdpTransport platform
  | .release => st.ReleaseUdpTransport platform

/-- The calls on POSIX, with the ports that are free in each. -/
def onPosix (start : Table Behind) (free : Nat → Nat → Bool) (calls : List UdpCall) : UdpTransport (Table Behind) :=
  calls.zipIdx.foldl (fun st (call, k) => st.call (.posix (free k)) call) (.create start)

/-- An accepted UDP SETUP takes the transport, and the destructor of the session gives it back. -/
def Entry.udpCalls (e : Entry) : List UdpCall :=
  (if e.sent.any Response.isUdpSetup then [.init] else []) ++ if e.session.m_stopped then [.release] else []

def History.udpCalls (h : History) : List UdpCall := h.log.reverse.flatMap Entry.udpCalls

/-- The calls lead to the transport of the streamer. -/
def Called (udp : UdpSockets) (h : History) : Prop :=
  h.udpCalls.foldl (UdpTransport.call .numbered) (.create udp) = h.server.streamer.transport

theorem called_step {udp : UdpSockets} {x y : History} {e : Event} (called : Called udp x) (taken : x.step e = .ok y) :
    Called udp y := by
  rcases History.step_cases taken with ⟨random, -, rfl⟩ | ⟨i, read, -, -, rfl⟩ | ⟨i, read, t, -, member, turn, rfl⟩
  · exact called
  · exact called
  have asked : (if t.sent.any Response.isUdpSetup then [UdpCall.init] else []).foldl (UdpTransport.call .numbered)
      x.server.streamer.transport = t.streamer.transport := by
    rcases turn_udp member turn with ⟨setup, opened, -⟩ | ⟨other, kept⟩
    · rw [setup, opened]
      exact transport_InitUdpTransport _
    · rw [other, kept]
      rfl
  have settled : (if t.session.m_stopped then [UdpCall.release] else []).foldl (UdpTransport.call .numbered)
      t.streamer.transport = (x.server.settle i t).streamer.transport := by
    cases stopped : t.session.m_stopped with
    | true =>
      rw [(Server.settle_stopped x.server i stopped).1]
      exact transport_ReleaseUdpTransport _
    | false =>
      rw [(Server.settle_going x.server i stopped).1]
      rfl
  have more : History.udpCalls ⟨x.server.settle i t, ⟨i, read, t.session, t.sent⟩ :: x.log⟩ =
      x.udpCalls ++ Entry.udpCalls ⟨i, read, t.session, t.sent⟩ := by
    unfold History.udpCalls
    rw [List.reverse_cons, List.flatMap_append, List.flatMap_singleton]
  unfold Called at called ⊢
  rw [more, List.foldl_append, called]
  unfold Entry.udpCalls
  rw [List.foldl_append, asked, settled]

/-- The calls that the server makes in a run, made on POSIX with whatever ports are free in each: besides the two sockets of the
streamer, which have the ports that it names, and descriptor 0 every descriptor is what it was at the start. -/
theorem posix_runs {udp : UdpSockets} {pres stream : Bytes} {events : List Event} {h : History}
    (run : Runs.run History.step events (History.start udp pres stream) = .ok h) (start : Table Behind) (free : Nat → Nat → Bool) :
    Called udp h ∧ Holds start (onPosix start free h.udpCalls) := by
  have before : Called udp (History.start udp pres stream) := rfl
  refine ⟨Runs.run_invariant called_step before run, ?_⟩
  have initial : Holds start (UdpTransport.create start) :=
    .unopened ⟨rfl, ⟨rfl, rfl⟩, .inl rfl, fun _ _ => rfl, .inl rfl⟩
  refine List.foldlRecOn h.udpCalls.zipIdx _ initial fun st holds call _ => ?_
  obtain ⟨call, k⟩ := call
  cases call with
  | init => exact holds.init _
  | release => exact holds.release _

/-- Only the descriptor 0 is open, for the standard input. -/
def standardInput : Table Behind := Table.empty.set 0 (some .other)

/-- With a port that is bound alone the standard input is closed, and a socket left in its place. -/
theorem posix_runs_setupClose : ∃ h,
    Runs.run History.step setupClose (History.start taken6971 (ascii "live") (ascii "1")) = .ok h ∧
    (onPosix standardInput (fun _ => taken6971.bindable) h.udpCalls).sockets.behind 0 = some (.udp (some 6972)) ∧
    Called taken6971 h ∧ Holds standardInput (onPosix standardInput (fun _ => taken6971.bindable) h.udpCalls) := by
  have facts : (Runs.run History.step setupClose (History.start taken6971 (ascii "live") (ascii "1"))).toOption.map
      (fun h => h.udpCalls) = some [.init, .release] := by decide +kernel
  obtain ⟨h, run, calls⟩ := Runs.run_ends facts
  refine ⟨h, run, ?_, posix_runs run standardInput fun _ => taken6971.bindable⟩
  rw [calls]
  decide +kernel

end RtspServer
