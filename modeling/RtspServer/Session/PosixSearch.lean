import Mathlib.Data.Nat.Find
import RtspServer.Session.PosixPorts

/-!
# The pair that a search finds on POSIX

Each port that is bound alone closes the descriptor 0, and the next port that can be
bound is then lost to it. So the search ends with the first pair that has an even
number of such ports in front of it.
-/

namespace RtspServer

open Descriptors (Table)

namespace UdpSockets

/-- How many even ports in front of `P` can be bound. -/
def tried (udp : UdpSockets) (P : Nat) : Nat :=
  (List.range ((P - 6970) / 2)).countP fun k => udp.bindable (6970 + 2 * k)

end UdpSockets

/-- The least candidate that can be bound with the port behind it, and has an even number of ports in front of it that can be
bound. -/
structure PosixPair (udp : UdpSockets) (P : Nat) : Prop where
  candidate : Candidate P
  pair : udp.Pair P
  even : udp.tried P % 2 = 0
  least : ∀ Q, Candidate Q → Q < P → ¬ (udp.Pair Q ∧ udp.tried Q % 2 = 0)

/-- What is at descriptor 0, where `n` ports in front of `P` can be bound. -/
inductive AtZero (n P : Nat) : Option Behind → Prop
  | untouched (none : n = 0) : AtZero n P (some .other)
  | closed (odd : n % 2 = 1) : AtZero n P none
  | mistaken (Q : Nat) (even : n % 2 = 0) (later : 0 < n) (less : Q < P) : AtZero n P (some (.udp (some Q)))

/-- The search from `fds` has come to `P`. -/
structure PosixSearched (udp : UdpSockets) (fds : Table Behind) (P : Nat) (s : UdpTransport (Table Behind)) : Prop where
  unopened : Unopened fds s
  zero : AtZero (udp.tried P) P (s.sockets.behind 0)
  none : ∀ Q, Candidate Q → Q < P → ¬ (udp.Pair Q ∧ udp.tried Q % 2 = 0)

section

variable {udp : UdpSockets} {free : Nat → Bool} {fds : Table Behind} {s t : UdpTransport (Table Behind)} {n P Q : Nat}

theorem tried_next (candidate : Candidate P) :
    udp.tried (P + 2) = udp.tried P + if udp.bindable P then 1 else 0 := by
  obtain ⟨low, -, even⟩ := candidate
  have next : (P + 2 - 6970) / 2 = (P - 6970) / 2 + 1 := by omega
  have here : 6970 + 2 * ((P - 6970) / 2) = P := by omega
  unfold UdpSockets.tried
  rw [next, List.range_succ, List.countP_append, List.countP_singleton, here]

theorem tried_same (candidate : Candidate P) (cannot : udp.bindable P = false) : udp.tried (P + 2) = udp.tried P := by
  rw [tried_next candidate, cannot, if_neg Bool.false_ne_true, Nat.add_zero (udp.tried P)]

theorem tried_succ (candidate : Candidate P) (can : udp.bindable P = true) : udp.tried (P + 2) = udp.tried P + 1 := by
  rw [tried_next candidate, can, if_pos rfl]

theorem tried_eq_zero (low : 6970 ≤ P) (even : P % 2 = 0) :
    udp.tried P = 0 ↔ ∀ Q, 6970 ≤ Q → Q % 2 = 0 → Q < P → udp.bindable Q = false := by
  unfold UdpSockets.tried
  rw [List.countP_eq_zero]
  constructor
  · intro none Q low' even' less
    have inside : (Q - 6970) / 2 ∈ List.range ((P - 6970) / 2) := List.mem_range.mpr (by omega)
    have here : 6970 + 2 * ((Q - 6970) / 2) = Q := by omega
    have free := none _ inside
    rw [here] at free
    exact Bool.eq_false_iff.mpr free
  · intro none k inside
    have less := List.mem_range.mp inside
    rw [none _ (by omega) (by omega) (by omega)]
    exact Bool.false_ne_true

/-- The ports that the search has not come to can be bound as at its start. -/
theorem PosixSearched.unchanged (searched : PosixSearched udp fds P s) (other : fds.behind 0 = some .other) (beyond : P ≤ Q) :
    canBind free s.sockets Q = canBind free fds Q := by
  unfold canBind
  rw [Descriptors.Table.refersTo_congr fun d => ?_]
  by_cases zero : d = 0
  · have at0 := searched.zero
    rw [zero, other]
    cases at0' : s.sockets.behind 0 with
    | none => exact iff_of_false nofun nofun
    | some x =>
      rw [at0'] at at0
      cases at0 with
      | untouched => exact Iff.rfl
      | mistaken R even later less =>
        refine iff_of_false (fun same => ?_) nofun
        cases same
        omega
  · rw [searched.unopened.others d zero]

theorem AtZero.none_iff {x : Option Behind} (zero : AtZero n P x) : x = none ↔ n % 2 = 1 := by
  cases zero with
  | untouched none => exact iff_of_false nofun (by omega)
  | closed odd => exact iff_of_true rfl odd
  | mistaken Q even later less => exact iff_of_false nofun (by omega)

theorem AtZero.further {x : Option Behind} (zero : AtZero n P x) : AtZero n (P + 2) x := by
  cases zero with
  | untouched none => exact .untouched none
  | closed odd => exact .closed odd
  | mistaken Q even later less => exact .mistaken Q even later (by omega)

theorem PosixSearched.next (searched : PosixSearched udp fds P s) (other : fds.behind 0 = some .other)
    (bindable : udp.bindable = canBind free fds) (candidate : Candidate P) (trial : Trial free s P (t, false)) :
    PosixSearched udp fds (P + 2) t := by
  have here : canBind free s.sockets P = udp.bindable P := by
    rw [bindable]
    exact searched.unchanged other (Nat.le_refl P)
  have behind : canBind free s.sockets (P + 1) = udp.bindable (P + 1) := by
    rw [bindable]
    exact searched.unchanged other (Nat.le_succ P)
  have unopened := searched.unopened.trial candidate trial
  have zero := searched.zero
  have rest (here : ¬ (udp.Pair P ∧ udp.tried P % 2 = 0)) :
      ∀ Q, Candidate Q → Q < P + 2 → ¬ (udp.Pair Q ∧ udp.tried Q % 2 = 0) :=
    (candidate_succ candidate).mpr ⟨searched.none, here⟩
  cases trial with
  | busy fds' cannot same =>
    rw [here] at cannot
    refine ⟨unopened, ?_, rest fun both => ?_⟩
    · show AtZero _ _ (fds'.behind 0)
      rw [tried_same candidate cannot, same]
      exact zero.further
    · rw [both.1.1] at cannot
      cases cannot
  | mistaken fds' can closed same =>
    rw [here] at can
    have odd := zero.none_iff.mp closed
    refine ⟨unopened, ?_, rest fun both => ?_⟩
    · show AtZero _ _ (fds'.behind 0)
      rw [tried_succ candidate can, same, Function.update_self]
      exact .mistaken P (by omega) (by omega) (by omega)
    · have even := both.2
      omega
  | alone fds' rtp can cannot opened new same =>
    rw [here] at can
    rw [behind] at cannot
    have even := mt zero.none_iff.mpr opened
    refine ⟨unopened, ?_, rest fun both => ?_⟩
    · show AtZero _ _ (fds'.behind 0)
      rw [tried_succ candidate can, same, Function.update_self]
      exact .closed (by omega)
    · rw [both.1.2] at cannot
      cases cannot

theorem PosixSearched.pair (searched : PosixSearched udp fds P s) (other : fds.behind 0 = some .other)
    (bindable : udp.bindable = canBind free fds) (candidate : Candidate P) (trial : Trial free s P (t, true)) :
    PosixPair udp P ∧ OpenedPair fds P t ∧ t.sockets.behind 0 = s.sockets.behind 0 := by
  have opened' := searched.unopened.pair candidate trial
  cases trial with
  | pair fds' rtp rtcp can can' opened new new' apart same =>
    have even := mt searched.zero.none_iff.mpr opened
    rw [searched.unchanged other (Nat.le_refl P), ← bindable] at can
    rw [searched.unchanged other (Nat.le_succ P), ← bindable] at can'
    refine ⟨⟨candidate, ⟨can, can'⟩, by omega, searched.none⟩, opened', ?_⟩
    show fds'.behind 0 = _
    have notRtp : 0 ≠ rtp := fun null => opened'.notNull.1 null.symm
    have notRtcp : 0 ≠ rtcp := fun null => opened'.notNull.2 null.symm
    rw [same, Function.update_of_ne notRtcp, Function.update_of_ne notRtp]

/-- How a search ends. -/
inductive PosixEnds (udp : UdpSockets) (fds : Table Behind) (t : UdpTransport (Table Behind)) : Prop
  | found (P : Nat) (pair : PosixPair udp P) (opened : OpenedPair fds P t) (zero : AtZero (udp.tried P) P (t.sockets.behind 0))
  | exhausted (none : ∀ Q, Candidate Q → ¬ (udp.Pair Q ∧ udp.tried Q % 2 = 0)) (unopened : Unopened fds t)
    (zero : AtZero (udp.tried 0xFFFE) 0xFFFE (t.sockets.behind 0))

theorem init_posix (free : Nat → Bool) (other : fds.behind 0 = some .other) (bindable : udp.bindable = canBind free fds) :
    PosixEnds udp fds ((UdpTransport.create fds).InitUdpTransport (.posix free)) := by
  have initial : PosixSearched udp fds (0xFFFE - 2 * ((0xFFFE - 6970) / 2)) (.create fds) := by
    refine ⟨⟨rfl, ⟨rfl, rfl⟩, .inl rfl, fun _ _ => rfl, .inl rfl⟩, ?_, fun Q candidate less => ?_⟩
    · show AtZero (udp.tried 6970) 6970 (fds.behind 0)
      rw [other]
      exact .untouched rfl
    · have low := candidate.low
      omega
  have keeps : ∀ P s t, Candidate P → PosixSearched udp fds P s → s.bindPair (.posix free) P = (t, false) →
      PosixSearched udp fds (P + 2) t := by
    intro P s t candidate searched round
    have trial := bindPair_trial free s P
    rw [round] at trial
    exact searched.next other bindable candidate trial
  unfold UdpTransport.InitUdpTransport
  rw [if_neg (show ¬ (UdpTransport.create fds).m_udpRefCount ≠ 0 from not_not_intro rfl)]
  rcases UdpTransport.bindFrom_rule keeps _ (Nat.le_refl _) initial with ⟨P, s, candidate, searched, round⟩ | searched
  · have trial := bindPair_trial free s P
    rw [round] at trial
    obtain ⟨pair, opened, kept⟩ := searched.pair other bindable candidate trial
    refine .found P pair (opened.counted _) ?_
    exact kept.symm ▸ searched.zero
  · refine .exhausted (fun Q candidate => ?_) (searched.unopened.counted _) searched.zero
    have high := candidate.high
    exact searched.none Q candidate (by omega)

/-! ### The pair that is found -/

theorem PosixPair.unique (pair : PosixPair udp P) (pair' : PosixPair udp Q) : P = Q := by
  rcases Nat.lt_trichotomy P Q with less | same | less
  · exact absurd ⟨pair.pair, pair.even⟩ (pair'.least P pair.candidate less)
  · exact same
  · exact absurd ⟨pair'.pair, pair'.even⟩ (pair.least Q pair'.candidate less)

theorem FirstPair.posix (first : FirstPair udp P) (even : udp.tried P % 2 = 0) : PosixPair udp P :=
  ⟨first.candidate, first.pair, even, fun Q candidate less both => first.least Q candidate less both.1⟩

theorem firstPair_exists (candidate : Candidate P) (pair : udp.Pair P) : ∃ Q, FirstPair udp Q := by
  classical
  have some : ∃ Q, Candidate Q ∧ udp.Pair Q := ⟨P, candidate, pair⟩
  obtain ⟨candidate', pair'⟩ := Nat.find_spec some
  exact ⟨_, candidate', pair', fun R candidate less pair => Nat.find_min some less ⟨candidate, pair⟩⟩

/-- Where no port is bound alone, the search comes to a pair with the first port that can be bound. -/
theorem tried_eq_zero_of_bindsPairs (binds : udp.BindsPairs) (low : 6970 ≤ P) (even : P % 2 = 0) (high : P ≤ 0xFFFE)
    (none : ∀ Q, Candidate Q → Q < P → ¬ (udp.Pair Q ∧ udp.tried Q % 2 = 0)) : udp.tried P = 0 := by
  refine (tried_eq_zero low even).mpr fun Q => ?_
  induction Q using Nat.strong_induction_on with
  | _ Q ih =>
    intro low' even' less
    have candidate : Candidate Q := ⟨low', by omega, even'⟩
    have zero : udp.tried Q = 0 :=
      (tried_eq_zero low' even').mpr fun R low'' even'' less' => ih R less' low'' even'' (Nat.lt_trans less' less)
    by_contra can
    have can := eq_true_of_ne_false can
    have alone : ¬ udp.Pair Q := fun pair => none Q candidate less ⟨pair, by rw [zero]⟩
    refine binds Q candidate (fun R first => ?_) ⟨can, eq_false_of_ne_true fun can' => alone ⟨can, can'⟩⟩
    rcases Nat.lt_trichotomy Q R with before | same | behind
    · exact before
    · exact absurd (same ▸ first.pair) alone
    · have cannot := ih R behind first.candidate.low first.candidate.even (Nat.lt_trans behind less)
      rw [first.pair.1] at cannot
      cases cannot

theorem bindsPairs_of_tried (low : 6970 ≤ P) (even : P % 2 = 0) (zero : udp.tried P = 0)
    (inside : ∀ Q, Candidate Q → (∀ R, FirstPair udp R → Q < R) → Q < P) : udp.BindsPairs := by
  intro Q candidate before alone
  have cannot := (tried_eq_zero low even).mp zero Q candidate.low candidate.even (inside Q candidate before)
  rw [alone.1] at cannot
  cases cannot

theorem AtZero.other_iff {x : Option Behind} (zero : AtZero n P x) : x = some .other ↔ n = 0 := by
  cases zero with
  | untouched none => exact iff_of_true rfl none
  | closed odd => exact iff_of_false nofun (by omega)
  | mistaken Q even later less => exact iff_of_false nofun (by omega)

theorem PosixEnds.untouched_iff (ends : PosixEnds udp fds t) : t.sockets.behind 0 = some .other ↔ udp.BindsPairs := by
  cases ends with
  | found P pair opened zero =>
    obtain ⟨candidate, both, -, least⟩ := pair
    refine zero.other_iff.trans ⟨fun none => ?_, fun binds => ?_⟩
    · refine bindsPairs_of_tried candidate.low candidate.even none fun Q candidate' before => before P ?_
      refine ⟨candidate, both, fun R candidate'' less pair => ?_⟩
      have cannot := (tried_eq_zero candidate.low candidate.even).mp none R candidate''.low candidate''.even less
      rw [pair.1] at cannot
      cases cannot
    · have high := candidate.high
      exact tried_eq_zero_of_bindsPairs binds candidate.low candidate.even (by omega) least
  | exhausted none unopened zero =>
    refine zero.other_iff.trans ⟨fun zero => ?_, fun binds => ?_⟩
    · refine bindsPairs_of_tried (by decide) rfl zero fun Q candidate _ => ?_
      have high := candidate.high
      omega
    · exact tried_eq_zero_of_bindsPairs binds (by decide) rfl (Nat.le_refl _) fun Q candidate _ => none Q candidate

/-- The ports of the two searches are the same exactly if the first pair has an even number of ports in front of it. -/
theorem PosixEnds.agrees_iff {st : CStreamer} {k : Nat} (ends : PosixEnds st.udp fds t)
    (allocated : Allocated st k st.InitUdpTransport) (closed : st.m_RtpServerPort = 0 ∧ st.m_RtcpServerPort = 0) :
    (t.m_RtpServerPort, t.m_RtcpServerPort) = (st.InitUdpTransport.m_RtpServerPort, st.InitUdpTransport.m_RtcpServerPort) ↔
      ∀ P, FirstPair st.udp P → st.udp.tried P % 2 = 0 := by
  have port {P Q : Nat} (candidate : Candidate P) (candidate' : Candidate Q) (same : UInt16.ofNat P = UInt16.ofNat Q) : P = Q := by
    have values := congrArg UInt16.toNat same
    rwa [candidate.toNat.1, candidate'.toNat.1] at values
  generalize st.InitUdpTransport = u at allocated
  cases ends with
  | found P pair opened zero =>
    cases allocated with
    | found Q first form =>
      subst form
      rw [opened.ports.1, opened.ports.2]
      constructor
      · intro same R first'
        have here : P = Q := port pair.candidate first.candidate (congrArg Prod.fst same)
        rw [first'.unique first, ← here]
        exact pair.even
      · intro even
        rw [pair.unique (first.posix (even Q first))]
    | exhausted none rtp stale fresh form =>
      obtain ⟨Q, first⟩ := firstPair_exists pair.candidate pair.pair
      exact absurd first (none Q)
  | exhausted none unopened zero =>
    rw [unopened.ports.1, unopened.ports.2]
    cases allocated with
    | found Q first form =>
      subst form
      refine iff_of_false (fun same => ?_) fun even => none Q first.candidate ⟨first.pair, even Q first⟩
      have low := first.candidate.low
      have values : 0 = Q := (congrArg UInt16.toNat (congrArg Prod.fst same)).trans first.candidate.toNat.1
      omega
    | exhausted none' rtp stale fresh form =>
      subst form
      rw [closed.1, closed.2]
      exact iff_of_true rfl fun P first => absurd first (none' P)

end

/-- The first search of a process in which descriptor 0 is something else than a UDP socket, as it is for standard input. It
takes the least pair in front of which an even number of the even ports can be bound; this is the pair that numbered sockets would
give exactly if the first pair is one, and the descriptor 0 is left alone exactly if no port is bound without its neighbour. -/
theorem posix_search (free : Nat → Bool) (fds : Table Behind) (next : Nat) (closed : List Nat) (other : fds.behind 0 = some .other) :
    let udp : UdpSockets := ⟨canBind free fds, next, closed⟩
    let st := (CStreamer.create udp).InitUdpTransport
    let st' := (UdpTransport.create fds).InitUdpTransport (.posix free)
    (∀ P, PosixPair udp P → (st'.m_RtpServerPort.toNat, st'.m_RtcpServerPort.toNat) = (P, P + 1)) ∧
      ((∀ P, ¬ PosixPair udp P) → (st'.m_RtpServerPort, st'.m_RtcpServerPort) = (0, 0)) ∧
      ((st'.m_RtpServerPort, st'.m_RtcpServerPort) = (st.m_RtpServerPort, st.m_RtcpServerPort) ↔
        ∀ P, FirstPair udp P → udp.tried P % 2 = 0) ∧
      (st'.sockets.behind 0 = some .other ↔ udp.BindsPairs) := by
  intro udp st st'
  have ends : PosixEnds udp fds st' := init_posix free other rfl
  obtain ⟨k, allocated⟩ : ∃ k, Allocated (CStreamer.create udp) k st := init_allocated rfl rfl rfl
  refine ⟨fun P pair => ?_, fun none => ?_, ends.agrees_iff allocated ⟨rfl, rfl⟩, ends.untouched_iff⟩
  · cases ends with
    | found Q pair' opened zero =>
      rw [opened.ports.1, opened.ports.2, pair'.unique pair, pair.candidate.toNat.1, pair.candidate.toNat.2]
    | exhausted none unopened zero => exact absurd ⟨pair.pair, pair.even⟩ (none P pair.candidate)
  · cases ends with
    | found Q pair opened zero => exact absurd pair (none Q)
    | exhausted none' unopened zero => rw [unopened.ports.1, unopened.ports.2]

/-- The socket of 6972 is taken for a failure. -/
theorem posix_search_taken6971 :
    let udp : UdpSockets := ⟨canBind taken6971.bindable standardInput, 2, []⟩
    let st := (CStreamer.create udp).InitUdpTransport
    let st' := (UdpTransport.create standardInput).InitUdpTransport (.posix taken6971.bindable)
    standardInput.behind 0 = some .other ∧ st.m_RtpServerPort = 6972 ∧ st'.m_RtpServerPort = 6974 ∧
      (∀ P, PosixPair udp P → (st'.m_RtpServerPort.toNat, st'.m_RtcpServerPort.toNat) = (P, P + 1)) ∧
      ((∀ P, ¬ PosixPair udp P) → (st'.m_RtpServerPort, st'.m_RtcpServerPort) = (0, 0)) ∧
      ((st'.m_RtpServerPort, st'.m_RtcpServerPort) = (st.m_RtpServerPort, st.m_RtcpServerPort) ↔
        ∀ P, FirstPair udp P → udp.tried P % 2 = 0) ∧
      (st'.sockets.behind 0 = some .other ↔ udp.BindsPairs) :=
  ⟨rfl, by decide +kernel, by decide +kernel, posix_search taken6971.bindable standardInput 2 [] rfl⟩

end RtspServer
