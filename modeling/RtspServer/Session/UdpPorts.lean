import Mathlib.Data.List.Count
import RtspServer.Session.State

/-!
# The search for a pair of UDP ports

`InitUdpTransport` binds the first even port that it can bind together with the
port behind it. Where it can bind the first of a pair and not the second, it
closes both handles, and the second one is `NULLSOCKET`.
-/

namespace RtspServer

/-! ### What a search should do -/

namespace UdpSockets

/-- The port and the one behind it can be bound. -/
def Pair (udp : UdpSockets) (P : Nat) : Prop := udp.bindable P = true ∧ udp.bindable (P + 1) = true

/-- The port can be bound, and the one behind it cannot. -/
def Stranded (udp : UdpSockets) (P : Nat) : Prop := udp.bindable P = true ∧ udp.bindable (P + 1) = false

/-- The handle `h` was opened on the way from `udp` to `udp'`. -/
def Opened (udp udp' : UdpSockets) (h : Nat) : Prop := udp.next < h ∧ h ≤ udp'.next

instance (udp udp' : UdpSockets) (h : Nat) : Decidable (udp.Opened udp' h) :=
  inferInstanceAs (Decidable (_ ∧ _))

end UdpSockets

/-- The even ports of the range. -/
structure Candidate (P : Nat) : Prop where
  low : 6970 ≤ P
  high : P ≤ 65532
  even : P % 2 = 0

/-- The least candidate that can be bound with the port behind it. -/
structure FirstPair (udp : UdpSockets) (P : Nat) : Prop where
  candidate : Candidate P
  pair : udp.Pair P
  least : ∀ Q, Candidate Q → Q < P → ¬ udp.Pair Q

/-- The search from `st` comes to the port `P` in the state `s`. -/
inductive Searching (st : CStreamer) : Nat → CStreamer → Prop where
  | start : Searching st 6970 st
  | next {P s s'} : Searching st P s → P < 0xFFFE → s.bindPair P = (s', false) → Searching st (P + 2) s'

/-- The streamer has the ports `P` and `P + 1`, and the handles that were opened for them. -/
structure KeepsPair (st : CStreamer) (P : Nat) (st' : CStreamer) : Prop where
  rtpPort : st'.m_RtpServerPort.toNat = P
  rtcpPort : st'.m_RtcpServerPort.toNat = P + 1
  handles : ∃ s udp, Searching st P s ∧ s.udp.udpsocketcreate P = (st'.m_RtpSocket, udp) ∧
    udp.udpsocketcreate (P + 1) = (st'.m_RtcpSocket, st'.udp)

structure Unbound (st : CStreamer) : Prop where
  rtp : st.m_RtpSocket = NULLSOCKET
  rtcp : st.m_RtcpSocket = NULLSOCKET
  rtpPort : st.m_RtpServerPort = 0
  rtcpPort : st.m_RtcpServerPort = 0

/-- Each handle that was opened and not kept is closed once, and nothing else is closed. -/
def ClosesOnce (st st' : CStreamer) : Prop :=
  ∃ closed, st'.udp.closed = st.udp.closed ++ closed ∧ ∀ h, closed.count h =
    if st.udp.Opened st'.udp h ∧ h ≠ st'.m_RtpSocket ∧ h ≠ st'.m_RtcpSocket then 1 else 0

/-- What the allocation of a pair is to do. -/
structure Allocates (st st' : CStreamer) : Prop where
  found : ∀ P, FirstPair st.udp P → KeepsPair st P st'
  exhausted : (∀ P, ¬ FirstPair st.udp P) → Unbound st'
  closes : ClosesOnce st st'

/-! ### A round -/

theorem bindPair_cases (s : CStreamer) (P : Nat) :
    s.udp.bindable P = false ∧ s.bindPair P = ({ s with m_RtpSocket := NULLSOCKET }, false) ∨
    s.udp.Stranded P ∧ s.bindPair P =
      ({ s with
        m_RtpSocket := s.udp.next + 1, m_RtcpSocket := NULLSOCKET
        udp := { s.udp with next := s.udp.next + 1, closed := s.udp.closed ++ [s.udp.next + 1, NULLSOCKET] } }, false) ∨
    s.udp.Pair P ∧ s.bindPair P =
      ({ s with
        m_RtpSocket := s.udp.next + 1, m_RtcpSocket := s.udp.next + 2
        m_RtpServerPort := UInt16.ofNat P, m_RtcpServerPort := UInt16.ofNat (P + 1)
        udp := { s.udp with next := s.udp.next + 2 } }, true) := by
  unfold CStreamer.bindPair UdpSockets.udpsocketcreate UdpSockets.udpsocketclose
  cases first : s.udp.bindable P with
  | false => exact .inl ⟨rfl, rfl⟩
  | true =>
    have fresh : s.udp.next + 1 ≠ NULLSOCKET := Nat.add_one_ne_zero _
    cases second : s.udp.bindable (P + 1) with
    | false =>
      refine .inr (.inl ⟨⟨first, second⟩, ?_⟩)
      simp only [if_true, fresh, ne_eq, not_false_eq_true, second, Bool.false_eq_true, if_false, not_true_eq_false,
        List.append_assoc, List.cons_append, List.nil_append]
    | true =>
      refine .inr (.inr ⟨⟨first, second⟩, ?_⟩)
      have fresh' : s.udp.next + 1 + 1 ≠ NULLSOCKET := Nat.add_one_ne_zero _
      simp only [if_true, fresh, ne_eq, not_false_eq_true, second, fresh']

/-! ### The rounds before the pair -/

/-- What `k` rounds close that bind the first port of a pair only. -/
def closes (next : Nat) : Nat → List Nat
  | 0 => []
  | k + 1 => closes next k ++ [next + k + 1, NULLSOCKET]

theorem closes_count (next k h : Nat) : (closes next k).count h =
    (if next < h ∧ h ≤ next + k then 1 else 0) + if h = NULLSOCKET then k else 0 := by
  induction k with
  | zero =>
    rw [closes, List.count_nil, if_neg (by omega), ite_self]
  | succ k ih =>
    rw [closes, List.count_append, ih, List.count_cons, List.count_cons, List.count_nil]
    simp only [beq_iff_eq, NULLSOCKET]
    grind

/-- The search has come to `P` after `k` rounds that bound the first port only. -/
structure Searched (st : CStreamer) (P k : Nat) (s : CStreamer) : Prop where
  low : 6970 ≤ P
  high : P ≤ 0xFFFE
  even : P % 2 = 0
  noPair : ∀ Q, Candidate Q → Q < P → ¬ st.udp.Pair Q
  udp : s.udp = { st.udp with
    next := st.udp.next + k, closed := st.udp.closed ++ closes st.udp.next k }
  stranded : k = 0 ↔ ∀ Q, Candidate Q → Q < P → ¬ st.udp.Stranded Q
  ports : s.m_RtpServerPort = st.m_RtpServerPort ∧ s.m_RtcpServerPort = st.m_RtcpServerPort
  sockets : k = 0 → st.m_RtpSocket = NULLSOCKET →
    s.m_RtpSocket = NULLSOCKET ∧ s.m_RtcpSocket = st.m_RtcpSocket

section

variable {st s s' : CStreamer} {P k : Nat}

theorem Searched.candidate (searched : Searched st P k s) (lt : P < 0xFFFE) : Candidate P := by
  have low := searched.low
  have even := searched.even
  exact ⟨low, by omega, even⟩

theorem candidate_succ {p : Nat → Prop} (candidate : Candidate P) :
    (∀ Q, Candidate Q → Q < P + 2 → ¬ p Q) ↔ (∀ Q, Candidate Q → Q < P → ¬ p Q) ∧ ¬ p P := by
  constructor
  · intro all
    exact ⟨fun Q c lt => all Q c (by omega), all P candidate (by omega)⟩
  · intro both Q c lt
    obtain ⟨below, here⟩ := both
    by_cases same : Q = P
    · rw [same]
      exact here
    · have even := candidate.even
      have even' := c.even
      exact below Q c (by omega)

theorem searched_start (st : CStreamer) : Searched st 6970 0 st where
  low := Nat.le_refl _
  high := by decide
  even := rfl
  noPair Q c lt := absurd c.low (by omega)
  udp := by rw [closes, List.append_nil]; rfl
  stranded := iff_of_true rfl fun Q c lt => absurd c.low (by omega)
  ports := ⟨rfl, rfl⟩
  sockets _ null := ⟨null, rfl⟩

theorem searched_step (searched : Searched st P k s) (lt : P < 0xFFFE) (round : s.bindPair P = (s', false)) :
    ∃ k', Searched st (P + 2) k' s' := by
  have candidate := searched.candidate lt
  have low := searched.low
  have even := searched.even
  have high : P + 2 ≤ 0xFFFE := by
    omega
  have same : s.udp.bindable = st.udp.bindable := by
    rw [searched.udp]
  rcases bindPair_cases s P with ⟨busy, forms⟩ | ⟨alone, forms⟩ | ⟨-, forms⟩
  · obtain ⟨rfl, -⟩ := Prod.mk.inj (forms.symm.trans round)
    rw [same] at busy
    refine ⟨k, by omega, high, by omega, ?_, searched.udp, ?_, searched.ports, ?_⟩
    · rw [candidate_succ candidate]
      exact ⟨searched.noPair, fun pair => by rw [pair.1] at busy; cases busy⟩
    · rw [candidate_succ candidate, searched.stranded]
      exact (and_iff_left fun alone => by rw [alone.1] at busy; cases busy).symm
    · intro none null
      exact ⟨rfl, (searched.sockets none null).2⟩
  · obtain ⟨rfl, -⟩ := Prod.mk.inj (forms.symm.trans round)
    have alone : st.udp.Stranded P := by
      unfold UdpSockets.Stranded
      rw [← same]
      exact alone
    refine ⟨k + 1, by omega, high, by omega, ?_, ?_, ?_, searched.ports, ?_⟩
    · rw [candidate_succ candidate]
      exact ⟨searched.noPair, fun pair => by have second := pair.2; rw [alone.2] at second; cases second⟩
    · simp only [searched.udp, closes, List.append_assoc, Nat.add_assoc]
    · rw [candidate_succ candidate]
      exact iff_of_false (Nat.add_one_ne_zero k) fun both => both.2 alone
    · intro none
      cases none
  · cases forms.symm.trans round

theorem searching_searched (searching : Searching st P s) : ∃ k, Searched st P k s := by
  induction searching with
  | start => exact ⟨0, searched_start st⟩
  | next _ lt round ih =>
    obtain ⟨k, searched⟩ := ih
    exact searched_step searched lt round

end

theorem bindFrom_ends {st s : CStreamer} (n : Nat) (le : 2 * n ≤ 0xFFFE) (searching : Searching st (0xFFFE - 2 * n) s) :
    (∃ P s', P < 0xFFFE ∧ Searching st P s' ∧ s'.bindPair P = (CStreamer.bindFrom n s, true)) ∨
      Searching st 0xFFFE (CStreamer.bindFrom n s) := by
  induction n generalizing s with
  | zero => exact .inr searching
  | succ n ih =>
    rw [CStreamer.bindFrom]
    cases round : s.bindPair (0xFFFE - 2 * (n + 1)) with
    | mk s' done =>
      cases done with
      | true => exact .inl ⟨_, s, by omega, searching, round⟩
      | false =>
        apply ih (by omega)
        have next := Searching.next searching (by omega) round
        rwa [show 0xFFFE - 2 * (n + 1) + 2 = 0xFFFE - 2 * n by omega] at next

/-! ### The search as a whole -/

/-- No candidate that is tried before the first pair is bound alone. Where there is no pair, every candidate is tried. -/
def UdpSockets.BindsPairs (udp : UdpSockets) : Prop :=
  ∀ Q, Candidate Q → (∀ P, FirstPair udp P → Q < P) → ¬ udp.Stranded Q

theorem FirstPair.unique {udp : UdpSockets} {P Q : Nat} (first : FirstPair udp P) (other : FirstPair udp Q) : P = Q := by
  rcases Nat.lt_trichotomy P Q with lt | same | lt
  · exact absurd first.pair (other.least P first.candidate lt)
  · exact same
  · exact absurd other.pair (first.least Q other.candidate lt)

/-- How the search ends: in the round of the first pair, or without a pair. -/
inductive Ends (st : CStreamer) (k : Nat) (t : CStreamer) : Prop where
  | found (P : Nat) (first : FirstPair st.udp P) (keeps : KeepsPair st P t)
      (stranded : k = 0 ↔ ∀ Q, Candidate Q → Q < P → ¬ st.udp.Stranded Q)
      (rtp : t.m_RtpSocket = st.udp.next + k + 1) (rtcp : t.m_RtcpSocket = st.udp.next + k + 2)
      (next : t.udp.next = st.udp.next + k + 2) (closed : t.udp.closed = st.udp.closed ++ closes st.udp.next k)
  | exhausted (none : ∀ P, ¬ FirstPair st.udp P) (searched : Searched st 0xFFFE k t)

section

variable {st s t : CStreamer} {P k : Nat}

theorem ends_found (searching : Searching st P s) (lt : P < 0xFFFE) (round : s.bindPair P = (t, true)) :
    ∃ k, Ends st k t := by
  obtain ⟨k, searched⟩ := searching_searched searching
  have low := searched.low
  have same : s.udp.bindable = st.udp.bindable := by
    rw [searched.udp]
  rcases bindPair_cases s P with ⟨-, forms⟩ | ⟨-, forms⟩ | ⟨pair, forms⟩
  · cases forms.symm.trans round
  · cases forms.symm.trans round
  obtain ⟨rfl, -⟩ := Prod.mk.inj (forms.symm.trans round)
  have next : s.udp.next = st.udp.next + k := by
    rw [searched.udp]
  have first : FirstPair st.udp P := by
    refine ⟨searched.candidate lt, ?_, searched.noPair⟩
    unfold UdpSockets.Pair
    rw [← same]
    exact pair
  refine ⟨k, .found P first ⟨?_, ?_, ?_⟩ searched.stranded ?_ ?_ ?_ ?_⟩
  · exact UInt16.toNat_ofNat_of_lt' (by simp only [UInt16.size]; omega)
  · exact UInt16.toNat_ofNat_of_lt' (by simp only [UInt16.size]; omega)
  · refine ⟨s, { s.udp with next := s.udp.next + 1 }, searching, ?_, ?_⟩
    · rw [UdpSockets.udpsocketcreate, if_pos pair.1]
    · rw [UdpSockets.udpsocketcreate, if_pos pair.2]
  · rw [next]
  · rw [next]
  · show s.udp.next + 2 = _
    rw [next]
  · show s.udp.closed = _
    rw [searched.udp]

theorem ends_bindFrom (st : CStreamer) : ∃ k, Ends st k (CStreamer.bindFrom ((0xFFFE - 6970) / 2) st) := by
  have initial : Searching st (0xFFFE - 2 * ((0xFFFE - 6970) / 2)) st := .start
  rcases bindFrom_ends ((0xFFFE - 6970) / 2) (by decide) initial with
    ⟨P, s, lt, searching, round⟩ | searching
  · exact ends_found searching lt round
  · obtain ⟨k, searched⟩ := searching_searched searching
    refine ⟨k, .exhausted (fun P first => ?_) searched⟩
    have high := first.candidate.high
    exact searched.noPair P first.candidate (by omega) first.pair

/-- A round that binds one port alone closes `NULLSOCKET`. -/
theorem closesOnce_zero (closed : t.udp.closed = st.udp.closed ++ closes st.udp.next k) (once : ClosesOnce st t) :
    k = 0 := by
  obtain ⟨log, same, counts⟩ := once
  obtain rfl := List.append_cancel_left (closed.symm.trans same)
  have null := counts NULLSOCKET
  rw [closes_count, if_pos rfl, if_neg (fun both => Nat.not_lt_zero _ both.1),
    if_neg (fun both => Nat.not_lt_zero _ both.1.1), Nat.zero_add] at null
  exact null

theorem closesOnce_nil (closed : t.udp.closed = st.udp.closed)
    (kept : ∀ h, st.udp.Opened t.udp h → h = t.m_RtpSocket ∨ h = t.m_RtcpSocket) : ClosesOnce st t := by
  refine ⟨[], by rw [closed, List.append_nil], fun h => ?_⟩
  rw [List.count_nil, if_neg]
  intro lost
  obtain ⟨opened, notRtp, notRtcp⟩ := lost
  rcases kept h opened with same | same
  · exact notRtp same
  · exact notRtcp same

/-- `k` counts the candidates bound alone. -/
theorem Ends.bindsPairs_iff (ends : Ends st k t) : st.udp.BindsPairs ↔ k = 0 := by
  cases ends with
  | found P first _ stranded =>
    rw [stranded]
    constructor
    · intro binds Q candidate lt
      exact binds Q candidate fun P' first' => first.unique first' ▸ lt
    · intro alone Q candidate lt
      exact alone Q candidate (lt P first)
  | exhausted none searched =>
    rw [searched.stranded]
    constructor
    · intro binds Q candidate _
      exact binds Q candidate fun P first => absurd first (none P)
    · intro alone Q candidate _
      have high := candidate.high
      exact alone Q candidate (by omega)

theorem Ends.allocates_iff (ends : Ends st k t) (rtp : st.m_RtpSocket = NULLSOCKET) (rtcp : st.m_RtcpSocket = NULLSOCKET) :
    Allocates st t ↔ st.udp.BindsPairs ∧
      ((∃ P, FirstPair st.udp P) ∨ st.m_RtpServerPort = 0 ∧ st.m_RtcpServerPort = 0) := by
  rw [ends.bindsPairs_iff]
  cases ends with
  | found P first keeps stranded rtpIs rtcpIs next closed =>
    constructor
    · intro allocates
      exact ⟨closesOnce_zero closed allocates.closes, .inl ⟨P, first⟩⟩
    · intro both
      obtain ⟨rfl, -⟩ := both
      refine ⟨fun P' first' => first.unique first' ▸ keeps, fun none => absurd first (none P), ?_⟩
      apply closesOnce_nil
      · rw [closed, closes, List.append_nil]
      · intro h opened
        obtain ⟨above, below⟩ := opened
        rw [rtpIs, rtcpIs]
        omega
  | exhausted none searched =>
    have closed : t.udp.closed = st.udp.closed ++ closes st.udp.next k := by
      rw [searched.udp]
    rw [← searched.ports.1, ← searched.ports.2]
    constructor
    · intro allocates
      have unbound := allocates.exhausted none
      exact ⟨closesOnce_zero closed allocates.closes, .inr ⟨unbound.rtpPort, unbound.rtcpPort⟩⟩
    · intro both
      obtain ⟨rfl, ports⟩ := both
      have ports := ports.resolve_left fun found => found.elim none
      have sockets := searched.sockets rfl rtp
      refine ⟨fun P first => absurd first (none P),
        fun _ => ⟨sockets.1, sockets.2.trans rtcp, ports.1, ports.2⟩, ?_⟩
      apply closesOnce_nil
      · rw [closed, closes, List.append_nil]
      · intro h opened
        obtain ⟨above, below⟩ := opened
        rw [searched.udp] at below
        exact absurd above (Nat.not_lt.mpr below)

theorem Ends.closes_handles (ends : Ends st k t) : ∃ closed, t.udp.closed = st.udp.closed ++ closed ∧
    ∀ h, h ≠ NULLSOCKET → closed.count h ≤ 1 ∧ (h ∈ closed ↔ st.udp.Opened t.udp h ∧
      ¬ ((∃ P, FirstPair st.udp P) ∧ (h = t.m_RtpSocket ∨ h = t.m_RtcpSocket))) := by
  have counted : ∀ h, h ≠ NULLSOCKET →
      (closes st.udp.next k).count h = if st.udp.next < h ∧ h ≤ st.udp.next + k then 1 else 0 := by
    intro h handle
    rw [closes_count, if_neg handle, Nat.add_zero]
  have once : ∀ h, h ≠ NULLSOCKET → (closes st.udp.next k).count h ≤ 1 := by
    intro h handle
    rw [counted h handle]
    split <;> omega
  have closed_iff : ∀ h, h ≠ NULLSOCKET →
      (h ∈ closes st.udp.next k ↔ st.udp.next < h ∧ h ≤ st.udp.next + k) := by
    intro h handle
    rw [← List.count_pos_iff, counted h handle]
    split <;> simp [*]
  refine ⟨closes st.udp.next k, ?_, fun h handle => ⟨once h handle, ?_⟩⟩
  · cases ends with
    | found P first keeps stranded rtpIs rtcpIs next closed => exact closed
    | exhausted none searched => rw [searched.udp]
  rw [closed_iff h handle]
  unfold UdpSockets.Opened
  cases ends with
  | found P first keeps stranded rtpIs rtcpIs next closed =>
    rw [next, rtpIs, rtcpIs, and_iff_right (Exists.intro P first)]
    omega
  | exhausted none searched =>
    rw [searched.udp, and_iff_left fun kept => kept.1.elim none]

end

/-! ### The allocation -/

section

variable {st : CStreamer}

theorem Allocates.withCount {t : CStreamer} (h : Allocates st t) (n : Int) : Allocates st { t with m_udpRefCount := n } where
  found P first :=
    have keeps := h.found P first
    ⟨keeps.rtpPort, keeps.rtcpPort, keeps.handles⟩
  exhausted none :=
    have unbound := h.exhausted none
    ⟨unbound.rtp, unbound.rtcp, unbound.rtpPort, unbound.rtcpPort⟩
  closes := h.closes

theorem init_ends (idle : st.m_udpRefCount = 0) : ∃ k t, Ends st k t ∧ st.InitUdpTransport.udp = t.udp ∧
    st.InitUdpTransport.m_RtpSocket = t.m_RtpSocket ∧ st.InitUdpTransport.m_RtcpSocket = t.m_RtcpSocket ∧
    (Allocates st st.InitUdpTransport ↔ Allocates st t) := by
  obtain ⟨k, ends⟩ := ends_bindFrom st
  rw [CStreamer.InitUdpTransport, if_neg (not_not_intro idle)]
  refine ⟨k, _, ends, rfl, rfl, rfl, ?_, ?_⟩
  · intro allocates
    exact allocates.withCount (CStreamer.bindFrom ((0xFFFE - 6970) / 2) st).m_udpRefCount
  · intro allocates
    exact allocates.withCount _

/-- Every handle that was opened is kept or closed once, whatever ports are free. -/
theorem init_closes_handles (idle : st.m_udpRefCount = 0) :
    ∃ closed, st.InitUdpTransport.udp.closed = st.udp.closed ++ closed ∧
      ∀ h, h ≠ NULLSOCKET → closed.count h ≤ 1 ∧ (h ∈ closed ↔ st.udp.Opened st.InitUdpTransport.udp h ∧
        ¬ ((∃ P, FirstPair st.udp P) ∧ (h = st.InitUdpTransport.m_RtpSocket ∨ h = st.InitUdpTransport.m_RtcpSocket))) := by
  obtain ⟨k, t, ends, udp, rtp, rtcp, -⟩ := init_ends idle
  rw [udp, rtp, rtcp]
  exact ends.closes_handles

/-- The allocation is right exactly where no port is bound alone on the way. Without a pair the server ports
stay as they are. -/
theorem init_allocates_iff (idle : st.m_udpRefCount = 0) (rtp : st.m_RtpSocket = NULLSOCKET)
    (rtcp : st.m_RtcpSocket = NULLSOCKET) : Allocates st st.InitUdpTransport ↔ st.udp.BindsPairs ∧
      ((∃ P, FirstPair st.udp P) ∨ st.m_RtpServerPort = 0 ∧ st.m_RtcpServerPort = 0) := by
  obtain ⟨k, t, ends, -, -, -, same⟩ := init_ends idle
  rw [same]
  exact ends.allocates_iff rtp rtcp

end

def taken6971 : UdpSockets := ⟨fun port => port != 6971, 2, []⟩

theorem init_allocates_iff_taken : (CStreamer.create taken6971).m_udpRefCount = 0 ∧
    (CStreamer.create taken6971).m_RtpSocket = NULLSOCKET ∧ (CStreamer.create taken6971).m_RtcpSocket = NULLSOCKET ∧
    (Allocates (CStreamer.create taken6971) (CStreamer.create taken6971).InitUdpTransport ↔ taken6971.BindsPairs ∧
      ((∃ P, FirstPair taken6971 P) ∨ (CStreamer.create taken6971).m_RtpServerPort = 0 ∧
        (CStreamer.create taken6971).m_RtcpServerPort = 0)) :=
  ⟨rfl, rfl, rfl, init_allocates_iff rfl rfl rfl⟩

/-- Port 6970 is bound, 6971 is not, and the search closes `NULLSOCKET` on its way to 6972. -/
theorem not_allocates_taken : ¬ Allocates (CStreamer.create taken6971) (CStreamer.create taken6971).InitUdpTransport := by
  intro allocates
  have idle : (CStreamer.create taken6971).m_udpRefCount = 0 := rfl
  obtain ⟨k, t, ends, -, -, -, same⟩ := init_ends idle
  have binds := ((ends.allocates_iff rfl rfl).mp (same.mp allocates)).1
  apply binds 6970 ⟨Nat.le_refl _, by decide, rfl⟩ ?_ ⟨rfl, rfl⟩
  intro P first
  refine Nat.lt_of_le_of_ne first.candidate.low fun here => ?_
  have second := first.pair.2
  rw [← here] at second
  cases second

end RtspServer
