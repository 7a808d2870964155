import RtspServer.Session.RefCount
import RtspServer.Session.UdpPorts

/-!
# The UDP handles over a run

Every handle that the streamer opens is held or was closed, in every state of
every run and whatever ports can be bound. A handle is closed twice only if the
search for ports ends with the first port of the last pair bound alone.
-/

namespace RtspServer

/-- The last candidate is not bound alone, or the search does not come to it. -/
def UdpSockets.EndsClean (udp : UdpSockets) : Prop := (∃ P, FirstPair udp P) ∨ ¬ udp.Stranded 65532

/-- The handles closed on the way to `st`, and those it holds, against those opened. -/
structure Ledger (start : UdpSockets) (st : CStreamer) (closed : List Nat) : Prop where
  log : st.udp.closed = start.closed ++ closed
  accounted : ∀ h, h ≠ NULLSOCKET → (h ∈ closed ∨ h ∈ [st.m_RtpSocket, st.m_RtcpSocket] ↔ start.Opened st.udp h)
  once : start.EndsClean → ∀ h, h ≠ NULLSOCKET →
    closed.count h + [st.m_RtpSocket, st.m_RtcpSocket].count h = if start.Opened st.udp h then 1 else 0

/-- What holds of the UDP transport between two calls. -/
structure Tracked (start : UdpSockets) (st : CStreamer) : Prop where
  bindable : st.udp.bindable = start.bindable
  grows : start.next ≤ st.udp.next
  idle : st.m_udpRefCount ≤ 0 → Unbound st
  found : 0 < st.m_udpRefCount → ∀ P, FirstPair start P →
    st.m_RtpSocket ≠ NULLSOCKET ∧ st.m_RtcpSocket ≠ NULLSOCKET ∧
      st.m_RtpServerPort = UInt16.ofNat P ∧ st.m_RtcpServerPort = UInt16.ofNat (P + 1)
  exhausted : (∀ P, ¬ FirstPair start P) →
    st.m_RtcpSocket = NULLSOCKET ∧ st.m_RtpServerPort = 0 ∧ st.m_RtcpServerPort = 0
  ledger : ∃ closed, Ledger start st closed

/-! ### The allocation -/

section

variable {st s s' t : CStreamer} {P : Nat}

/-- The pair in front of `P` was tried, and only its first port bound. -/
def BoundAlone (udp : UdpSockets) (P : Nat) : Prop := 6970 < P ∧ udp.Stranded (P - 2)

/-- The search so far has changed the handles only. It holds the first handle of a pair that was bound alone. -/
structure Sought (st : CStreamer) (P k : Nat) (s : CStreamer) : Prop where
  form : s = { st with
    m_RtpSocket := s.m_RtpSocket
    udp := { st.udp with next := st.udp.next + k, closed := st.udp.closed ++ closes st.udp.next k } }
  stale : BoundAlone st.udp P → 0 < k ∧ s.m_RtpSocket = st.udp.next + k
  fresh : ¬ BoundAlone st.udp P → s.m_RtpSocket = NULLSOCKET

theorem Candidate.toNat (candidate : Candidate P) :
    (UInt16.ofNat P).toNat = P ∧ (UInt16.ofNat (P + 1)).toNat = P + 1 := by
  have high := candidate.high
  constructor <;> exact UInt16.toNat_ofNat_of_lt' (by simp only [UInt16.size]; omega)

theorem boundAlone_succ {udp : UdpSockets} (low : 6970 ≤ P) : BoundAlone udp (P + 2) ↔ udp.Stranded P :=
  and_iff_right (by omega)

theorem searching_sought (rtp : st.m_RtpSocket = NULLSOCKET) (rtcp : st.m_RtcpSocket = NULLSOCKET)
    (searching : Searching st P s) : ∃ k, Sought st P k s := by
  induction searching with
  | start => exact ⟨0, by rw [closes, List.append_nil]; rfl, fun late => absurd late.1 (Nat.lt_irrefl _), fun _ => rtp⟩
  | @next P s s' before lt round ih =>
    obtain ⟨k, form, -, -⟩ := ih
    obtain ⟨_, searched⟩ := searching_searched before
    have same : s.udp.bindable = st.udp.bindable := by rw [form]
    have last : BoundAlone st.udp (P + 2) ↔ st.udp.Stranded P := boundAlone_succ searched.low
    rcases bindPair_cases s P with ⟨busy, forms⟩ | ⟨alone, forms⟩ | ⟨-, forms⟩
    · obtain ⟨rfl, -⟩ := Prod.mk.inj (forms.symm.trans round)
      refine ⟨k, by rw [form], fun late => ?_, fun _ => rfl⟩
      rw [same] at busy
      cases busy.symm.trans (last.mp late).1
    · obtain ⟨rfl, -⟩ := Prod.mk.inj (forms.symm.trans round)
      have alone : st.udp.Stranded P := by
        unfold UdpSockets.Stranded
        rw [← same]
        exact alone
      refine ⟨k + 1, ?_, fun _ => ⟨Nat.succ_pos k, ?_⟩, fun other => absurd (last.mpr alone) other⟩
      · rw [form]
        simp only [closes, rtcp, List.append_assoc, Nat.add_assoc]
      · rw [form]
        rfl
    · cases forms.symm.trans round

/-- How the allocation ends, with all that it changes. -/
inductive Allocated (st : CStreamer) (k : Nat) (t : CStreamer) : Prop
  | found (P : Nat) (first : FirstPair st.udp P) (form : t = { st with
      m_RtpSocket := st.udp.next + k + 1, m_RtcpSocket := st.udp.next + k + 2
      m_RtpServerPort := UInt16.ofNat P, m_RtcpServerPort := UInt16.ofNat (P + 1), m_udpRefCount := 1
      udp := { st.udp with next := st.udp.next + k + 2, closed := st.udp.closed ++ closes st.udp.next k } })
  | exhausted (none : ∀ P, ¬ FirstPair st.udp P) (rtp : Nat)
      (stale : st.udp.Stranded 65532 → 0 < k ∧ rtp = st.udp.next + k) (fresh : ¬ st.udp.Stranded 65532 → rtp = NULLSOCKET)
      (form : t = { st with
        m_RtpSocket := rtp, m_udpRefCount := 1
        udp := { st.udp with next := st.udp.next + k, closed := st.udp.closed ++ closes st.udp.next k } })

theorem init_allocated (idle : st.m_udpRefCount = 0) (rtp : st.m_RtpSocket = NULLSOCKET) (rtcp : st.m_RtcpSocket = NULLSOCKET) :
    ∃ k, Allocated st k st.InitUdpTransport := by
  have initial : Searching st (0xFFFE - 2 * ((0xFFFE - 6970) / 2)) st := .start
  rw [CStreamer.InitUdpTransport, if_neg (not_not_intro idle)]
  rcases bindFrom_ends ((0xFFFE - 6970) / 2) (by decide) initial with ⟨P, s, lt, searching, round⟩ | searching
  · obtain ⟨k, form, -, -⟩ := searching_sought rtp rtcp searching
    obtain ⟨_, searched⟩ := searching_searched searching
    have same : s.udp.bindable = st.udp.bindable := by rw [form]
    rcases bindPair_cases s P with ⟨-, forms⟩ | ⟨-, forms⟩ | ⟨pair, forms⟩
    · exact absurd (Prod.mk.inj (forms.symm.trans round)).2 Bool.false_ne_true
    · exact absurd (Prod.mk.inj (forms.symm.trans round)).2 Bool.false_ne_true
    obtain ⟨found, -⟩ := Prod.mk.inj (forms.symm.trans round)
    have first : FirstPair st.udp P := by
      refine ⟨searched.candidate lt, ?_, searched.noPair⟩
      unfold UdpSockets.Pair
      rw [← same]
      exact pair
    refine ⟨k, .found P first ?_⟩
    rw [← found, form]
    simp only [idle]
    rfl
  · obtain ⟨k, form, stale, fresh⟩ := searching_sought rtp rtcp searching
    obtain ⟨_, searched⟩ := searching_searched searching
    have last : BoundAlone st.udp 0xFFFE ↔ st.udp.Stranded 65532 := boundAlone_succ (by decide)
    refine ⟨k, .exhausted (fun P first => ?_) _ (fun alone => stale (last.mpr alone)) (fun other => fresh (mt last.mp other)) ?_⟩
    · have high := first.candidate.high
      exact searched.noPair P first.candidate (by omega) first.pair
    · rw [form]
      simp only [idle]
      rfl

end

/-! ### The invariant -/

section

variable {start : UdpSockets} {st : CStreamer} {closed : List Nat}

theorem pair_congr {udp udp' : UdpSockets} (same : udp.bindable = udp'.bindable) (P : Nat) : udp.Pair P ↔ udp'.Pair P := by
  unfold UdpSockets.Pair
  rw [same]

theorem stranded_congr {udp udp' : UdpSockets} (same : udp.bindable = udp'.bindable) (P : Nat) :
    udp.Stranded P ↔ udp'.Stranded P := by
  unfold UdpSockets.Stranded
  rw [same]

theorem FirstPair.congr {udp udp' : UdpSockets} {P : Nat} (first : FirstPair udp P) (same : udp.bindable = udp'.bindable) :
    FirstPair udp' P :=
  ⟨first.candidate, (pair_congr same P).mp first.pair, fun Q c lt => mt (pair_congr same Q).mpr (first.least Q c lt)⟩

theorem tracked_create (udp : UdpSockets) (pres stream : Bytes) : Tracked udp ((CStreamer.create udp).setURI pres stream) where
  bindable := rfl
  grows := Nat.le_refl _
  idle _ := ⟨rfl, rfl, rfl, rfl⟩
  found positive := absurd positive (Int.lt_irrefl 0)
  exhausted _ := ⟨rfl, rfl, rfl⟩
  ledger := by
    have null (h : Nat) (handle : h ≠ NULLSOCKET) : h ∉ [NULLSOCKET, NULLSOCKET] := by
      intro member
      rcases List.mem_pair.mp member with same | same <;> exact handle same
    refine ⟨[], (List.append_nil _).symm, fun h handle => ?_, fun _ h handle => ?_⟩
    · refine iff_of_false (fun either => either.elim List.not_mem_nil (null h handle)) fun opened => ?_
      exact absurd (Nat.lt_of_lt_of_le opened.1 opened.2) (Nat.lt_irrefl _)
    · rw [if_neg fun opened => absurd (Nat.lt_of_lt_of_le opened.1 opened.2) (Nat.lt_irrefl _), List.count_nil,
        Nat.zero_add]
      exact List.count_eq_zero_of_not_mem (null h handle)

/-- The handles held are closed, and none is held any more. -/
theorem Ledger.closeBoth (ledger : Ledger start st closed) {st' : CStreamer} (rtp : st'.m_RtpSocket = NULLSOCKET)
    (rtcp : st'.m_RtcpSocket = NULLSOCKET)
    (udp : st'.udp = { st.udp with closed := st.udp.closed ++ [st.m_RtpSocket] ++ [st.m_RtcpSocket] }) :
    Ledger start st' (closed ++ [st.m_RtpSocket, st.m_RtcpSocket]) := by
  have opened (h : Nat) : start.Opened st'.udp h ↔ start.Opened st.udp h := by
    unfold UdpSockets.Opened
    rw [udp]
  have null (h : Nat) (handle : h ≠ NULLSOCKET) : h ∉ [st'.m_RtpSocket, st'.m_RtcpSocket] := by
    rw [rtp, rtcp]
    intro member
    rcases List.mem_pair.mp member with same | same <;> exact handle same
  refine ⟨?_, fun h handle => ?_, fun clean h handle => ?_⟩
  · rw [udp, ledger.log]
    simp only [List.append_assoc, List.cons_append, List.nil_append]
  · rw [opened, ← ledger.accounted h handle, List.mem_append, or_iff_left (null h handle)]
  · simp only [opened]
    rw [← ledger.once clean h handle, List.count_append, List.count_eq_zero_of_not_mem (null h handle), Nat.add_zero]

theorem release_tracked (tracked : Tracked start st) : Tracked start st.ReleaseUdpTransport := by
  obtain ⟨closed, ledger⟩ := tracked.ledger
  unfold CStreamer.ReleaseUdpTransport
  dsimp only
  by_cases last : st.m_udpRefCount - 1 = 0
  · rw [if_pos last]
    exact
      { bindable := tracked.bindable
        grows := tracked.grows
        idle := fun _ => ⟨rfl, rfl, rfl, rfl⟩
        found := fun positive => absurd positive (by show ¬ (0 < st.m_udpRefCount - 1); omega)
        exhausted := fun _ => ⟨rfl, rfl, rfl⟩
        ledger := ⟨_, ledger.closeBoth rfl rfl rfl⟩ }
  · rw [if_neg last]
    refine ⟨tracked.bindable, tracked.grows, fun low => ?_, fun positive => ?_, tracked.exhausted, closed, ?_⟩
    · have low : st.m_udpRefCount - 1 ≤ 0 := low
      have unbound := tracked.idle (by omega)
      exact ⟨unbound.rtp, unbound.rtcp, unbound.rtpPort, unbound.rtcpPort⟩
    · have positive : 0 < st.m_udpRefCount - 1 := positive
      exact tracked.found (by omega)
    · exact ⟨ledger.log, ledger.accounted, ledger.once⟩

theorem closes_mem (next k h : Nat) (handle : h ≠ NULLSOCKET) : h ∈ closes next k ↔ next < h ∧ h ≤ next + k := by
  rw [← List.count_pos_iff, closes_count, if_neg handle, Nat.add_zero]
  split
  · exact iff_of_true Nat.zero_lt_one ‹_›
  · exact iff_of_false (Nat.lt_irrefl 0) ‹_›

theorem Ledger.idle (ledger : Ledger start st closed) (unbound : Unbound st) :
    (∀ h, h ≠ NULLSOCKET → (h ∈ closed ↔ start.Opened st.udp h)) ∧
      (start.EndsClean → ∀ h, h ≠ NULLSOCKET → closed.count h = if start.Opened st.udp h then 1 else 0) := by
  have none (h : Nat) (handle : h ≠ NULLSOCKET) : h ∉ [st.m_RtpSocket, st.m_RtcpSocket] := by
    rw [unbound.rtp, unbound.rtcp]
    intro member
    rcases List.mem_pair.mp member with same | same <;> exact handle same
  refine ⟨fun h handle => ?_, fun clean h handle => ?_⟩
  · rw [← ledger.accounted h handle, or_iff_left (none h handle)]
  · rw [← ledger.once clean h handle, List.count_eq_zero_of_not_mem (none h handle), Nat.add_zero]

theorem Ledger.allocated {t : CStreamer} {k : Nat} (ledger : Ledger start st closed) (unbound : Unbound st)
    (grows : start.next ≤ st.udp.next) (same : st.udp.bindable = start.bindable) (allocated : Allocated st k t) :
    Ledger start t (closed ++ closes st.udp.next k) := by
  obtain ⟨accounted, once⟩ := ledger.idle unbound
  cases allocated with
  | found P first form =>
    subst form
    refine ⟨?_, fun h handle => ?_, fun clean h handle => ?_⟩
    · show st.udp.closed ++ _ = _
      rw [ledger.log, List.append_assoc]
    · rw [List.mem_append, accounted h handle, closes_mem _ _ _ handle, List.mem_pair]
      unfold UdpSockets.Opened
      dsimp only
      omega
    · rw [List.count_append, once clean h handle, closes_count, if_neg handle]
      simp only [List.count_cons, List.count_nil, beq_iff_eq, UdpSockets.Opened]
      grind
  | exhausted none rtp stale fresh form =>
    subst form
    have rtcp : st.m_RtcpSocket = NULLSOCKET := unbound.rtcp
    have either : st.udp.Stranded 65532 ∧ 0 < k ∧ rtp = st.udp.next + k ∨ ¬ st.udp.Stranded 65532 ∧ rtp = NULLSOCKET := by
      by_cases alone : st.udp.Stranded 65532
      · exact .inl ⟨alone, stale alone⟩
      · exact .inr ⟨alone, fresh alone⟩
    refine ⟨?_, fun h handle => ?_, fun clean h handle => ?_⟩
    · show st.udp.closed ++ _ = _
      rw [ledger.log, List.append_assoc]
    · rw [List.mem_append, accounted h handle, closes_mem _ _ _ handle, List.mem_pair]
      unfold UdpSockets.Opened
      dsimp only
      rw [rtcp]
      rcases either with ⟨-, positive, here⟩ | ⟨-, null⟩
      · omega
      · rw [null]
        omega
    · -- The search was exhausted, so the last candidate was not bound alone.
      have other : ¬ st.udp.Stranded 65532 := by
        rcases clean with ⟨P, first⟩ | other
        · exact absurd (first.congr same.symm) (none P)
        · exact mt (stranded_congr same _).mp other
      rw [List.count_append, once clean h handle, closes_count, if_neg handle]
      simp only [List.count_cons, List.count_nil, beq_iff_eq, UdpSockets.Opened, fresh other, rtcp, if_neg (Ne.symm handle)]
      grind

theorem init_tracked (tracked : Tracked start st) : Tracked start st.InitUdpTransport := by
  obtain ⟨closed, ledger⟩ := tracked.ledger
  by_cases idle : st.m_udpRefCount = 0
  · have unbound := tracked.idle (by omega)
    obtain ⟨k, allocated⟩ := init_allocated idle unbound.rtp unbound.rtcp
    have ledger' := ledger.allocated unbound tracked.grows tracked.bindable allocated
    generalize st.InitUdpTransport = t at allocated ledger'
    cases allocated with
    | found P first form =>
      subst form
      have first' := first.congr tracked.bindable
      refine ⟨tracked.bindable, ?_, fun low => absurd (show (1 : Int) ≤ 0 from low) (by decide), fun _ Q other => ?_, fun none => absurd first' (none P),
        _, ledger'⟩
      · have grows := tracked.grows
        show start.next ≤ st.udp.next + k + 2
        omega
      · rw [other.unique first']
        exact ⟨Nat.add_one_ne_zero _, Nat.add_one_ne_zero _, rfl, rfl⟩
    | exhausted none rtp stale fresh form =>
      subst form
      refine ⟨tracked.bindable, Nat.le_trans tracked.grows (Nat.le_add_right _ k), fun low => absurd (show (1 : Int) ≤ 0 from low) (by decide),
        fun _ Q other => absurd (other.congr tracked.bindable.symm) (none Q), fun _ => ?_, _, ledger'⟩
      exact ⟨unbound.rtcp, unbound.rtpPort, unbound.rtcpPort⟩
  · unfold CStreamer.InitUdpTransport
    rw [if_pos idle]
    refine ⟨tracked.bindable, tracked.grows, fun low => ?_, fun positive => ?_, tracked.exhausted, closed, ?_⟩
    · have low : st.m_udpRefCount + 1 ≤ 0 := low
      have unbound := tracked.idle (by omega)
      exact ⟨unbound.rtp, unbound.rtcp, unbound.rtpPort, unbound.rtcpPort⟩
    · have positive : 0 < st.m_udpRefCount + 1 := positive
      exact tracked.found (by omega)
    · exact ⟨ledger.log, ledger.accounted, ledger.once⟩

end

/-! ### A run -/

theorem bindFrom_count (n : Nat) (st : CStreamer) : (CStreamer.bindFrom n st).m_udpRefCount = st.m_udpRefCount := by
  induction n generalizing st with
  | zero => rfl
  | succ n ih =>
    have round : (st.bindPair (0xFFFE - 2 * (n + 1))).1.m_udpRefCount = st.m_udpRefCount := by
      rcases bindPair_cases st (0xFFFE - 2 * (n + 1)) with ⟨-, forms⟩ | ⟨-, forms⟩ | ⟨-, forms⟩ <;> rw [forms]
    rw [CStreamer.bindFrom]
    cases found : st.bindPair (0xFFFE - 2 * (n + 1)) with
    | mk s done =>
      rw [found] at round
      cases done with
      | true => exact round
      | false => exact (ih s).trans round

theorem init_refCount (st : CStreamer) : st.InitUdpTransport.m_udpRefCount = st.m_udpRefCount + 1 := by
  unfold CStreamer.InitUdpTransport
  dsimp only
  split
  · rfl
  · rw [bindFrom_count]

/-- The UDP SETUP requests accepted so far, less the sessions deleted. -/
def History.transports (h : History) : Int :=
  (h.log.countP fun e => e.sent.any Response.isUdpSetup) - (h.log.countP fun e => e.session.m_stopped)

structure UdpLedger (udp : UdpSockets) (h : History) : Prop where
  count : h.server.streamer.m_udpRefCount = h.transports
  tracked : Tracked udp h.server.streamer

theorem udpLedger_step {udp : UdpSockets} {x y : History} {e : Event} (ledger : UdpLedger udp x) (taken : x.step e = .ok y) :
    UdpLedger udp y := by
  obtain ⟨count, tracked⟩ := ledger
  rcases History.step_cases taken with ⟨random, -, rfl⟩ | ⟨i, read, -, -, rfl⟩ | ⟨i, read, t, -, member, turn, rfl⟩
  · exact ⟨count, tracked⟩
  · exact ⟨count, tracked⟩
  have after : Tracked udp t.streamer ∧ t.streamer.m_udpRefCount =
      x.server.streamer.m_udpRefCount + if t.sent.any Response.isUdpSetup then 1 else 0 := by
    rcases turn_udp member turn with ⟨setup, opened, -⟩ | ⟨other, kept⟩
    · rw [opened, setup]
      exact ⟨init_tracked tracked, init_refCount _⟩
    · rw [kept, other]
      exact ⟨tracked, (Int.add_zero _).symm⟩
  have total : History.transports ⟨x.server.settle i t, ⟨i, read, t.session, t.sent⟩ :: x.log⟩ =
      x.transports + (if t.sent.any Response.isUdpSetup then 1 else 0) - if t.session.m_stopped then 1 else 0 := by
    unfold History.transports
    simp only [List.countP_cons]
    grind
  cases stopped : t.session.m_stopped with
  | true =>
    obtain ⟨streamer, -, -⟩ := Server.settle_stopped x.server i stopped
    refine ⟨?_, ?_⟩
    · rw [total, streamer, release_count, after.2, count, stopped, if_pos rfl]
    · rw [streamer]
      exact release_tracked after.1
  | false =>
    obtain ⟨streamer, -, -⟩ := Server.settle_going x.server i stopped
    refine ⟨?_, ?_⟩
    · rw [total, streamer, after.2, count, stopped, if_neg Bool.false_ne_true, Int.sub_zero]
    · rw [streamer]
      exact after.1

/-- In every state of every run the count is the number of UDP SETUPs accepted less the number of sessions deleted, and
the handles are accounted for, whatever ports can be bound. -/
theorem udp_ledger {udp : UdpSockets} {pres stream : Bytes} {events : List Event} {h : History}
    (run : Runs.run History.step events (History.start udp pres stream) = .ok h) : UdpLedger udp h :=
  Runs.run_invariant udpLedger_step ⟨rfl, tracked_create udp pres stream⟩ run

def setupBytes : Bytes :=
  ascii "SETUP rtsp://h/p/s RTSP/1.0\r\nCSeq: 1\r\nTransport: RTP/AVP;unicast;client_port=5000-5001\r\n\r\n"

def setupClose : List Event := [.addSession 5, .read 0 (.data setupBytes), .read 0 .closed]

/-- The ledger with a port that is bound alone on the way, behind a SETUP and behind the disconnect. -/
theorem udp_ledger_setupClose :
    let start := History.start taken6971 (ascii "live") (ascii "1")
    (∃ h, Runs.run History.step (setupClose.take 2) start = .ok h ∧
      (h.transports, h.server.streamer.m_RtpServerPort, h.server.streamer.udp.closed) = (1, 6972, [3, NULLSOCKET]) ∧
      UdpLedger taken6971 h) ∧
    ∃ h, Runs.run History.step setupClose start = .ok h ∧
      (h.transports, h.server.streamer.m_RtpServerPort, h.server.streamer.udp.closed) = (0, 0, [3, NULLSOCKET, 4, 5]) ∧
      UdpLedger taken6971 h := by
  intro start
  have setup : (Runs.run History.step (setupClose.take 2) start).toOption.map
      (fun h => (h.transports, h.server.streamer.m_RtpServerPort, h.server.streamer.udp.closed)) =
        some (1, 6972, [3, NULLSOCKET]) := by decide +kernel
  have closed : (Runs.run History.step setupClose start).toOption.map
      (fun h => (h.transports, h.server.streamer.m_RtpServerPort, h.server.streamer.udp.closed)) =
        some (0, 0, [3, NULLSOCKET, 4, 5]) := by decide +kernel
  obtain ⟨h, run, same⟩ := Runs.run_ends setup
  obtain ⟨h', run', same'⟩ := Runs.run_ends closed
  exact ⟨⟨h, run, same, udp_ledger run⟩, h', run', same', udp_ledger run'⟩

/-! ### A handle that is closed twice -/

theorem setupBytes_turn (st : CStreamer) : ∃ t, (CRtspSession.create 5).handleRequests st Receiver.empty (.data setupBytes) = .ok t ∧
    t.streamer = st.InitUdpTransport ∧ t.session.m_stopped = false := by
  have facts : ((CRtspSession.create 5).parseCall Receiver.empty (.data setupBytes)).map (fun c =>
      c.parse.toOption.map fun r => (r.2, r.1.m_RtspCmdType, r.1.m_TcpTransport, r.1.m_stopped)) =
        some (some (true, .RTSP_SETUP, false, false)) := by decide +kernel
  obtain ⟨c, call, parsed⟩ := Option.map_eq_some_iff.mp facts
  obtain ⟨⟨s, accepted⟩, parses, same⟩ := Option.map_eq_some_iff.mp parsed
  simp only [Prod.mk.injEq] at same
  obtain ⟨rfl, setup, udp, going⟩ := same
  have parse : ParseRtspRequest c.session (bufferOf c.text) c.size = .ok (s, true) := by
    unfold ParseCall.parse at parses
    match found : ParseRtspRequest c.session (bufferOf c.text) c.size with
    | .ok r =>
      rw [found] at parses
      rw [Option.some.inj parses]
    | .error e =>
      rw [found] at parses
      cases parses
  have handled : c.session.Handle_RtspRequest st (bufferOf c.text) c.size = .ok (s.dispatch st) := by
    unfold CRtspSession.Handle_RtspRequest
    rw [parse]
    rfl
  have flags := dispatch_flags st s
  refine ⟨⟨(s.dispatch st).1, (s.dispatch st).2.1.markCommand, Receiver.empty, (s.dispatch st).2.2, true⟩, ?_, ?_, ?_⟩
  · rw [handleRequests_parseCall call, handled]
    rfl
  · rcases dispatch_udp st s with ⟨-, opened, -⟩ | ⟨other, -⟩
    · exact opened
    · rw [CRtspSession.dispatch, setup] at other
      unfold CRtspSession.Handle_RtspSETUP CRtspSession.InitTransport at other
      simp only [udp] at other
      exact absurd other.symm Bool.false_ne_true
  · show (s.dispatch st).2.1.markCommand.m_stopped = false
    unfold CRtspSession.markCommand
    rw [flags.1, setup]
    exact flags.2.1.trans going

theorem closed_turn {s : CRtspSession} (st : CStreamer) (r : Receiver) (live : s.m_stopped = false) :
    s.handleRequests st r .closed = .ok ⟨st, { s with m_stopped := true }, r.refresh, [], true⟩ := by
  unfold CRtspSession.handleRequests
  rw [live, if_neg Bool.false_ne_true]
  rfl

/-- A session that is read from once and then closed. -/
theorem run_close {udp : UdpSockets} {pres stream : Bytes} {read : SocketRead} {t : Turn}
    (called : (CRtspSession.create 5).handleRequests ((CStreamer.create udp).setURI pres stream) Receiver.empty read = .ok t)
    (going : t.session.m_stopped = false) :
    ∃ h, Runs.run History.step [.addSession 5, .read 0 read, .read 0 .closed] (History.start udp pres stream) = .ok h ∧
      h.server.streamer = t.streamer.ReleaseUdpTransport := by
  let sv := (History.start udp pres stream).server.addSession 5
  have member : 0 ∈ sv.m_Clients := List.mem_singleton_self 0
  have turn : sv.turn 0 read = .ok t := called
  obtain ⟨stays, kept⟩ := sv.settle_self 0 member t
  let c : Turn := ⟨(sv.settle 0 t).streamer, { t.session with m_stopped := true }, (sv.settle 0 t).receiver.refresh, [], true⟩
  have closed : (sv.settle 0 t).turn 0 .closed = .ok c := by
    unfold Server.turn
    rw [kept going]
    exact closed_turn _ _ going
  have first : History.step ⟨sv, []⟩ (.read 0 read) = .ok ⟨sv.settle 0 t, [⟨0, read, t.session, t.sent⟩]⟩ := by
    unfold History.step
    dsimp only
    rw [if_pos member, turn]
    rfl
  have second : History.step ⟨sv.settle 0 t, [⟨0, read, t.session, t.sent⟩]⟩ (.read 0 .closed) =
      .ok ⟨(sv.settle 0 t).settle 0 c, [⟨0, .closed, c.session, c.sent⟩, ⟨0, read, t.session, t.sent⟩]⟩ := by
    unfold History.step
    dsimp only
    rw [if_pos (stays.mpr going), closed]
    rfl
  refine ⟨⟨(sv.settle 0 t).settle 0 c, [⟨0, .closed, c.session, c.sent⟩, ⟨0, read, t.session, t.sent⟩]⟩, ?_, ?_⟩
  · show Runs.run History.step [.read 0 read, .read 0 .closed] ⟨sv, []⟩ = _
    rw [Runs.run, first, ok_bind, Runs.run, second]
    rfl
  · show ((sv.settle 0 t).settle 0 c).streamer = _
    rw [(Server.settle_stopped _ 0 rfl).1]
    show (sv.settle 0 t).streamer.ReleaseUdpTransport = _
    rw [(Server.settle_going sv 0 going).1]

theorem setupClose_run (udp : UdpSockets) (pres stream : Bytes) :
    ∃ h, Runs.run History.step setupClose (History.start udp pres stream) = .ok h ∧
      h.server.streamer = ((CStreamer.create udp).setURI pres stream).InitUdpTransport.ReleaseUdpTransport := by
  obtain ⟨t, called, opened, going⟩ := setupBytes_turn ((CStreamer.create udp).setURI pres stream)
  rw [← opened]
  exact run_close called going

/-- No handle is closed twice in any run exactly if the search ends clean. -/
theorem closedOnce_iff (udp : UdpSockets) (pres stream : Bytes) :
    (∀ events h, Runs.run History.step events (History.start udp pres stream) = .ok h →
      ∀ x, x ≠ NULLSOCKET → h.server.streamer.udp.closed.count x ≤ udp.closed.count x + 1) ↔ udp.EndsClean := by
  constructor
  · intro once
    by_contra unclean
    unfold UdpSockets.EndsClean at unclean
    obtain ⟨none, alone⟩ := not_or.mp unclean
    rw [not_not] at alone
    obtain ⟨h, run, streamer⟩ := setupClose_run udp pres stream
    let st := (CStreamer.create udp).setURI pres stream
    have unbound := (tracked_create udp pres stream).idle (Int.le_refl 0)
    obtain ⟨k, allocated⟩ : ∃ k, Allocated st k st.InitUdpTransport := init_allocated rfl unbound.rtp unbound.rtcp
    cases allocated with
    | found P first => exact none ⟨P, first⟩
    | exhausted _ rtp stale _ form =>
      obtain ⟨positive, rfl⟩ := stale alone
      have twice := once setupClose h run (udp.next + k) (by show ¬ (udp.next + k = 0); omega)
      rw [streamer, form] at twice
      have before : (closes udp.next k).count (udp.next + k) = 1 := by
        rw [closes_count, if_pos (by omega), if_neg (by show ¬ (udp.next + k = 0); omega)]
      have total : (udp.closed ++ closes udp.next k ++ [udp.next + k] ++ [NULLSOCKET]).count (udp.next + k) ≤
          udp.closed.count (udp.next + k) + 1 := twice
      simp only [List.count_append, before, List.count_singleton_self] at total
      omega
  · intro clean events h run x handle
    obtain ⟨closed, ledger⟩ := (Runs.run_invariant udpLedger_step ⟨rfl, tracked_create udp pres stream⟩ run).tracked.ledger
    have once := ledger.once clean x handle
    rw [ledger.log, List.count_append]
    split at once <;> omega

end RtspServer
