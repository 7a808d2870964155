import RtspServer.Session.ClientList

/-!
# Runs on the list of clients

Sessions are added and `handleRequests` is called in any order, and any of the
sessions may be stopped by a call. The list in memory holds the clients of
`Server` and is walked over as `Server` says.
-/

namespace RtspServer.ClientList

open LinkedRing

/-! ### Sessions added and stopped in any order -/

/-- The sessions a call was made on and the sessions deleted, in order. -/
structure Calls where
  invoked : List Nat
  deleted : List Nat
  deriving DecidableEq

def noCalls : Calls := ⟨[], []⟩

/-- Sessions that are stopped behind their call as `m_stopped` has it. -/
def recording (m_stopped : Nat → Bool) : SessionCode Calls where
  handleRequests p calls := return ({ calls with invoked := calls.invoked ++ [p] }, true, m_stopped p)
  delete p calls := { calls with deleted := calls.deleted ++ [p] }

inductive ListCall where
  /-- `addSession`, where `new` returns the address `p`. -/
  | addSession (p : Nat)
  | handleRequests (m_stopped : Nat → Bool)

/-- The heap, the number of sessions created so far and what each call of `handleRequests` did. -/
structure Memory where
  heap : Heap
  created : Nat
  rounds : List Calls

section

variable (m_Clients : Nat)

/-- The streamer with its sentinel. -/
def Memory.start : Memory := ⟨LinkedListElement.create (fun _ => none) m_Clients, 0, []⟩

instance (h : Heap) (p : Nat) : Decidable (h.Live p) := inferInstanceAs (Decidable (_ = true))

/-- `new` returns neither `NULL` nor an address in use. -/
def Memory.step (c : Memory) : ListCall → Run Memory
  | .addSession p =>
    if p = NULLPTR ∨ c.heap.Live p then return c
    else do return { c with heap := ← LinkedListElement.append c.heap p m_Clients, created := c.created + 1 }
  | .handleRequests m_stopped => do
    let (heap, calls, _) ← ClientList.handleRequests (recording m_stopped) m_Clients c.created c.heap noCalls
    return { c with heap, rounds := c.rounds ++ [calls] }

/-- The live sessions in the order of their creation, and what each call has to do. -/
structure Roster where
  live : List Nat
  rounds : List Calls

def Roster.step (a : Roster) : ListCall → Roster
  | .addSession p => if p = NULLPTR ∨ p ∈ m_Clients :: a.live then a else { a with live := a.live ++ [p] }
  | .handleRequests m_stopped =>
    { live := a.live.filter fun p => !m_stopped p
      rounds := a.rounds ++ [⟨a.live, a.live.filter m_stopped⟩] }

def Roster.run (es : List ListCall) : Roster := es.foldl (Roster.step m_Clients) ⟨[], []⟩

/-- The memory holds the sessions of the roster. -/
structure Holds (c : Memory) (a : Roster) : Prop where
  clients : Clients c.heap m_Clients a.live
  created : a.live.length ≤ c.created
  rounds : c.rounds = a.rounds

end

theorem walk_recording (m_stopped : Nat → Bool) (xs : List Nat) (calls : Calls) :
    walk (recording m_stopped) xs calls =
      .ok (⟨calls.invoked ++ xs, calls.deleted ++ xs.filter m_stopped⟩, true, xs.filter fun p => !m_stopped p) := by
  induction xs generalizing calls with
  | nil =>
    rw [walk, List.filter_nil, List.filter_nil, List.append_nil, List.append_nil]
    rfl
  | cons x xs ih =>
    rw [walk]
    show (walk (recording m_stopped) xs _ >>= _) = _
    rw [ih]
    cases stopped : m_stopped x with
    | true =>
      rw [List.filter_cons_of_pos stopped, List.filter_cons_of_neg (by rw [stopped]; exact Bool.false_ne_true)]
      simp only [ok_bind, if_true, recording, List.append_assoc, List.singleton_append, Bool.true_and]
      rfl
    | false =>
      rw [List.filter_cons_of_neg (by rw [stopped]; exact Bool.false_ne_true),
        List.filter_cons_of_pos (by rw [stopped]; rfl)]
      simp only [ok_bind, Bool.false_eq_true, if_false, List.append_assoc, List.singleton_append, Bool.true_and]
      rfl

section

variable {m_Clients : Nat}

theorem step_holds {c : Memory} {a : Roster} (holds : Holds m_Clients c a) (e : ListCall) :
    ∃ c', c.step m_Clients e = .ok c' ∧ Holds m_Clients c' (a.step m_Clients e) := by
  obtain ⟨clients, created, rounds⟩ := holds
  cases e with
  | addSession p =>
    rw [Memory.step, Roster.step]
    have same : (p = NULLPTR ∨ c.heap.Live p) ↔ (p = NULLPTR ∨ p ∈ m_Clients :: a.live) := by
      rw [clients.ring.live]
    by_cases used : p = NULLPTR ∨ c.heap.Live p
    · rw [if_pos used, if_pos (same.mp used)]
      exact ⟨c, rfl, clients, created, rounds⟩
    · rw [if_neg used, if_neg (mt same.mpr used)]
      obtain ⟨h', added, clients'⟩ := append_clients clients (fun member => mt same.mpr used (.inr member))
        fun null => used (.inl null)
      refine ⟨{ c with heap := h', created := c.created + 1 }, by rw [added]; rfl, clients', ?_, rounds⟩
      show (a.live ++ [p]).length ≤ c.created + 1
      rw [List.length_append, List.length_singleton]
      exact Nat.succ_le_succ created
  | handleRequests m_stopped =>
    have walked := handleRequests_walk (recording m_stopped) (w := noCalls) clients created
    rw [walk_recording] at walked
    cases called : ClientList.handleRequests (recording m_stopped) m_Clients c.created c.heap noCalls with
    | error e =>
      rw [called] at walked
      exact walked.elim
    | ok r =>
      rw [called] at walked
      obtain ⟨calls, -, clients'⟩ := walked
      refine ⟨{ c with heap := r.1, rounds := c.rounds ++ [r.2.1] }, ?_, clients', ?_, ?_⟩
      · rw [Memory.step, called]
        rfl
      · exact Nat.le_trans (List.length_filter_le _ _) created
      · show c.rounds ++ [r.2.1] = a.rounds ++ [⟨a.live, a.live.filter m_stopped⟩]
        rw [rounds, calls]
        rfl

theorem run_holds {c : Memory} {a : Roster} (holds : Holds m_Clients c a) (es : List ListCall) :
    ∃ c', Runs.run (Memory.step m_Clients) es c = .ok c' ∧ Holds m_Clients c' (es.foldl (Roster.step m_Clients) a) := by
  induction es generalizing c a with
  | nil => exact ⟨c, rfl, holds⟩
  | cons e es ih =>
    obtain ⟨c1, taken, holds1⟩ := step_holds holds e
    obtain ⟨c2, rest, holds2⟩ := ih holds1
    exact ⟨c2, by rw [Runs.run, taken]; exact rest, holds2⟩

theorem foldl_delete (m_stopped : Nat → Bool) (xs : List Nat) (calls : Calls) :
    xs.foldl (fun w x => (recording m_stopped).delete x w) calls = { calls with deleted := calls.deleted ++ xs } := by
  induction xs generalizing calls with
  | nil => rw [List.append_nil]; rfl
  | cons x xs ih =>
    rw [List.foldl_cons, ih]
    simp only [recording, List.append_assoc, List.singleton_append]

/-- In every run the list is a ring through the live sessions in the order of their creation.
Each call of `handleRequests` is made once on every session live at its start and deletes those
that are stopped, and `~CStreamer` deletes the rest, once each. -/
theorem clients_run (notNull : m_Clients ≠ NULLPTR) (es : List ListCall) :
    ∃ c, Runs.run (Memory.step m_Clients) es (Memory.start m_Clients) = .ok c ∧
      IsRing c.heap m_Clients (Roster.run m_Clients es).live ∧ c.rounds = (Roster.run m_Clients es).rounds ∧
      anySessions c.heap m_Clients = .ok (decide ((Roster.run m_Clients es).live ≠ [])) ∧
      ∀ m_stopped, ∃ h, destroy (recording m_stopped) m_Clients c.created c.heap noCalls =
        .ok (h, ⟨[], (Roster.run m_Clients es).live⟩) ∧ IsRing h m_Clients [] := by
  have start : Holds m_Clients (Memory.start m_Clients) ⟨[], []⟩ := ⟨clients_create notNull, Nat.le_refl 0, rfl⟩
  obtain ⟨c, run, clients, created, rounds⟩ := run_holds start es
  refine ⟨c, run, clients.ring, rounds, anySessions_iff clients, fun m_stopped => ?_⟩
  obtain ⟨h, deleted, empty⟩ := deleteFrom_clients (recording m_stopped) (w := noCalls) clients (Nat.lt_succ_of_le created)
  refine ⟨h, ?_, empty.ring⟩
  rw [destroy, clients.ring.head_next, ok_bind]
  exact deleted.trans (by rw [foldl_delete]; rfl)

theorem clients_run_reused :
    let es := [.addSession 5, .addSession 6, .addSession 7, .handleRequests (· ≤ 6), .addSession 5]
    1 ≠ NULLPTR ∧ ∃ c, Runs.run (Memory.step 1) es (Memory.start 1) = .ok c ∧
      IsRing c.heap 1 (Roster.run 1 es).live ∧ c.rounds = (Roster.run 1 es).rounds ∧
      anySessions c.heap 1 = .ok (decide ((Roster.run 1 es).live ≠ [])) ∧
      ∀ m_stopped, ∃ h, destroy (recording m_stopped) 1 c.created c.heap noCalls =
        .ok (h, ⟨[], (Roster.run 1 es).live⟩) ∧ IsRing h 1 [] :=
  ⟨by decide, clients_run (by decide) _⟩

end

/-! ### The clients of the server -/

/-- What the sessions work on, the sessions by address. -/
structure World where
  session : Nat → CRtspSession
  streamer : CStreamer
  receiver : Receiver

def serverCode (reads : Nat → SocketRead) : SessionCode World where
  handleRequests p w := do
    let t ← (w.session p).handleRequests w.streamer w.receiver (reads p)
    return (⟨Function.update w.session p t.session, t.streamer, t.receiver⟩, t.result, t.session.m_stopped)
  delete _ w := { w with streamer := w.streamer.ReleaseUdpTransport }

/-- The sessions of the server are at the addresses `addr`. -/
structure Located (addr : Nat → Nat) (w : World) (sv : Server) : Prop where
  distinct : (sv.m_Clients.map addr).Nodup
  sessions : ∀ i ∈ sv.m_Clients, w.session (addr i) = sv.session i
  streamer : w.streamer = sv.streamer
  receiver : w.receiver = sv.receiver

section

variable {addr : Nat → Nat} {reads : Nat → SocketRead} {h : Heap} {m_Clients p : Nat} {w : World} {sv : Server}

theorem Located.settle {done ids : List Nat} {i : Nat} (located : Located addr w sv) (clients : sv.m_Clients = done ++ i :: ids)
    (t : Turn) :
    Located addr (if t.session.m_stopped then
        ⟨Function.update w.session (addr i) t.session, t.streamer.ReleaseUdpTransport, t.receiver⟩
      else ⟨Function.update w.session (addr i) t.session, t.streamer, t.receiver⟩) (sv.settle i t) ∧
    (sv.settle i t).m_Clients = done ++ (if t.session.m_stopped then ids else i :: ids) := by
  have apart : ∀ j ∈ sv.m_Clients, j ≠ i → addr j ≠ addr i := fun j member other same =>
    other (List.inj_on_of_nodup_map located.distinct member (by rw [clients]; simp) same)
  cases stopped : t.session.m_stopped with
  | true =>
    obtain ⟨streamer, remaining, sessions⟩ := Server.settle_stopped sv i stopped
    have first : i ∉ done := by
      have nodup := sv.nodup
      rw [clients] at nodup
      exact fun member => (List.nodup_append.mp nodup).2.2 i member i List.mem_cons_self rfl
    have left : sv.m_Clients.erase i = done ++ ids := by
      rw [clients, List.erase_append_right _ first, List.erase_cons_head]
    rw [if_pos rfl, if_pos rfl]
    refine ⟨⟨?_, fun j member => ?_, streamer.symm, (Server.settle_receiver sv i).symm⟩, remaining.trans left⟩
    · rw [remaining]
      exact located.distinct.sublist (List.Sublist.map addr List.erase_sublist)
    · rw [remaining] at member
      have inside := List.mem_of_mem_erase member
      have other : j ≠ i := by
        rintro rfl
        exact (List.Nodup.not_mem_erase sv.nodup) member
      rw [sessions, ← located.sessions j inside]
      exact Function.update_of_ne (apart j inside other) _ _
  | false =>
    obtain ⟨streamer, remaining, sessions⟩ := Server.settle_going sv i stopped
    rw [if_neg Bool.false_ne_true, if_neg Bool.false_ne_true]
    refine ⟨⟨?_, fun j member => ?_, streamer.symm, (Server.settle_receiver sv i).symm⟩, remaining.trans clients⟩
    · rw [remaining]
      exact located.distinct
    · rw [remaining] at member
      rw [sessions]
      by_cases same : j = i
      · rw [same, Function.update_self]
        exact Function.update_self _ _ _
      · rw [Function.update_of_ne same, ← located.sessions j member]
        exact Function.update_of_ne (apart j member same) _ _

theorem walk_visit {done ids : List Nat} (located : Located addr w sv) (clients : sv.m_Clients = done ++ ids) :
    Run.Rel (fun (left : World × Bool × List Nat) (right : Server × Bool) =>
        left.2.1 = right.2 ∧ Located addr left.1 right.1 ∧
          ∃ kept, right.1.m_Clients = done ++ kept ∧ left.2.2 = kept.map addr)
      (walk (serverCode reads) (ids.map addr) w) (sv.visit (fun i => reads (addr i)) ids) := by
  induction ids generalizing done w sv with
  | nil => exact ⟨rfl, located, [], clients, rfl⟩
  | cons i ids ih =>
    have here : i ∈ sv.m_Clients := by rw [clients]; simp
    have same : (w.session (addr i)).handleRequests w.streamer w.receiver (reads (addr i)) = sv.turn i (reads (addr i)) := by
      rw [located.sessions i here, located.streamer, located.receiver]
      rfl
    obtain call : (serverCode reads).handleRequests (addr i) w = (sv.turn i (reads (addr i)) >>= fun t =>
        .ok (⟨Function.update w.session (addr i) t.session, t.streamer, t.receiver⟩, t.result, t.session.m_stopped)) := by
      rw [← same]
      rfl
    rw [List.map_cons, walk, Server.visit, call, bind_assoc]
    refine Run.Rel.bind_same (sv.turn i (reads (addr i))) fun t => ?_
    obtain ⟨located', remaining⟩ := located.settle clients t
    rw [ok_bind]
    dsimp only
    cases stopped : t.session.m_stopped with
    | true =>
      rw [stopped] at located' remaining
      apply Run.Rel.bind (ih located' remaining)
      rintro ⟨w', result, kept⟩ ⟨sv', result'⟩ ⟨results, after, ids', left, names⟩
      exact ⟨congrArg (t.result && ·) results, after, ids', left, names⟩
    | false =>
      rw [stopped] at located' remaining
      have split : done ++ i :: ids = (done ++ [i]) ++ ids := by rw [List.append_assoc]; rfl
      have placed : (sv.settle i t).m_Clients = (done ++ [i]) ++ ids := remaining.trans split
      apply Run.Rel.bind (ih located' placed)
      rintro ⟨w', result, kept⟩ ⟨sv', result'⟩ ⟨results, after, ids', left, names⟩
      refine ⟨congrArg (t.result && ·) results, after, i :: ids', ?_, ?_⟩
      · rw [left, List.append_assoc]
        rfl
      · exact congrArg (addr i :: ·) names

/-- The memory holds the server, its sessions at the addresses `addr`. -/
structure Represents (addr : Nat → Nat) (m_Clients : Nat) (h : Heap) (w : World) (sv : Server) : Prop where
  clients : Clients h m_Clients (sv.m_Clients.map addr)
  located : Located addr w sv

theorem clients_le_created (sv : Server) : sv.m_Clients.length ≤ sv.created := by
  have inside : sv.m_Clients ⊆ List.range sv.created := fun i member => List.mem_range.mpr (sv.born i member)
  have bound := sv.nodup.length_le_of_subset inside
  rwa [List.length_range] at bound

/-- The walk over the links does to the sessions what `Server.handleRequests` does. -/
theorem handleRequests_represents (represents : Represents addr m_Clients h w sv) :
    Run.Rel (fun left right => left.2.2 = right.2 ∧ Represents addr m_Clients left.1 left.2.1 right.1)
      (handleRequests (serverCode reads) m_Clients sv.created h w) (sv.handleRequests fun i => reads (addr i)) := by
  have enough : (sv.m_Clients.map addr).length ≤ sv.created := by
    rw [List.length_map]
    exact clients_le_created sv
  have whole : sv.m_Clients = [] ++ sv.m_Clients := rfl
  refine (handleRequests_walk (serverCode reads) represents.clients enough).trans
    (walk_visit represents.located whole) ?_
  rintro ⟨h', w', result⟩ ⟨w'', result', ids⟩ ⟨sv', result''⟩ ⟨worlds, results, clients⟩
    ⟨results', located, kept, left, names⟩
  refine ⟨results.trans results', ?_, by rw [worlds]; exact located⟩
  show Clients h' m_Clients (sv'.m_Clients.map addr)
  rw [left, List.nil_append, ← names]
  exact clients

theorem addSession_represents (random : Nat) (represents : Represents addr m_Clients h w sv)
    (new : p ∉ m_Clients :: sv.m_Clients.map addr) (notNull : p ≠ NULLPTR) :
    ∃ h', LinkedListElement.append h p m_Clients = .ok h' ∧
      Represents (Function.update addr sv.created p) m_Clients h'
        { w with session := Function.update w.session p (CRtspSession.create random) } (sv.addSession random) := by
  obtain ⟨h', added, clients⟩ := append_clients represents.clients new notNull
  have old : ∀ i ∈ sv.m_Clients, Function.update addr sv.created p i = addr i := fun i member =>
    Function.update_of_ne (Nat.ne_of_lt (sv.born i member)) _ _
  have names : (sv.addSession random).m_Clients.map (Function.update addr sv.created p) = sv.m_Clients.map addr ++ [p] := by
    show (sv.m_Clients ++ [sv.created]).map _ = _
    rw [List.map_append, List.map_congr_left old, List.map_singleton, Function.update_self]
  refine ⟨h', added, by rw [names]; exact clients, ⟨?_, fun i member => ?_, represents.located.streamer,
    represents.located.receiver⟩⟩
  · rw [names]
    exact (List.nodup_cons.mp clients.ring.nodup).2
  · rcases List.mem_append.mp member with inside | inside
    · have other : addr i ≠ p := fun same => new (List.mem_cons_of_mem _ (same ▸ List.mem_map_of_mem inside))
      rw [(Server.addSession_old sv random (Nat.ne_of_lt (sv.born i inside))).2, old i inside,
        ← represents.located.sessions i inside]
      exact Function.update_of_ne other _ _
    · rw [List.mem_singleton.mp inside, (Server.addSession_new sv random).2, Function.update_self]
      exact Function.update_self _ _ _

end

end RtspServer.ClientList
