import RtspServer.Base.Ring
import RtspServer.Session.Server

/-!
# The list of clients in memory

`LinkedListElement` and the functions of `CStreamer` that walk over the list,
with the links as pointers. Sessions are deleted while the list is walked over.
-/

namespace RtspServer

open LinkedRing

abbrev NULLPTR : Nat := 0

namespace LinkedListElement

/-- `LinkedListElement()` -/
def create (h : Heap) (this : Nat) : Heap := h.alloc this ⟨this, this⟩

/-- `LinkedListElement(linkedList)`, which sets `m_Next` last. -/
def append (h : Heap) (this linkedList : Nat) : Run Heap := do
  let h := h.alloc this ⟨NULLPTR, ← h.prev linkedList⟩
  let h ← h.setPrev linkedList this
  let h ← h.setNext (← h.prev this) this
  h.setNext this linkedList

def NotEmpty (h : Heap) (this : Nat) : Run Bool := do return (← h.next this) ≠ this

/-- `~LinkedListElement()`. The memory is freed behind it. -/
def destroy (h : Heap) (this : Nat) : Run Heap := do
  let m_Next ← h.next this
  let h ← if m_Next ≠ NULLPTR then h.setPrev m_Next (← h.prev this) else pure h
  let m_Prev ← h.prev this
  let h ← if m_Prev ≠ NULLPTR then h.setNext m_Prev (← h.next this) else pure h
  -- The trace line reads `m_Prev->m_Next`.
  let _ ← h.next (← h.prev this)
  return h.free this

end LinkedListElement

/-- The code of the sessions: `ω` is what it works on beside the links. -/
structure SessionCode (ω : Type) where
  /-- `session->handleRequests` with its result, and `session->m_stopped` behind it. -/
  handleRequests : Nat → ω → Run (ω × Bool × Bool)
  /-- The part of the destructor that is not `~LinkedListElement`. -/
  delete : Nat → ω → ω

namespace ClientList

section

variable {ω : Type} (code : SessionCode ω) (m_Clients : Nat)

/-- `while (element != &m_Clients)` -/
def handleFrom : Nat → Nat → Bool → Heap → ω → Run (Heap × ω × Bool)
  | 0, _, _, _, _ => .error .hang
  | fuel + 1, element, retVal, h, w =>
    if element = m_Clients then return (h, w, retVal)
    else do
      let (w, result, m_stopped) ← code.handleRequests element w
      let next ← h.next element
      if m_stopped then
        handleFrom fuel next (retVal && result) (← LinkedListElement.destroy h element) (code.delete element w)
      else handleFrom fuel next (retVal && result) h w

/-- `CStreamer::handleRequests`, where `created` sessions were created so far. -/
def handleRequests (created : Nat) (h : Heap) (w : ω) : Run (Heap × ω × Bool) := do
  handleFrom code m_Clients (created + 1) (← h.next m_Clients) true h w

/-- The loop of `~CStreamer`. -/
def deleteFrom : Nat → Nat → Heap → ω → Run (Heap × ω)
  | 0, _, _, _ => .error .hang
  | fuel + 1, element, h, w =>
    if element = m_Clients then return (h, w)
    else do
      let next ← h.next element
      deleteFrom fuel next (← LinkedListElement.destroy h element) (code.delete element w)

/-- `~CStreamer` -/
def destroy (created : Nat) (h : Heap) (w : ω) : Run (Heap × ω) := do
  deleteFrom code m_Clients (created + 1) (← h.next m_Clients) h w

end

def anySessions (h : Heap) (m_Clients : Nat) : Run Bool := LinkedListElement.NotEmpty h m_Clients

/-! ### One node -/

/-- The clients `xs` in a ring through `m_Clients`, none of them at `NULL`. -/
structure Clients (h : Heap) (m_Clients : Nat) (xs : List Nat) : Prop where
  ring : IsRing h m_Clients xs
  notNull : NULLPTR ∉ m_Clients :: xs

section

variable {h : Heap} {m_Clients p : Nat} {xs ys : List Nat}

theorem clients_create (notNull : m_Clients ≠ NULLPTR) :
    Clients (LinkedListElement.create (fun _ => none) m_Clients) m_Clients [] where
  ring := by
    refine isRing_single ?_ ?_ fun r => ?_
    · rw [LinkedListElement.create, Heap.alloc, next_set, if_pos rfl]
    · rw [LinkedListElement.create, Heap.alloc, prev_set, if_pos rfl]
    · rw [LinkedListElement.create, Heap.alloc, live_set]
      split
      · rename_i same
        exact iff_of_true rfl same
      · rename_i other
        exact iff_of_false (fun live => by cases live) other
  notNull := by
    rw [List.mem_singleton]
    exact fun same => notNull same.symm

theorem append_clients (clients : Clients h m_Clients xs) (new : p ∉ m_Clients :: xs) (notNull : p ≠ NULLPTR) :
    ∃ h', LinkedListElement.append h p m_Clients = .ok h' ∧ Clients h' m_Clients (xs ++ [p]) := by
  have ring := clients.ring
  have headNew : m_Clients ≠ p := fun same => new (same ▸ List.mem_cons_self)
  have back := ring.head_prev
  have lastIn : (m_Clients :: xs).getLast (List.cons_ne_nil m_Clients xs) ∈ m_Clients :: xs := List.getLast_mem _
  generalize lastEq : (m_Clients :: xs).getLast (List.cons_ne_nil m_Clients xs) = last at back lastIn
  have lastNew : last ≠ p := fun same => new (same ▸ lastIn)
  have headLive := (ring.live m_Clients).mpr List.mem_cons_self
  have lastLive := (ring.live last).mpr lastIn
  let h0 := h.alloc p ⟨NULLPTR, last⟩
  have live0 : ∀ r, h0.Live r ↔ if r = p then True else h.Live r := fun r => by
    rw [show h0.Live r ↔ if r = p then (some (⟨NULLPTR, last⟩ : Node)).isSome = true else h.Live r from live_set _ r]
    split
    · exact iff_of_true rfl trivial
    · exact Iff.rfl
  obtain ⟨h1, step1, prev1, next1, live1⟩ := setPrev_live (h := h0) (p := m_Clients)
    ((live0 m_Clients).mpr (by rw [if_neg headNew]; exact headLive)) p
  have own1 : h1.prev p = .ok last := by
    rw [prev1, if_neg (fun same => headNew same.symm)]
    exact (prev_set _ p).trans (if_pos rfl)
  obtain ⟨h2, step2, next2, prev2, live2⟩ := setNext_live (h := h1) (p := last)
    ((live1 last).mpr ((live0 last).mpr (by rw [if_neg lastNew]; exact lastLive))) p
  obtain ⟨h3, step3, next3, prev3, live3⟩ := setNext_live (h := h2) (p := p)
    ((live2 p).mpr ((live1 p).mpr ((live0 p).mpr (by rw [if_pos rfl]; trivial)))) m_Clients
  refine ⟨h3, ?_, ⟨ring.insert new (fun r => ?_) (fun r => ?_) fun r => ?_, ?_⟩⟩
  · rw [LinkedListElement.append, back, ok_bind]
    show (h0.setPrev m_Clients p >>= _) = _
    rw [step1, ok_bind, own1, ok_bind, step2, ok_bind, step3]
  · rw [lastEq, next3, next2, next1, show h0.next r = if r = p then .ok NULLPTR else h.next r from next_set _ r]
    by_cases same : r = p
    · rw [if_pos same, if_pos same]
    · rw [if_neg same, if_neg same, if_neg same]
  · rw [lastEq, prev3, prev2, prev1, show h0.prev r = if r = p then .ok last else h.prev r from prev_set _ r]
    by_cases same : r = p
    · rw [if_pos same, if_pos same, if_neg (fun head => headNew (head.symm.trans same))]
    · rw [if_neg same, if_neg same]
  · rw [live3, live2, live1, live0]
    by_cases same : r = p
    · rw [if_pos same]
      exact iff_of_true trivial (.inl same)
    · rw [if_neg same]
      exact (or_iff_right same).symm
  · rw [← List.cons_append]
    intro member
    rcases List.mem_append.mp member with old | last
    · exact clients.notNull old
    · exact notNull (List.mem_singleton.mp last).symm

theorem headD_mem (m_Clients : Nat) (ys : List Nat) : ys.headD m_Clients ∈ m_Clients :: ys := by
  cases ys with
  | nil => exact List.mem_cons_self
  | cons y ys => exact List.mem_cons_of_mem _ List.mem_cons_self

theorem destroy_clients (clients : Clients h m_Clients (xs ++ p :: ys)) :
    ∃ h', LinkedListElement.destroy h p = .ok h' ∧ Clients h' m_Clients (xs ++ ys) := by
  have ring := clients.ring
  have nodup := ring.nodup
  rw [← List.cons_append] at nodup
  obtain ⟨-, nodupBack, apart⟩ := List.nodup_append.mp nodup
  have pBack := (List.nodup_cons.mp nodupBack).1
  have pFront : p ∉ m_Clients :: xs := fun member => apart p member p List.mem_cons_self rfl
  obtain ⟨back, forth⟩ := ring.neighbours
  have prevIn : (m_Clients :: xs).getLast (List.cons_ne_nil m_Clients xs) ∈ m_Clients :: xs := List.getLast_mem _
  have nextIn := headD_mem m_Clients ys
  generalize prevEq : (m_Clients :: xs).getLast (List.cons_ne_nil m_Clients xs) = a at back prevIn
  generalize nextEq : ys.headD m_Clients = b at forth nextIn
  have front : ∀ {r}, r ∈ m_Clients :: xs → r ∈ m_Clients :: (xs ++ p :: ys) := fun member => by
    rw [← List.cons_append]
    exact List.mem_append_left _ member
  have aIn := front prevIn
  have bIn : b ∈ m_Clients :: (xs ++ p :: ys) := by
    rcases List.mem_cons.mp nextIn with same | inside
    · exact same ▸ List.mem_cons_self
    · exact List.mem_cons_of_mem _ (List.mem_append_right xs (List.mem_cons_of_mem p inside))
  have aNotP : a ≠ p := fun same => pFront (same ▸ prevIn)
  have bNotP : b ≠ p := by
    rintro rfl
    rcases List.mem_cons.mp nextIn with same | inside
    · exact pFront (same ▸ List.mem_cons_self)
    · exact pBack inside
  have aNotNull : a ≠ NULLPTR := fun same => clients.notNull (same ▸ aIn)
  have bNotNull : b ≠ NULLPTR := fun same => clients.notNull (same ▸ bIn)
  obtain ⟨h1, step1, prev1, next1, live1⟩ := setPrev_live ((ring.live b).mpr bIn) a
  have back1 : h1.prev p = .ok a := by rw [prev1, if_neg (fun same => bNotP same.symm), back]
  have forth1 : h1.next p = .ok b := by rw [next1, forth]
  obtain ⟨h2, step2, next2, prev2, live2⟩ := setNext_live ((live1 a).mpr ((ring.live a).mpr aIn)) b
  have back2 : h2.prev p = .ok a := by rw [prev2, back1]
  have forth2 : h2.next a = .ok b := by rw [next2, if_pos rfl]
  refine ⟨h2.free p, ?_, ⟨ring.remove (fun r other => ?_) (fun r other => ?_) fun r => ?_, fun null => ?_⟩⟩
  · rw [LinkedListElement.destroy, forth, ok_bind, if_pos bNotNull, back, ok_bind, step1, ok_bind]
    dsimp only
    rw [back1, ok_bind, if_pos aNotNull, forth1, ok_bind, step2, ok_bind, back2, ok_bind, forth2]
    rfl
  · rw [prevEq, nextEq, show (h2.free p).next r = if r = p then _ else h2.next r from next_set none r, if_neg other,
      next2, next1]
  · rw [prevEq, nextEq, show (h2.free p).prev r = if r = p then _ else h2.prev r from prev_set none r, if_neg other,
      prev2, prev1]
  · rw [show (h2.free p).Live r ↔ if r = p then _ else h2.Live r from live_set none r, live2, live1]
    by_cases same : r = p
    · rw [if_pos same]
      exact iff_of_false (fun live => by cases live) fun both => both.1 same
    · rw [if_neg same]
      exact (and_iff_right same).symm
  · rw [← List.cons_append] at null
    rcases List.mem_append.mp null with inFront | inBack
    · exact clients.notNull (front inFront)
    · exact clients.notNull (List.mem_cons_of_mem _ (List.mem_append_right xs (List.mem_cons_of_mem p inBack)))

theorem anySessions_iff (clients : Clients h m_Clients xs) : anySessions h m_Clients = .ok (decide (xs ≠ [])) := by
  have first : anySessions h m_Clients = .ok (decide (xs.headD m_Clients ≠ m_Clients)) := by
    rw [anySessions, LinkedListElement.NotEmpty, clients.ring.head_next]
    rfl
  rw [first]
  cases xs with
  | nil => exact congrArg Except.ok (decide_eq_false fun ne => ne rfl)
  | cons x xs =>
    have other : x ≠ m_Clients := fun same => (List.nodup_cons.mp clients.ring.nodup).1 (same ▸ List.mem_cons_self)
    exact congrArg Except.ok ((decide_eq_true other).trans (decide_eq_true (List.cons_ne_nil x xs)).symm)

end

/-! ### The walk over the list -/

section

variable {ω : Type} (code : SessionCode ω) {h : Heap} {m_Clients : Nat}

/-- The walk over a list of sessions: what the code leaves and the sessions that go on. -/
def walk : List Nat → ω → Run (ω × Bool × List Nat)
  | [], w => return (w, true, [])
  | x :: xs, w => do
    let (w, result, m_stopped) ← code.handleRequests x w
    let (w, retVal, kept) ← walk xs (if m_stopped then code.delete x w else w)
    return (w, result && retVal, if m_stopped then kept else x :: kept)

/-- The loop calls the sessions behind `done` one by one, whichever of them are deleted. -/
theorem handleFrom_walk {done rest : List Nat} {fuel : Nat} {retVal : Bool} {w : ω}
    (clients : Clients h m_Clients (done ++ rest)) (enough : rest.length < fuel) :
    Run.Rel (fun (left : Heap × ω × Bool) (right : ω × Bool × List Nat) =>
        left.2.1 = right.1 ∧ left.2.2 = (retVal && right.2.1) ∧ Clients left.1 m_Clients (done ++ right.2.2))
      (handleFrom code m_Clients fuel (rest.headD m_Clients) retVal h w) (walk code rest w) := by
  induction rest generalizing done fuel retVal h w with
  | nil =>
    obtain ⟨fuel, rfl⟩ := Nat.exists_eq_add_of_lt enough
    rw [handleFrom, List.headD_nil, if_pos rfl]
    exact ⟨rfl, (Bool.and_true retVal).symm, clients⟩
  | cons x rest ih =>
    obtain ⟨fuel, rfl⟩ := Nat.exists_eq_add_of_lt enough
    have fuelled : rest.length < (x :: rest).length + fuel := by simp only [List.length_cons]; omega
    have other : x ≠ m_Clients := by
      rintro rfl
      exact (List.nodup_cons.mp clients.ring.nodup).1 (List.mem_append_right done List.mem_cons_self)
    rw [handleFrom, List.headD_cons, if_neg other, walk]
    refine Run.Rel.bind_same (code.handleRequests x w) fun (w', result, m_stopped) => ?_
    obtain ⟨-, forth⟩ := clients.ring.neighbours
    dsimp only
    rw [forth, ok_bind]
    cases m_stopped with
    | true =>
      obtain ⟨h', freed, clients'⟩ := destroy_clients clients
      rw [if_pos rfl, if_pos rfl, freed, ok_bind]
      apply (ih clients' fuelled).bind_right
      rintro ⟨h2, w2, all⟩ ⟨w3, later, kept⟩ ⟨sameWorld, sameResult, ring⟩
      exact ⟨sameWorld, sameResult.trans (Bool.and_assoc retVal result later), ring⟩
    | false =>
      rw [if_neg Bool.false_ne_true, if_neg Bool.false_ne_true]
      have split : done ++ x :: rest = (done ++ [x]) ++ rest := by rw [List.append_assoc]; rfl
      rw [split] at clients
      apply (ih clients fuelled).bind_right
      rintro ⟨h2, w2, all⟩ ⟨w3, later, kept⟩ ⟨sameWorld, sameResult, ring⟩
      refine ⟨sameWorld, sameResult.trans (Bool.and_assoc retVal result later), ?_⟩
      rw [List.append_assoc] at ring
      exact ring

theorem handleRequests_walk {xs : List Nat} {created : Nat} {w : ω} (clients : Clients h m_Clients xs)
    (enough : xs.length ≤ created) :
    Run.Rel (fun (left : Heap × ω × Bool) (right : ω × Bool × List Nat) =>
        left.2.1 = right.1 ∧ left.2.2 = right.2.1 ∧ Clients left.1 m_Clients right.2.2)
      (handleRequests code m_Clients created h w) (walk code xs w) := by
  rw [handleRequests, clients.ring.head_next, ok_bind]
  rw [← List.nil_append xs] at clients
  exact handleFrom_walk code clients (Nat.lt_succ_of_le enough)

theorem deleteFrom_clients {xs : List Nat} {fuel : Nat} {w : ω} (clients : Clients h m_Clients xs) (enough : xs.length < fuel) :
    ∃ h', deleteFrom code m_Clients fuel (xs.headD m_Clients) h w = .ok (h', xs.foldl (fun w x => code.delete x w) w) ∧
      Clients h' m_Clients [] := by
  induction xs generalizing fuel h w with
  | nil =>
    obtain ⟨fuel, rfl⟩ := Nat.exists_eq_add_of_lt enough
    exact ⟨h, if_pos rfl, clients⟩
  | cons x xs ih =>
    obtain ⟨fuel, rfl⟩ := Nat.exists_eq_add_of_lt enough
    have other : x ≠ m_Clients := fun same => (List.nodup_cons.mp clients.ring.nodup).1 (same ▸ List.mem_cons_self)
    have fuelled : xs.length < (x :: xs).length + fuel := by simp only [List.length_cons]; omega
    rw [← List.nil_append (x :: xs)] at clients
    obtain ⟨-, forth⟩ := clients.ring.neighbours
    obtain ⟨h1, freed, clients1⟩ := destroy_clients clients
    obtain ⟨h', rest, empty⟩ := ih (w := code.delete x w) clients1 fuelled
    refine ⟨h', ?_, empty⟩
    rw [deleteFrom, List.headD_cons, if_neg other, forth, ok_bind, freed, ok_bind, rest]
    rfl

end

end ClientList

end RtspServer
