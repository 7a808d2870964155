import Mathlib.Data.List.Chain
import Mathlib.Data.List.Nodup
import Mathlib.Logic.Function.Basic
import RtspServer.Base.CString

/-!
# Rings of linked nodes

A heap of nodes with a link each way, and the circular list through a sentinel.
Insertion before the sentinel and unlinking anywhere keep the ring. Following a
link of a node that was freed is a fault.
-/

namespace RtspServer.LinkedRing

structure Node where
  next : Nat
  prev : Nat

/-- The nodes by address. -/
abbrev Heap := Nat → Option Node

def Heap.Live (h : Heap) (p : Nat) : Prop := (h p).isSome

def Heap.node (h : Heap) (p : Nat) : Run Node :=
  match h p with
  | some n => return n
  | none => .error .outOfBounds

def Heap.next (h : Heap) (p : Nat) : Run Nat := Node.next <$> h.node p

def Heap.prev (h : Heap) (p : Nat) : Run Nat := Node.prev <$> h.node p

def Heap.set (h : Heap) (p : Nat) (n : Option Node) : Heap := Function.update h p n

def Heap.setNext (h : Heap) (p q : Nat) : Run Heap := do
  let n ← h.node p
  return h.set p (some { n with next := q })

def Heap.setPrev (h : Heap) (p q : Nat) : Run Heap := do
  let n ← h.node p
  return h.set p (some { n with prev := q })

def Heap.alloc (h : Heap) (p : Nat) (n : Node) : Heap := h.set p (some n)

def Heap.free (h : Heap) (p : Nat) : Heap := h.set p none

/-! ### What an operation changes -/

section

variable {h : Heap} {p q : Nat}

theorem node_live (live : h.Live p) : ∃ n, h p = some n ∧ h.node p = .ok n := by
  obtain ⟨n, found⟩ := Option.isSome_iff_exists.mp live
  exact ⟨n, found, by rw [Heap.node, found]; rfl⟩

theorem next_set (n : Option Node) (r : Nat) :
    (h.set p n).next r = if r = p then (match n with | some n => .ok n.next | none => .error .outOfBounds)
      else h.next r := by
  unfold Heap.next Heap.node Heap.set
  by_cases same : r = p
  · rw [if_pos same, same, Function.update_self]
    cases n <;> rfl
  · rw [if_neg same, Function.update_of_ne same]

theorem prev_set (n : Option Node) (r : Nat) :
    (h.set p n).prev r = if r = p then (match n with | some n => .ok n.prev | none => .error .outOfBounds)
      else h.prev r := by
  unfold Heap.prev Heap.node Heap.set
  by_cases same : r = p
  · rw [if_pos same, same, Function.update_self]
    cases n <;> rfl
  · rw [if_neg same, Function.update_of_ne same]

theorem live_set (n : Option Node) (r : Nat) :
    (h.set p n).Live r ↔ if r = p then n.isSome = true else h.Live r := by
  unfold Heap.Live Heap.set
  by_cases same : r = p
  · rw [if_pos same, same, Function.update_self]
  · rw [if_neg same, Function.update_of_ne same]

theorem setNext_live (live : h.Live p) (q : Nat) :
    ∃ h', h.setNext p q = .ok h' ∧ (∀ r, h'.next r = if r = p then .ok q else h.next r) ∧
      (∀ r, h'.prev r = h.prev r) ∧ ∀ r, h'.Live r ↔ h.Live r := by
  obtain ⟨n, found, node⟩ := node_live live
  refine ⟨h.set p (some { n with next := q }), by rw [Heap.setNext, node]; rfl,
    fun r => next_set _ r, fun r => ?_, fun r => ?_⟩
  · rw [prev_set]
    split
    · rename_i same
      rw [same, Heap.prev, node]
      rfl
    · rfl
  · rw [live_set]
    split
    · rename_i same
      rw [same]
      exact iff_of_true rfl live
    · rfl

theorem setPrev_live (live : h.Live p) (q : Nat) :
    ∃ h', h.setPrev p q = .ok h' ∧ (∀ r, h'.prev r = if r = p then .ok q else h.prev r) ∧
      (∀ r, h'.next r = h.next r) ∧ ∀ r, h'.Live r ↔ h.Live r := by
  obtain ⟨n, found, node⟩ := node_live live
  refine ⟨h.set p (some { n with prev := q }), by rw [Heap.setPrev, node]; rfl,
    fun r => prev_set _ r, fun r => ?_, fun r => ?_⟩
  · rw [next_set]
    split
    · rename_i same
      rw [same, Heap.next, node]
      rfl
    · rfl
  · rw [live_set]
    split
    · rename_i same
      rw [same]
      exact iff_of_true rfl live
    · rfl

end

/-! ### The ring -/

def Linked (h : Heap) (a b : Nat) : Prop := h.next a = .ok b ∧ h.prev b = .ok a

/-- The nodes are the sentinel `head` and `xs`: following the links from `head` meets each of
`xs` once, in this order, and comes back to `head`, and the other links go the other way. -/
structure IsRing (h : Heap) (head : Nat) (xs : List Nat) : Prop where
  nodup : (head :: xs).Nodup
  live : ∀ p, h.Live p ↔ p ∈ head :: xs
  linked : List.IsChain (Linked h) (head :: xs ++ [head])

section

variable {h h' : Heap} {head p a b : Nat} {xs ys l : List Nat}

theorem chain_congr (chain : l.IsChain (Linked h)) (nexts : ∀ r ∈ l.dropLast, h'.next r = h.next r)
    (prevs : ∀ r ∈ l.tail, h'.prev r = h.prev r) : l.IsChain (Linked h') := by
  induction l with
  | nil => exact .nil
  | cons r l ih =>
    cases l with
    | nil => exact .singleton r
    | cons s l =>
      obtain ⟨⟨forth, back⟩, rest⟩ := List.isChain_cons_cons.mp chain
      refine List.isChain_cons_cons.mpr ⟨⟨?_, ?_⟩, ih rest ?_ ?_⟩
      · rw [nexts r List.mem_cons_self]
        exact forth
      · rw [prevs s List.mem_cons_self]
        exact back
      · exact fun t member => nexts t (List.mem_cons_of_mem r member)
      · exact fun t member => prevs t (List.mem_cons_of_mem s member)

theorem isRing_single (nexts : h.next head = .ok head) (prevs : h.prev head = .ok head) (live : ∀ r, h.Live r ↔ r = head) :
    IsRing h head [] where
  nodup := List.nodup_singleton head
  live r := (live r).trans List.mem_singleton.symm
  linked := List.isChain_pair.mpr ⟨nexts, prevs⟩

theorem IsRing.head_next (ring : IsRing h head xs) : h.next head = .ok (xs.headD head) := by
  have chain := ring.linked
  cases xs with
  | nil => exact (List.isChain_cons_cons.mp chain).1.1
  | cons x xs => exact (List.isChain_cons_cons.mp chain).1.1

theorem IsRing.neighbours (ring : IsRing h head (xs ++ p :: ys)) :
    h.prev p = .ok ((head :: xs).getLast (List.cons_ne_nil head xs)) ∧ h.next p = .ok (ys.headD head) := by
  have chain := ring.linked
  rw [List.cons_append, List.append_assoc, ← List.cons_append,
    ← List.dropLast_append_getLast (List.cons_ne_nil head xs), List.append_assoc] at chain
  obtain ⟨-, ⟨-, back⟩, rest⟩ := List.isChain_append_cons_cons.mp chain
  refine ⟨back, ?_⟩
  cases ys with
  | nil => exact (List.isChain_cons_cons.mp rest).1.1
  | cons y ys => exact (List.isChain_cons_cons.mp rest).1.1

theorem IsRing.head_prev (ring : IsRing h head xs) :
    h.prev head = .ok ((head :: xs).getLast (List.cons_ne_nil head xs)) := by
  have chain := ring.linked
  rw [← List.dropLast_append_getLast (List.cons_ne_nil head xs), List.append_assoc] at chain
  exact (List.isChain_append_cons_cons.mp chain).2.1.2

theorem ring_split (head : Nat) (xs : List Nat) :
    (head :: xs).dropLast ++ [(head :: xs).getLast (List.cons_ne_nil head xs)] = head :: xs :=
  List.dropLast_append_getLast _

/-- A change of the link out of the last node of a chain, behind its first node, keeps the chain. -/
theorem chain_front {front : List Nat} (chain : (front ++ [a]).IsChain (Linked h)) (nodup : (front ++ [a]).Nodup)
    (nexts : ∀ r ∈ front ++ [a], r ≠ a → h'.next r = h.next r) (prevs : ∀ r ∈ (front ++ [a]).tail, h'.prev r = h.prev r) :
    (front ++ [a]).IsChain (Linked h') := by
  refine chain_congr chain (fun r member => ?_) prevs
  rw [List.dropLast_concat] at member
  apply nexts r (List.mem_append_left _ member)
  rintro rfl
  exact (List.nodup_append.mp nodup).2.2 r member r (List.mem_singleton_self r) rfl

/-- So does a change of the link back from its first node. -/
theorem chain_back {back : List Nat} (chain : (b :: back).IsChain (Linked h)) (nodup : (b :: back).Nodup)
    (nexts : ∀ r ∈ (b :: back).dropLast, h'.next r = h.next r) (prevs : ∀ r ∈ b :: back, r ≠ b → h'.prev r = h.prev r) :
    (b :: back).IsChain (Linked h') := by
  refine chain_congr chain nexts fun r member => ?_
  rw [List.tail_cons] at member
  apply prevs r (List.mem_cons_of_mem b member)
  rintro rfl
  exact (List.nodup_cons.mp nodup).1 member

theorem IsRing.insert (ring : IsRing h head xs) (new : p ∉ head :: xs)
    (nexts : ∀ r, h'.next r = if r = p then .ok head
      else if r = (head :: xs).getLast (List.cons_ne_nil head xs) then .ok p else h.next r)
    (prevs : ∀ r, h'.prev r = if r = p then .ok ((head :: xs).getLast (List.cons_ne_nil head xs))
      else if r = head then .ok p else h.prev r)
    (live : ∀ r, h'.Live r ↔ r = p ∨ h.Live r) : IsRing h' head (xs ++ [p]) := by
  have chain := ring.linked
  have whole := ring_split head xs
  have nodup := ring.nodup
  generalize lastEq : (head :: xs).getLast (List.cons_ne_nil head xs) = last at nexts prevs whole
  generalize (head :: xs).dropLast = front at whole
  rw [← whole] at nodup
  have inner : ∀ r ∈ front ++ [last], r ≠ p := by
    rintro r member rfl
    exact new (whole ▸ member)
  refine ⟨?_, fun r => ?_, ?_⟩
  · rw [← List.cons_append]
    apply List.Nodup.append ring.nodup (List.nodup_singleton p)
    rw [List.disjoint_singleton]
    exact new
  · rw [live, ring.live, ← List.cons_append, List.mem_append, List.mem_singleton, or_comm]
  · rw [List.cons_append, ← List.cons_append, ← List.cons_append, ← whole, List.append_assoc, List.append_assoc]
    rw [← whole, List.append_assoc] at chain
    obtain ⟨early, -, -⟩ := List.isChain_append_cons_cons.mp chain
    have lastNew : last ≠ p := inner last (List.mem_append_right front (List.mem_singleton_self last))
    have headNew : head ≠ p := fun same => new (same ▸ List.mem_cons_self)
    refine List.isChain_append_cons_cons.mpr ⟨chain_front early nodup ?_ ?_, ⟨?_, ?_⟩, List.isChain_pair.mpr ⟨?_, ?_⟩⟩
    · intro r member other
      rw [nexts, if_neg (inner r member), if_neg other]
    · intro r member
      have inside : r ∈ front ++ [last] := List.mem_of_mem_tail member
      rw [whole, List.tail_cons] at member
      have notHead : r ≠ head := by
        rintro rfl
        exact (List.nodup_cons.mp ring.nodup).1 member
      rw [prevs, if_neg (inner r inside), if_neg notHead]
    · rw [nexts, if_neg lastNew, if_pos rfl]
    · rw [prevs, if_pos rfl]
    · rw [nexts, if_pos rfl]
    · rw [prevs, if_neg headNew, if_pos rfl]

/-- The node `p` and the parts of the ring in front of it and behind it have no node in common. -/
theorem ring_apart (nodup : (head :: (xs ++ p :: ys)).Nodup) :
    p ∉ head :: xs ∧ p ∉ ys ++ [head] ∧ (∀ r ∈ xs, r ∉ ys ++ [head]) ∧ (∀ r ∈ ys, r ∉ head :: xs) ∧
      (head :: xs).Nodup ∧ (ys ++ [head]).Nodup ∧ (head :: (xs ++ ys)).Nodup := by
  simp only [List.nodup_cons, List.nodup_append, List.mem_append, List.mem_cons, List.not_mem_nil, or_false] at nodup ⊢
  grind

theorem IsRing.remove (ring : IsRing h head (xs ++ p :: ys))
    (nexts : ∀ r, r ≠ p → h'.next r =
      if r = (head :: xs).getLast (List.cons_ne_nil head xs) then .ok (ys.headD head) else h.next r)
    (prevs : ∀ r, r ≠ p → h'.prev r =
      if r = ys.headD head then .ok ((head :: xs).getLast (List.cons_ne_nil head xs)) else h.prev r)
    (live : ∀ r, h'.Live r ↔ r ≠ p ∧ h.Live r) : IsRing h' head (xs ++ ys) := by
  obtain ⟨pFront, pBack, xsBack, ysFront, nodupFront, nodupBack, nodup⟩ := ring_apart ring.nodup
  have chain := ring.linked
  have whole := ring_split head xs
  have behind : ys.headD head :: (ys ++ [head]).tail = ys ++ [head] := by cases ys <;> rfl
  generalize lastEq : (head :: xs).getLast (List.cons_ne_nil head xs) = a at nexts prevs whole
  generalize (head :: xs).dropLast = front at whole
  generalize nextEq : ys.headD head = b at nexts prevs behind
  generalize (ys ++ [head]).tail = back at behind
  refine ⟨nodup, fun r => ?_, ?_⟩
  · rw [live, ring.live, ← List.cons_append, ← List.cons_append, List.mem_append, List.mem_append]
    constructor
    · rintro ⟨other, inFront | inBack⟩
      · exact .inl inFront
      · exact .inr ((List.mem_cons.mp inBack).resolve_left other)
    · rintro (inFront | inBack)
      · exact ⟨fun same => pFront (same ▸ inFront), .inl inFront⟩
      · exact ⟨fun same => pBack (List.mem_append_left _ (same ▸ inBack)), .inr (List.mem_cons_of_mem p inBack)⟩
  · rw [List.cons_append, List.append_assoc, ← List.cons_append, ← whole, ← behind, List.append_assoc]
    rw [List.cons_append, List.append_assoc, ← List.cons_append, ← whole, List.cons_append, ← behind,
      List.append_assoc] at chain
    obtain ⟨early, -, late⟩ := List.isChain_append_cons_cons.mp chain
    obtain ⟨-, late⟩ := List.isChain_cons_cons.mp late
    have aFront : a ∈ head :: xs := whole ▸ List.mem_append_right front (List.mem_singleton_self a)
    have bBack : b ∈ ys ++ [head] := behind ▸ List.mem_cons_self
    refine List.isChain_append_cons_cons.mpr ⟨chain_front early (whole ▸ nodupFront) ?_ ?_, ⟨?_, ?_⟩,
      chain_back late (behind ▸ nodupBack) ?_ ?_⟩
    · intro r member other
      rw [whole] at member
      rw [nexts r (fun same => pFront (same ▸ member)), if_neg other]
    · intro r member
      rw [whole, List.tail_cons] at member
      have notB : r ≠ b := fun same => xsBack r member (same ▸ bBack)
      rw [prevs r (fun same => pFront (List.mem_cons_of_mem head (same ▸ member))), if_neg notB]
    · rw [nexts a (fun same => pFront (same ▸ aFront)), if_pos rfl]
    · rw [prevs b (fun same => pBack (same ▸ bBack)), if_pos rfl]
    · intro r member
      rw [behind, List.dropLast_concat] at member
      have notA : r ≠ a := fun same => ysFront r member (same ▸ aFront)
      rw [nexts r (fun same => pBack (List.mem_append_left _ (same ▸ member))), if_neg notA]
    · intro r member other
      rw [behind] at member
      rw [prevs r (fun same => pBack (same ▸ member)), if_neg other]

end

end RtspServer.LinkedRing
