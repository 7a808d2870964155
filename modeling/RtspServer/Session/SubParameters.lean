import RtspServer.Base.Loop
import RtspServer.Session.Text

/-!
# The loop over the sub-parameters

What the loop over the sub-parameters of a `Transport` header does, in terms of
the text it is on. It never gets past a CR that no LF follows.
-/

namespace RtspServer

def isSeparator (c : UInt8) : Bool := c = SEMICOLON ∨ c = SP ∨ c = TAB

/-- One round of `subParameters`. -/
def subRound (x : CRtspSession × Bytes) : Run ((CRtspSession × Bytes) ⊕ (CRtspSession × Option Bytes)) := do
  let cur ← skip isSeparator x.2
  if (← deref cur) = NUL then return .inr (x.1, none)
  else if ← atLineEnd cur then return .inr (x.1, some cur)
  else
    match ← strpbrk cur with
    | none => return .inr (x.1, none)
    | some next_part =>
      match ← subParameter x.1 cur next_part with
      | (s, none) => return .inr (s, none)
      | (s, some cur) => return .inl (s, cur)

theorem subParameters_eq_loop (fuel : Nat) (s : CRtspSession) (cur : Bytes) :
    subParameters fuel s cur = Loop.run subRound .hang fuel (s, cur) := by
  induction fuel generalizing s cur with
  | zero => rfl
  | succ fuel ih =>
    rw [subParameters, Loop.run, subRound]
    show (skip isSeparator cur >>= _) = _
    cases skip isSeparator cur with
    | error e => rfl
    | ok w =>
      rw [ok_bind, ok_bind]
      cases deref w with
      | error e => rfl
      | ok c =>
        rw [ok_bind, ok_bind]
        by_cases nul : c = NUL
        · rw [if_pos nul, if_pos nul]
          rfl
        rw [if_neg nul, if_neg nul]
        cases atLineEnd w with
        | error e => rfl
        | ok lineEnd =>
          rw [ok_bind, ok_bind]
          cases lineEnd with
          | true => rfl
          | false =>
            rw [if_neg Bool.false_ne_true, if_neg Bool.false_ne_true]
            cases strpbrk w with
            | error e => rfl
            | ok found =>
              cases found with
              | none => rfl
              | some next_part =>
                rw [ok_bind, ok_bind]
                dsimp only
                cases subParameter s w next_part with
                | error e => rfl
                | ok part =>
                  obtain ⟨s, r⟩ := part
                  cases r with
                  | none => rfl
                  | some cur => exact ih s cur

/-! ### The text of the sub-parameters -/

def isText (c : UInt8) : Bool := c ≠ NUL ∧ c ≠ CR

/-- The digits of a sub-parameter `client_port=`. -/
def clientPort (part : Bytes) : Option Bytes :=
  let text := part.dropWhile isblank
  if ascii "client_port=" <+: text then some ((text.drop 12).takeWhile isdigit) else none

/-- The numbers of the sub-parameters `client_port=` in a text without CR and NUL. -/
def clientPorts (text : Bytes) : List Bytes := (text.splitOn SEMICOLON).filterMap clientPort

/-- The text ends in a CR that no LF follows, with no `client_port=` without a number before it. -/
structure Stuck (cur : Bytes) : Prop where
  bare : ∃ d rest, cur.dropWhile isText = CR :: d :: rest ∧ d ≠ LF
  ports : [] ∉ clientPorts (cur.takeWhile isText)

theorem isText_of_separator {c : UInt8} (h : isSeparator c = true) : isText c = true := by
  rcases of_decide_eq_true h with rfl | rfl | rfl <;> rfl

theorem clientPorts_separator {c : UInt8} (h : isSeparator c = true) (text : Bytes) :
    clientPorts (c :: text) = clientPorts text := by
  unfold clientPorts
  rcases of_decide_eq_true h with rfl | rfl | rfl
  · rw [List.splitOn_cons_eq_if_modifyHead, if_pos (beq_self_eq_true _)]
    rfl
  all_goals
    rw [List.splitOn_cons_eq_if_modifyHead, if_neg (by decide)]
    obtain ⟨part, parts, split⟩ := List.exists_cons_of_ne_nil (List.splitOn_ne_nil SEMICOLON text)
    rw [split]
    rfl

theorem clientPorts_part {part : Bytes} (inside : SEMICOLON ∉ part) (text : Bytes) :
    clientPorts (part ++ SEMICOLON :: text) = (clientPort part).toList ++ clientPorts text := by
  unfold clientPorts
  rw [List.splitOn_append_cons_self_of_not_mem inside, List.filterMap_cons]
  cases clientPort part <;> rfl

theorem clientPorts_last {part : Bytes} (inside : SEMICOLON ∉ part) : clientPorts part = (clientPort part).toList := by
  unfold clientPorts
  rw [List.splitOn_eq_singleton inside, List.filterMap_cons]
  cases clientPort part <;> rfl

theorem stuck_separators {pre cur : Bytes} (all : ∀ c ∈ pre, isSeparator c = true) : Stuck (pre ++ cur) ↔ Stuck cur := by
  induction pre with
  | nil => rfl
  | cons c pre ih =>
    have sep := all c List.mem_cons_self
    have text := isText_of_separator sep
    rw [← ih fun d member => all d (List.mem_cons_of_mem c member), List.cons_append]
    constructor
    · rintro ⟨bare, ports⟩
      rw [List.dropWhile_cons_of_pos text] at bare
      rw [List.takeWhile_cons_of_pos text, clientPorts_separator sep] at ports
      exact ⟨bare, ports⟩
    · rintro ⟨bare, ports⟩
      refine ⟨?_, ?_⟩
      · rwa [List.dropWhile_cons_of_pos text]
      · rwa [List.takeWhile_cons_of_pos text, clientPorts_separator sep]

/-! ### A round -/

/-- The characters of a sub-parameter. -/
def isPartText (c : UInt8) : Bool := c ≠ NUL ∧ c ≠ SEMICOLON ∧ c ≠ CR

/-- What a round finds at `cur`: the end of the text, a CR on its own, or a sub-parameter. -/
inductive Found (s : CRtspSession) (cur : Bytes) : Prop
  | nul (pre rest : Bytes) (all : ∀ c ∈ pre, isSeparator c = true) (text : cur = pre ++ NUL :: rest)
      (round : subRound (s, cur) = .ok (.inr (s, none)))
  | lineEnd (pre rest : Bytes) (all : ∀ c ∈ pre, isSeparator c = true) (text : cur = pre ++ CR :: LF :: rest)
      (round : subRound (s, cur) = .ok (.inr (s, some (CR :: LF :: rest))))
  | bare (pre : Bytes) (d : UInt8) (rest : Bytes) (all : ∀ c ∈ pre, isSeparator c = true)
      (text : cur = pre ++ CR :: d :: rest) (other : d ≠ LF)
      (round : subRound (s, cur) = .ok (.inl (s, CR :: d :: rest)))
  | last (pre part rest : Bytes) (all : ∀ c ∈ pre, isSeparator c = true) (inside : ∀ c ∈ part, isPartText c = true)
      (text : cur = pre ++ part ++ NUL :: rest) (round : subRound (s, cur) = .ok (.inr (s, none)))
  | part (pre part : Bytes) (e : UInt8) (rest : Bytes) (all : ∀ c ∈ pre, isSeparator c = true)
      (inside : ∀ c ∈ part, isPartText c = true) (nonempty : part ≠ []) (ends : e = SEMICOLON ∨ e = CR)
      (text : cur = pre ++ part ++ e :: rest)
      (round : subRound (s, cur) = .ok (
        match clientPort part with
        | none => .inl (s, e :: rest)
        | some [] => .inr (s, none)
        | some digits =>
          let m_ClientRTPPort := UInt16.ofInt (atoi digits)
          .inl ({ s with m_ClientRTPPort, m_ClientRTCPPort := m_ClientRTPPort + 1 }, e :: rest)))

theorem takeWhile_stop {p : UInt8 → Bool} {e : UInt8} (stop : p e = false) (front rest : Bytes) :
    (front ++ e :: rest).takeWhile p = front.takeWhile p := by
  induction front with
  | nil => rw [List.nil_append, List.takeWhile_cons, stop]; rfl
  | cons c front ih => rw [List.cons_append, List.takeWhile_cons, List.takeWhile_cons, ih]

/-- A sub-parameter in front of a semicolon or a CR. -/
theorem subParameter_part (s : CRtspSession) {part : Bytes} {c e : UInt8} (rest next_part : Bytes) (first : isblank c = false)
    (ends : e = SEMICOLON ∨ e = CR) :
    subParameter s (c :: part ++ e :: rest) next_part =
      match clientPort (c :: part) with
      | none => .ok (s, some next_part)
      | some [] => .ok (s, none)
      | some digits =>
        let m_ClientRTPPort := UInt16.ofInt (atoi digits)
        .ok ({ s with m_ClientRTPPort, m_ClientRTCPPort := m_ClientRTPPort + 1 }, some next_part) := by
  have absent : e ∉ ascii "client_port=" := by
    rcases ends with rfl | rfl <;> decide
  have stop : isdigit e = false := by
    rcases ends with rfl | rfl <;> rfl
  have text : (c :: part).dropWhile isblank = c :: part := List.dropWhile_cons_of_neg (by simpa using first)
  unfold subParameter clientPort
  rw [text]
  by_cases found : ascii "client_port=" <+: c :: part
  · have digits : ((c :: part ++ e :: rest).drop 12).takeWhile isdigit = ((c :: part).drop 12).takeWhile isdigit := by
      obtain ⟨value, same⟩ := found
      rw [← same, List.append_assoc]
      exact takeWhile_stop stop value rest
    rw [if_pos ((prefix_line absent).mpr found), if_pos found, digits]
    dsimp only
    match ((c :: part).drop 12).takeWhile isdigit with
    | [] => rfl
    | d :: digits => rfl
  · rw [if_neg (fun inside => found ((prefix_line absent).mp inside)), if_neg found]
    rfl

/-- A sub-parameter that begins with `c`, and what `strpbrk` finds behind it. -/
theorem strpbrk_part {c : UInt8} {tail : Bytes} (nul : NUL ∈ c :: tail) (first : isPartText c = true) :
    ∃ part e rest, tail = part ++ e :: rest ∧ (∀ d ∈ c :: part, isPartText d = true) ∧ isPartText e = false ∧
      strpbrk (c :: tail) = if e = NUL then .ok none else .ok (some (e :: rest)) := by
  have search := skip_eq nul (by decide : isPartText NUL = false)
  obtain ⟨part, e, rest, split, found, inside, ends⟩ := skip_ok search
  rw [found] at search split
  cases part with
  | nil =>
    rw [(List.cons.inj split).1, ends] at first
    cases first
  | cons d part =>
    obtain ⟨rfl, tails⟩ := List.cons.inj split
    refine ⟨part, e, rest, tails, inside, ends, ?_⟩
    show (do let rest ← skip isPartText (c :: tail)
             if (← deref rest) = NUL then return none else return some rest) = _
    rw [search]
    rfl

/-- A round behind the separators. -/
theorem subRound_skipped (s : CRtspSession) {cur tail : Bytes} {c : UInt8} (skipped : skip isSeparator cur = .ok (c :: tail)) :
    subRound (s, cur) = (do
      if c = NUL then return .inr (s, none)
      else if ← atLineEnd (c :: tail) then return .inr (s, some (c :: tail))
      else
        match ← strpbrk (c :: tail) with
        | none => return .inr (s, none)
        | some next_part =>
          match ← subParameter s (c :: tail) next_part with
          | (s, none) => return .inr (s, none)
          | (s, some cur) => return .inl (s, cur)) := by
  unfold subRound
  rw [skipped]
  rfl

theorem subRound_found (s : CRtspSession) {cur : Bytes} (nul : NUL ∈ cur) : Found s cur := by
  have skipped := skip_eq nul (by decide : isSeparator NUL = false)
  obtain ⟨pre, c, tail, whole, head, all, stop⟩ := skip_ok skipped
  rw [head] at skipped whole
  have sep : c ≠ SEMICOLON ∧ c ≠ SP ∧ c ≠ TAB := by simpa [isSeparator] using stop
  have later : NUL ∈ c :: tail := by
    rw [← head]
    exact mem_dropWhile nul (by decide)
  have round := subRound_skipped s skipped
  by_cases isNul : c = NUL
  · subst isNul
    exact .nul pre tail all whole (round.trans (if_pos rfl))
  have more : NUL ∈ tail := (List.mem_cons.mp later).resolve_left (Ne.symm isNul)
  rw [if_neg isNul] at round
  by_cases cr : c = CR
  · subst cr
    obtain ⟨d, rest, rfl⟩ := List.exists_cons_of_ne_nil (List.ne_nil_of_mem more)
    by_cases lf : d = LF
    · subst lf
      exact .lineEnd pre rest all whole round
    · refine .bare pre d rest all whole lf (round.trans ?_)
      have onward : atLineEnd (CR :: d :: rest) = .ok false := congrArg Except.ok (decide_eq_false lf)
      rw [onward]
      rfl
  · have onward : atLineEnd (c :: tail) = .ok false := if_neg cr
    obtain ⟨part, e, rest, rfl, inside, ends, looked⟩ := strpbrk_part later (decide_eq_true ⟨isNul, sep.1, cr⟩)
    rw [onward, ok_bind, if_neg Bool.false_ne_true, looked] at round
    by_cases endNul : e = NUL
    · subst endNul
      refine .last pre (c :: part) rest all inside ?_ (round.trans ?_)
      · rw [whole, List.append_assoc, List.cons_append]
      · rw [if_pos rfl]
        rfl
    · have stops : e = SEMICOLON ∨ e = CR := by
        by_contra other
        exact Bool.false_ne_true (ends.symm.trans (decide_eq_true ⟨endNul, not_or.mp other⟩))
      refine .part pre (c :: part) e rest all inside (List.cons_ne_nil _ _) stops ?_ (round.trans ?_)
      · rw [whole, List.append_assoc, List.cons_append]
      · have blank : isblank c = false := decide_eq_false (not_or.mpr sep.2)
        rw [if_neg endNul, ok_bind]
        dsimp only
        rw [← List.cons_append, subParameter_part s rest (e :: rest) blank stops]
        match clientPort (c :: part) with
        | none => rfl
        | some [] => rfl
        | some (d :: digits) => rfl

/-! ### Whether the loop ends -/

section

variable {s : CRtspSession} {cur part rest : Bytes} {e : UInt8}

theorem isText_of_part {c : UInt8} (h : isPartText c = true) : isText c = true := by
  have plain : c ≠ NUL ∧ c ≠ SEMICOLON ∧ c ≠ CR := of_decide_eq_true h
  exact decide_eq_true ⟨plain.1, plain.2.2⟩

theorem semicolon_not_mem (inside : ∀ c ∈ part, isPartText c = true) : SEMICOLON ∉ part := fun member =>
  absurd (inside SEMICOLON member) (by decide)

theorem mem_optionToList (r : Option Bytes) : [] ∉ r.toList ↔ r ≠ some [] := by
  cases r with
  | none => simp
  | some digits => simp [eq_comm]

theorem stuck_part (inside : ∀ c ∈ part, isPartText c = true) (ends : e = SEMICOLON ∨ e = CR) :
    Stuck (part ++ e :: rest) ↔ clientPort part ≠ some [] ∧ Stuck (e :: rest) := by
  have text : ∀ c ∈ part, isText c = true := fun c member => isText_of_part (inside c member)
  have absent := semicolon_not_mem inside
  have back : (part ++ e :: rest).dropWhile isText = (e :: rest).dropWhile isText := List.dropWhile_append_of_pos text
  have front : (part ++ e :: rest).takeWhile isText = part ++ (e :: rest).takeWhile isText :=
    List.takeWhile_append_of_pos text
  have ports : [] ∉ clientPorts ((part ++ e :: rest).takeWhile isText) ↔
      clientPort part ≠ some [] ∧ [] ∉ clientPorts ((e :: rest).takeWhile isText) := by
    rw [front]
    rcases ends with rfl | rfl
    · have semicolon : (SEMICOLON :: rest).takeWhile isText = SEMICOLON :: rest.takeWhile isText := rfl
      rw [semicolon, clientPorts_part absent, clientPorts_separator (by decide), List.mem_append, not_or,
        mem_optionToList]
    · have cr : (CR :: rest).takeWhile isText = [] := rfl
      rw [cr, List.append_nil, clientPorts_last absent, mem_optionToList]
      exact (and_iff_left (by decide)).symm
  constructor
  · rintro ⟨bare, none⟩
    exact ⟨(ports.mp none).1, back ▸ bare, (ports.mp none).2⟩
  · rintro ⟨some, bare, none⟩
    exact ⟨back ▸ bare, ports.mpr ⟨some, none⟩⟩

theorem stuck_bare {d : UInt8} (other : d ≠ LF) : Stuck (CR :: d :: rest) where
  bare := ⟨d, rest, rfl, other⟩
  ports := (by decide : [] ∉ clientPorts [])

theorem not_stuck_nul {front : Bytes} (text : ∀ c ∈ front, isText c = true) : ¬ Stuck (front ++ NUL :: rest) := by
  rintro ⟨⟨d, more, bare, -⟩, -⟩
  rw [List.dropWhile_append_of_pos text] at bare
  exact absurd (List.cons.inj bare).1 (by decide)

theorem mem_rest {front : Bytes} (inside : NUL ∉ front) (nul : NUL ∈ front ++ rest) : NUL ∈ rest :=
  (List.mem_append.mp nul).resolve_left inside

theorem nul_not_mem_separators {pre : Bytes} (all : ∀ c ∈ pre, isSeparator c = true) : NUL ∉ pre := fun member =>
  absurd (all NUL member) (by decide)

theorem nul_not_mem_part (inside : ∀ c ∈ part, isPartText c = true) : NUL ∉ part := fun member =>
  absurd (inside NUL member) (by decide)

/-- What one round does to the text. -/
theorem subRound_next {t : CRtspSession} {next : Bytes} (nul : NUL ∈ cur) (round : Loop.Next subRound (s, cur) (t, next)) :
    NUL ∈ next ∧ (Stuck next ↔ Stuck cur) ∧ (next.length < cur.length ∨ Stuck cur) := by
  unfold Loop.Next at round
  match subRound_found s nul with
  | .nul _ _ _ _ found => exact nomatch found.symm.trans round
  | .lineEnd _ _ _ _ found => exact nomatch found.symm.trans round
  | .last _ _ _ _ _ _ found => exact nomatch found.symm.trans round
  | .bare pre d rest all text other found =>
    cases Sum.inl.inj (Except.ok.inj (found.symm.trans round))
    have bare : Stuck cur := text ▸ (stuck_separators all).mpr (stuck_bare other)
    exact ⟨mem_rest (nul_not_mem_separators all) (text ▸ nul), iff_of_true (stuck_bare other) bare, .inr bare⟩
  | .part pre part e rest all inside nonempty ends text found =>
    have plain : NUL ∉ pre ++ part := fun member =>
      (List.mem_append.mp member).elim (nul_not_mem_separators all) (nul_not_mem_part inside)
    have later : NUL ∈ e :: rest := mem_rest plain (text ▸ nul)
    have shorter : (e :: rest).length < cur.length := by
      have one := List.length_pos_iff.mpr nonempty
      rw [text, List.length_append, List.length_append]
      omega
    have same : Stuck cur ↔ clientPort part ≠ some [] ∧ Stuck (e :: rest) := by
      rw [text, List.append_assoc, stuck_separators all, stuck_part inside ends]
    rw [found] at round
    have onward : next = e :: rest ∧ clientPort part ≠ some [] := by
      revert round
      match clientPort part with
      | none =>
        intro round
        cases Sum.inl.inj (Except.ok.inj round)
        exact ⟨rfl, nofun⟩
      | some [] => exact fun round => nomatch round
      | some (d :: digits) =>
        intro round
        cases Sum.inl.inj (Except.ok.inj round)
        exact ⟨rfl, nofun⟩
    rw [onward.1]
    exact ⟨later, ⟨fun stuck => same.mpr ⟨onward.2, stuck⟩, fun stuck => (same.mp stuck).2⟩, .inl shorter⟩

/-- A text that does not end keeps the loop going. -/
theorem subRound_stuck (s : CRtspSession) (nul : NUL ∈ cur) (stuck : Stuck cur) :
    ∃ t next, Loop.Next subRound (s, cur) (t, next) := by
  match subRound_found s nul with
  | .nul pre rest all text _ => exact absurd (text ▸ stuck) (not_stuck_nul fun c member => isText_of_separator (all c member))
  | .lineEnd pre rest all text _ =>
    rw [text, stuck_separators all] at stuck
    obtain ⟨d, more, bare, other⟩ := stuck.bare
    exact absurd (List.cons.inj (List.cons.inj bare).2).1.symm other
  | .last pre part rest all inside text _ =>
    refine absurd (text ▸ stuck) (not_stuck_nul fun c member => ?_)
    rcases List.mem_append.mp member with front | back
    · exact isText_of_separator (all c front)
    · exact isText_of_part (inside c back)
  | .bare _ _ _ _ _ _ found => exact ⟨_, _, found⟩
  | .part pre part e rest all inside nonempty ends text found =>
    rw [text, List.append_assoc, stuck_separators all, stuck_part inside ends] at stuck
    unfold Loop.Next
    rw [found]
    match clientPort part, stuck.1 with
    | none, _ => exact ⟨_, _, rfl⟩
    | some [], absent => exact absurd rfl absent
    | some (d :: digits), _ => exact ⟨_, _, rfl⟩

/-- In a text that does not end, the loop never ends. -/
theorem subParameters_stuck (s : CRtspSession) (nul : NUL ∈ cur) (stuck : Stuck cur) (fuel : Nat) :
    subParameters fuel s cur = .error .hang := by
  rw [subParameters_eq_loop]
  refine Loop.never_ends (I := fun x => NUL ∈ x.2 ∧ Stuck x.2) ?_ ⟨nul, stuck⟩ fuel
  rintro ⟨s, cur⟩ ⟨nul, stuck⟩
  obtain ⟨t, next, round⟩ := subRound_stuck s nul stuck
  obtain ⟨later, same, -⟩ := subRound_next nul round
  exact ⟨(t, next), round, later, same.mpr stuck⟩

theorem subRound_sound (s : CRtspSession) (nul : NUL ∈ cur) (e : Fault) : subRound (s, cur) ≠ .error e := by
  match subRound_found s nul with
  | .nul _ _ _ _ found => exact fun same => nomatch found.symm.trans same
  | .lineEnd _ _ _ _ found => exact fun same => nomatch found.symm.trans same
  | .last _ _ _ _ _ _ found => exact fun same => nomatch found.symm.trans same
  | .bare _ _ _ _ _ _ found => exact fun same => nomatch found.symm.trans same
  | .part _ part _ _ _ _ _ _ _ found =>
    rw [found]
    match clientPort part with
    | none => exact nofun
    | some [] => exact nofun
    | some (d :: digits) => exact nofun

theorem reaches_going {x : CRtspSession × Bytes} (nul : NUL ∈ cur) (going : ¬ Stuck cur)
    (path : Loop.Reaches subRound (s, cur) x) : NUL ∈ x.2 ∧ ¬ Stuck x.2 := by
  refine Loop.reaches_keeps (I := fun x => NUL ∈ x.2 ∧ ¬ Stuck x.2) ?_ ⟨nul, going⟩ path
  rintro ⟨s, cur⟩ ⟨t, next⟩ ⟨nul, going⟩ round
  obtain ⟨later, same, -⟩ := subRound_next nul round
  exact ⟨later, fun stuck => going (same.mp stuck)⟩

/-- In any other text it ends: each round moves the cursor on. -/
theorem subParameters_ends {fuel : Nat} (s : CRtspSession) (nul : NUL ∈ cur) (going : ¬ Stuck cur)
    (enough : cur.length < fuel) : subParameters fuel s cur ≠ .error .hang := by
  rw [subParameters_eq_loop]
  refine Loop.ends (μ := fun x => x.2.length) ?_ ?_ enough
  · rintro ⟨t, cur⟩ ⟨u, next⟩ path round
    obtain ⟨nul, going⟩ := reaches_going nul going path
    obtain ⟨-, -, shorter | stuck⟩ := subRound_next nul round
    · exact shorter
    · exact absurd stuck going
  · intro x path
    exact subRound_sound x.1 (reaches_going nul going path).1 .hang

/-- More fuel than the text is long gives what any fuel gives, unless it runs out. -/
theorem subParameters_fuel {fuel : Nat} (s : CRtspSession) (nul : NUL ∈ cur) (enough : cur.length < fuel) (n : Nat) :
    subParameters n s cur = subParameters fuel s cur ∨ subParameters n s cur = .error .hang := by
  by_cases stuck : Stuck cur
  · exact .inr (subParameters_stuck s nul stuck n)
  · by_cases out : subParameters n s cur = .error .hang
    · exact .inr out
    · have ends := subParameters_ends s nul stuck enough
      rw [subParameters_eq_loop] at out ends ⊢
      rw [subParameters_eq_loop]
      exact .inl (Loop.run_agree out ends)

end

end RtspServer
