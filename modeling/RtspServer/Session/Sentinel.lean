import RtspServer.Session.HeaderRounds

/-!
# The NUL behind the received bytes

Every function of the parser that starts in front of the NUL reads no further than
to it, and leaves the cursor in front of it or on it.
-/

namespace RtspServer

/-- The cursor is not behind the NUL that `z` follows. -/
def Inside (z cur : Bytes) : Prop := NUL :: z <:+ cur

/-- A run that reads nothing outside the array, and whose cursor stays inside the next `n` characters. -/
def StaysInside {α : Type} (z : Bytes) (n : Nat) (r : Run (α × Option Bytes)) : Prop :=
  r ≠ .error .outOfBounds ∧ ∀ a cur, r = .ok (a, some cur) → Inside z cur ∧ cur.length ≤ n

section

variable {z cur rest : Bytes}

theorem Inside.nul (h : Inside z cur) : NUL ∈ cur := h.subset List.mem_cons_self

theorem Inside.tail {c : UInt8} (h : Inside z (c :: rest)) (other : c ≠ NUL) : Inside z rest := by
  rcases List.suffix_cons_iff.mp h with same | later
  · exact absurd (List.cons.inj same).1.symm other
  · exact later

theorem Inside.behind {front : Bytes} (h : Inside z (front ++ rest)) (clean : NUL ∉ front) : Inside z rest := by
  induction front with
  | nil => exact h
  | cons c front ih =>
    refine ih (h.tail fun zero => clean ?_) fun member => clean (List.mem_cons_of_mem c member)
    rw [zero]
    exact List.mem_cons_self

theorem Inside.drop_word {word : Bytes} (h : Inside z cur) (found : word <+: cur) (clean : NUL ∉ word) :
    Inside z (cur.drop word.length) := by
  obtain ⟨rest, rfl⟩ := found
  rw [List.drop_left]
  exact h.behind clean

theorem Inside.dropWhile {p : UInt8 → Bool} (h : Inside z cur) (stop : p NUL = false) : Inside z (cur.dropWhile p) := by
  rw [← List.takeWhile_append_dropWhile (p := p) (l := cur)] at h
  refine h.behind fun member => ?_
  rw [List.mem_takeWhile_imp member] at stop
  cases stop

theorem Inside.cons (h : Inside z cur) : ∃ c rest, cur = c :: rest ∧ (c ≠ NUL → Inside z rest) := by
  obtain ⟨c, rest, rfl⟩ := List.exists_cons_of_ne_nil (List.ne_nil_of_mem h.nul)
  exact ⟨c, rest, rfl, h.tail⟩

theorem skip_inside {p : UInt8 → Bool} (h : Inside z cur) (stop : p NUL = false) :
    ∃ rest, skip p cur = .ok rest ∧ Inside z rest ∧ rest.length ≤ cur.length :=
  ⟨cur.dropWhile p, skip_eq h.nul stop, h.dropWhile stop, (List.dropWhile_suffix p).length_le⟩

theorem glue_inside {cur : Bytes} (h : Inside z cur) : ∃ w, glue cur = .ok w ∧ Inside z w ∧ w.length = cur.length := by
  match cur with
  | [] => exact absurd h.nul List.not_mem_nil
  | c :: rest =>
    unfold glue
    by_cases nul : c = NUL
    · exact ⟨_, if_pos nul, h, rfl⟩
    rw [if_neg nul]
    have later := h.tail nul
    by_cases lineEnd : c = CR ∧ rest.head? = some LF
    · rw [if_pos lineEnd]
      -- the line feed is not the NUL, so a character follows it
      obtain ⟨head, more, rfl, next⟩ := later.cons
      have lf : head ≠ NUL := by
        rintro rfl
        cases lineEnd.2
      obtain ⟨d, more, rfl, -⟩ := (next lf).cons
      dsimp only
      split
      · obtain ⟨w, glued, inside, same⟩ := glue_inside (later.tail lf)
        exact ⟨SP :: SP :: w, by rw [glued]; rfl, (inside.trans (List.suffix_cons SP w)).trans (List.suffix_cons SP _),
          congrArg (· + 2) same⟩
      · exact ⟨_, rfl, h, rfl⟩
    · rw [if_neg lineEnd]
      obtain ⟨w, glued, inside, same⟩ := glue_inside later
      exact ⟨c :: w, by rw [glued]; rfl, inside.trans (List.suffix_cons c w), congrArg (· + 1) same⟩
termination_by cur.length

theorem skipCounted_inside (p : UInt8 → Bool) (count : Int) (h : Inside z cur) :
    ∃ rest n, skipCounted p cur count = .ok (rest, n) ∧ Inside z rest ∧ rest.length ≤ cur.length := by
  induction cur generalizing count with
  | nil => exact absurd h.nul List.not_mem_nil
  | cons c cur ih =>
    rw [skipCounted]
    split
    · rename_i going
      obtain ⟨rest, n, skipped, inside, short⟩ := ih (count - 1) (h.tail going.1)
      exact ⟨rest, n, skipped, inside, Nat.le_succ_of_le short⟩
    · exact ⟨c :: cur, count, rfl, h, Nat.le_refl _⟩

theorem parse_numeric_inside (h : Inside z cur) (max_length : Int) :
    ∃ r, parse_numeric_header cur max_length = .ok r ∧
      ∀ n rest, r = some (n, rest) → Inside z rest ∧ rest.length ≤ cur.length := by
  obtain ⟨start, count, blanks, inside, short⟩ := skipCounted_inside isblank max_length h
  obtain ⟨rest, count', digits, inside', short'⟩ := skipCounted_inside isdigit count inside
  obtain ⟨c, more, rfl, -⟩ := inside.cons
  unfold parse_numeric_header
  rw [blanks, ok_bind]
  dsimp only
  rw [deref_cons, ok_bind]
  split
  · exact ⟨none, rfl, fun n rest same => nomatch same⟩
  rw [digits, ok_bind]
  dsimp only
  split
  · exact ⟨none, rfl, fun n rest same => nomatch same⟩
  · refine ⟨_, rfl, fun n rest' same => ?_⟩
    rw [← (Prod.mk.inj (Option.some.inj same)).2]
    exact ⟨inside', short'.trans short⟩

end

/-! ### Parses -/

section

variable {z cur : Bytes} {s : CRtspSession} {n : Nat}

theorem staysInside_none (s : CRtspSession) : StaysInside z n (Pure.pure (s, none) : Parse) :=
  ⟨nofun, fun _ _ same => nomatch same⟩

theorem staysInside_some (s : CRtspSession) (h : Inside z cur) (short : cur.length ≤ n) :
    StaysInside z n (Pure.pure (s, some cur) : Parse) :=
  ⟨nofun, fun _ _ same => by cases same; exact ⟨h, short⟩⟩

theorem staysInside_hang : StaysInside z n (.error .hang : Parse) := ⟨nofun, fun _ _ same => nomatch same⟩

theorem StaysInside.next {r : Parse} {f : CRtspSession → Bytes → Parse} (first : StaysInside z n r)
    (rest : ∀ s cur, Inside z cur → cur.length ≤ n → StaysInside z n (f s cur)) : StaysInside z n (r.next f) := by
  match r, first with
  | .error e, first => exact ⟨fun same => first.1 (congrArg Except.error (Except.error.inj same)), fun _ _ same => nomatch same⟩
  | .ok (s, none), _ => exact staysInside_none s
  | .ok (s, some cur), first => exact rest s cur (first.2 s cur rfl).1 (first.2 s cur rfl).2

theorem StaysInside.mono {r : Parse} {m : Nat} (h : StaysInside z n r) (le : n ≤ m) : StaysInside z m r :=
  ⟨h.1, fun a cur same => ⟨(h.2 a cur same).1, (h.2 a cur same).2.trans le⟩⟩

theorem subParameters_inside (h : Inside z cur) (fuel : Nat) (short : cur.length ≤ n) :
    StaysInside z n (subParameters fuel s cur) := by
  rw [subParameters_eq_loop]
  induction fuel generalizing s cur with
  | zero => exact staysInside_hang
  | succ fuel ih =>
    match subRound_found s h.nul with
    | .nul _ _ _ _ found =>
      rw [Loop.run_done found]
      exact staysInside_none s
    | .lineEnd pre rest all text found =>
      rw [Loop.run_done found]
      rw [text] at h short
      apply staysInside_some s (h.behind (nul_not_mem_separators all))
      rw [List.length_append] at short
      omega
    | .last _ _ _ _ _ _ found =>
      rw [Loop.run_done found]
      exact staysInside_none s
    | .bare pre d rest all text _ found =>
      rw [Loop.run_next found]
      rw [text] at h short
      apply ih (h.behind (nul_not_mem_separators all))
      rw [List.length_append] at short
      omega
    | .part pre part e rest all inside _ _ text found =>
      rw [text] at h short
      have clean : NUL ∉ pre ++ part := fun member =>
        (List.mem_append.mp member).elim (nul_not_mem_separators all) (nul_not_mem_part inside)
      have later : Inside z (e :: rest) := h.behind clean
      have short' : (e :: rest).length ≤ n := by
        rw [List.length_append] at short
        omega
      match taken : clientPort part with
      | none =>
        rw [taken] at found
        rw [Loop.run_next found]
        exact ih later short'
      | some [] =>
        rw [taken] at found
        rw [Loop.run_done found]
        exact staysInside_none s
      | some (d :: digits) =>
        rw [taken] at found
        rw [Loop.run_next found]
        exact ih later short'

theorem transportStart_inside (h : Inside z cur) :
    ∃ r, transportStart cur = .ok r ∧ ∀ tcp rest, r = some (tcp, rest) → Inside z rest ∧ rest.length ≤ cur.length := by
  obtain ⟨w, skipped, inside, short⟩ := skip_inside h (by decide : isspace NUL = false)
  unfold transportStart
  rw [skipped, ok_bind]
  split
  · exact ⟨none, rfl, fun tcp rest same => nomatch same⟩
  rename_i found
  have later := inside.drop_word (not_not.mp found) (by decide)
  have short' : (w.drop 7).length ≤ cur.length := by
    rw [List.length_drop]
    omega
  dsimp only
  split
  · rename_i tcp
    refine ⟨_, rfl, fun tcp' rest same => ?_⟩
    cases same
    refine ⟨later.drop_word tcp (by decide), ?_⟩
    rw [List.length_drop]
    omega
  · refine ⟨_, rfl, fun tcp' rest same => ?_⟩
    cases same
    exact ⟨later, short'⟩

theorem transportIn_inside (h : Inside z cur) (fuel : Nat) : StaysInside z cur.length (transportIn fuel s cur) := by
  obtain ⟨r, started, args⟩ := transportStart_inside h
  unfold transportIn
  rw [started, ok_bind]
  match r, args with
  | none, _ => exact staysInside_none s
  | some (tcp, rest), args =>
    obtain ⟨inside, short⟩ := args tcp rest rfl
    exact subParameters_inside inside fuel short

/-- `transport` has more fuel than it has text. -/
theorem transport_start (s : CRtspSession) {r : Option (Bool × Bytes)} (started : transportStart cur = .ok r) :
    (r = none ∧ transport s cur = .ok (s, none)) ∨
    ∃ tcp args fuel, r = some (tcp, args) ∧ args.length < fuel ∧
      transport s cur = subParameters fuel { s with m_TcpTransport := tcp, m_ClientRTPPort := 0 } args := by
  unfold transportStart at started
  unfold transport
  obtain ⟨w, skipped, started⟩ := bind_ok started
  rw [skipped]
  split at started
  · rename_i other
    exact .inl ⟨(pure_ok started).symm, if_pos other⟩
  rename_i found
  dsimp only at started
  rw [ok_bind, if_neg found]
  dsimp only
  have tail : ((w.drop 7).drop 4).length < (w.drop 7).length + 1 := by
    rw [List.length_drop]
    omega
  split at started
  · rename_i tcp
    exact .inr ⟨true, _, _, (pure_ok started).symm, tail, if_pos tcp⟩
  · rename_i udp
    exact .inr ⟨false, _, _, (pure_ok started).symm, Nat.lt_succ_self _, if_neg udp⟩

theorem transport_inside (h : Inside z cur) : StaysInside z cur.length (transport s cur) := by
  obtain ⟨r, started, args⟩ := transportStart_inside h
  rcases transport_start s started with ⟨-, same⟩ | ⟨tcp, rest, fuel, rfl, -, same⟩
  · rw [same]
    exact staysInside_none s
  · obtain ⟨inside, short⟩ := args tcp rest rfl
    rw [same]
    exact subParameters_inside inside fuel short

theorem transportIn_start (s : CRtspSession) (fuel : Nat) {tcp : Bool} {args : Bytes}
    (started : transportStart cur = .ok (some (tcp, args))) :
    transportIn fuel s cur = subParameters fuel { s with m_TcpTransport := tcp, m_ClientRTPPort := 0 } args := by
  unfold transportIn
  rw [started]
  rfl

theorem transportIn_none (s : CRtspSession) (fuel : Nat) (started : transportStart cur = .ok none) :
    transportIn fuel s cur = .ok (s, none) := by
  unfold transportIn
  rw [started]
  rfl

theorem transportIn_approx (s : CRtspSession) (h : Inside z cur) (fuel : Nat) :
    transportIn fuel s cur = transport s cur ∨ transportIn fuel s cur = .error .hang := by
  obtain ⟨r, started, args⟩ := transportStart_inside h
  rcases transport_start s started with ⟨rfl, same⟩ | ⟨tcp, rest, enough, rfl, more, same⟩
  · exact .inl ((transportIn_none s fuel started).trans same.symm)
  · rw [same, transportIn_start s fuel started]
    exact subParameters_fuel _ (args tcp rest rfl).1.nul more fuel

theorem transportIn_enough (s : CRtspSession) (h : Inside z cur) {fuel : Nat} (enough : cur.length < fuel) :
    transportIn fuel s cur = transport s cur := by
  obtain ⟨r, started, args⟩ := transportStart_inside h
  rcases transport_start s started with ⟨rfl, same⟩ | ⟨tcp, rest, fuel', rfl, more, same⟩
  · exact (transportIn_none s fuel started).trans same.symm
  · obtain ⟨inside, short⟩ := args tcp rest rfl
    rw [same, transportIn_start s fuel started]
    have there := subParameters_fuel { s with m_TcpTransport := tcp, m_ClientRTPPort := 0 } inside.nul more fuel
    have back := subParameters_fuel { s with m_TcpTransport := tcp, m_ClientRTPPort := 0 } inside.nul
      (Nat.lt_of_le_of_lt short enough) fuel'
    exact Loop.eq_of_either there back

/-! ### Header lines -/

/-- A reader of `Transport` headers that stays inside. -/
def Sound (tr : CRtspSession → Bytes → Parse) : Prop :=
  ∀ z s cur, Inside z cur → StaysInside z cur.length (tr s cur)

theorem otherHeaderWith_inside {tr : CRtspSession → Bytes → Parse} (sound : Sound tr) (h : Inside z cur) :
    StaysInside z cur.length (otherHeaderWith tr s cur) := by
  obtain ⟨w, glued, inside, same⟩ := glue_inside h
  unfold otherHeaderWith
  rw [glued, ok_bind, ← same]
  apply StaysInside.next
  · split
    · rename_i header
      have later := inside.drop_word header.2 (by decide)
      apply (sound z s _ later).mono
      rw [List.length_drop]
      omega
    · exact staysInside_some s inside (Nat.le_refl _)
  · intro s cur inside short
    obtain ⟨rest, skipped, inside', short'⟩ := skip_inside (p := fun c => c ≠ NUL ∧ c ≠ CR) inside (by decide)
    rw [skipped]
    exact staysInside_some s inside' (short'.trans short)

theorem headerLineWith_inside {tr : CRtspSession → Bytes → Parse} (sound : Sound tr) (h : Inside z cur) (left : Int) :
    StaysInside z cur.length (headerLineWith tr s left cur) := by
  unfold headerLineWith headerLine
  by_cases first : ascii "CSeq:" <+: cur
  · obtain ⟨r, parsed, inside⟩ := parse_numeric_inside (h.drop_word first (by decide)) (left - 5)
    have parsed : parse_numeric_header (cur.drop 5) (left - 5) = .ok r := parsed
    rw [if_pos (.inl first), if_pos first, parsed, ok_bind]
    match r, inside with
    | none, _ => exact staysInside_none s
    | some (number, rest), inside =>
      obtain ⟨inside, short⟩ := inside number rest rfl
      exact staysInside_some _ inside (short.trans (List.drop_suffix _ _).length_le)
  by_cases second : ascii "Content-Length:" <+: cur
  · obtain ⟨r, parsed, inside⟩ := parse_numeric_inside (h.drop_word second (by decide)) (left - 15)
    have parsed : parse_numeric_header (cur.drop 15) (left - 15) = .ok r := parsed
    rw [if_pos (.inr second), if_neg first, if_pos second, parsed, ok_bind]
    match r, inside with
    | none, _ => exact staysInside_none s
    | some (number, rest), inside =>
      obtain ⟨inside, short⟩ := inside number rest rfl
      exact staysInside_some _ inside (short.trans (List.drop_suffix _ _).length_le)
  rw [if_neg (not_or.mpr ⟨first, second⟩)]
  exact otherHeaderWith_inside sound h

/-! ### The start of a line -/

theorem skipLeftovers_inside (h : Inside z cur) :
    ∃ w, skipLeftovers cur = .ok w ∧ Inside z w ∧ w.length ≤ cur.length := by
  induction cur with
  | nil => exact absurd h.nul List.not_mem_nil
  | cons c cur ih =>
    rw [skipLeftovers]
    split
    · exact ⟨_, rfl, h, Nat.le_refl _⟩
    rename_i plain
    have later := h.tail (not_or.mp plain).1
    obtain ⟨d, rest, rfl, -⟩ := later.cons
    rw [deref_cons, ok_bind]
    split
    · exact ⟨_, rfl, h, Nat.le_refl _⟩
    · obtain ⟨w, skipped, inside, short⟩ := ih later
      exact ⟨w, skipped, inside, Nat.le_succ_of_le short⟩

/-- The step over the line end loses the NUL only where it follows a CR. -/
theorem lineStart_inside (h : Inside z cur) :
    lineStart cur = .ok none ∨
    (skipLeftovers cur = .ok (CR :: NUL :: z) ∧ lineStart cur = .ok (some z)) ∨
    (skipLeftovers cur ≠ .ok (CR :: NUL :: z) ∧
      ∃ l, lineStart cur = .ok (some l) ∧ Inside z l ∧ l.length < cur.length) := by
  obtain ⟨w, skipped, inside, short⟩ := skipLeftovers_inside h
  unfold lineStart
  rw [skipped, ok_bind]
  obtain ⟨c, rest, rfl, next⟩ := inside.cons
  rw [deref_cons, ok_bind]
  split
  · exact .inl rfl
  rename_i line
  obtain ⟨notNul, lf⟩ := not_or.mp line
  have later := next notNul
  obtain ⟨d, more, rfl, next'⟩ := later.cons
  right
  by_cases last : c :: d :: more = CR :: NUL :: z
  · rw [last]
    exact .inl ⟨rfl, rfl⟩
  · refine .inr ⟨fun same => last (Except.ok.inj same), more, rfl, ?_, ?_⟩
    · by_cases nul : d = NUL
      · subst nul
        rcases List.suffix_cons_iff.mp later with mark | behind
        · refine absurd ?_ last
          have cr : c = CR := by
            by_contra other
            exact lf ⟨other, fun same => nomatch same⟩
          rw [cr, ← mark]
        · exact behind
      · exact next' nul
    · simp only [List.length_cons] at short
      omega

theorem version_inside (s : CRtspSession) (h : Inside z cur) :
    ∃ r, version s cur = .ok (s, r) ∧ ∀ rest, r = some rest → Inside z rest ∧ rest.length ≤ cur.length := by
  obtain ⟨w, skipped, inside, short⟩ := skip_inside h (by decide : isspace NUL = false)
  unfold version
  rw [skipped, ok_bind]
  split
  · exact ⟨none, rfl, fun _ same => nomatch same⟩
  rename_i found
  have later := inside.drop_word (not_not.mp found) (by decide)
  have short' : (w.drop 5).length ≤ cur.length := by
    rw [List.length_drop]
    omega
  change Inside z (w.drop 5) at later
  dsimp only
  generalize w.drop 5 = v at later short'
  obtain ⟨major, rest, rfl, behindMajor⟩ := later.cons
  rw [deref_cons, ok_bind]
  split
  · exact ⟨none, rfl, fun _ same => nomatch same⟩
  rename_i digit
  have notNul : major ≠ NUL := by
    rintro rfl
    exact digit (by decide)
  obtain ⟨dot, rest, rfl, behindDot⟩ := (behindMajor notNul).cons
  rw [List.drop_succ_cons, List.drop_zero, deref_cons, ok_bind]
  split
  · exact ⟨none, rfl, fun _ same => nomatch same⟩
  rename_i point
  have notNul : dot ≠ NUL := by
    rintro rfl
    exact point (by decide)
  obtain ⟨minor, rest, rfl, behindMinor⟩ := (behindDot notNul).cons
  rw [List.drop_succ_cons, List.drop_succ_cons, List.drop_zero, deref_cons, ok_bind]
  split
  · exact ⟨none, rfl, fun _ same => nomatch same⟩
  rename_i digit
  have notNul : minor ≠ NUL := by
    rintro rfl
    exact digit (by decide)
  refine ⟨some rest, rfl, fun _ same => ?_⟩
  cases same
  simp only [List.length_cons] at short'
  exact ⟨behindMinor notNul, by omega⟩

/-! ### Rounds -/

theorem otherHeaderWith_approx {tr tr' : CRtspSession → Bytes → Parse} (h : Inside z cur)
    (approx : ∀ w, Inside z w → w.length ≤ cur.length → tr' s w = tr s w ∨ tr' s w = .error .hang) :
    otherHeaderWith tr' s cur = otherHeaderWith tr s cur ∨ otherHeaderWith tr' s cur = .error .hang := by
  obtain ⟨w, glued, inside, same⟩ := glue_inside h
  unfold otherHeaderWith
  rw [glued, ok_bind, ok_bind]
  by_cases header : s.m_RtspCmdType = .RTSP_SETUP ∧ ascii "Transport:" <+: w
  · rw [if_pos header, if_pos header]
    have short : (w.drop 10).length ≤ cur.length := by
      rw [List.length_drop]
      omega
    rcases approx (w.drop 10) (inside.drop_word header.2 (by decide)) short with equal | out
    · exact .inl (by rw [equal])
    · right
      rw [out]
      rfl
  · rw [if_neg header, if_neg header]
    exact .inl rfl

theorem headerLineWith_approx {tr tr' : CRtspSession → Bytes → Parse} (left : Int) (h : Inside z cur)
    (approx : ∀ w, Inside z w → w.length ≤ cur.length → tr' s w = tr s w ∨ tr' s w = .error .hang) :
    headerLineWith tr' s left cur = headerLineWith tr s left cur ∨ headerLineWith tr' s left cur = .error .hang := by
  unfold headerLineWith
  split
  · exact .inl rfl
  · exact otherHeaderWith_approx h approx

end

section

variable {q a : Bytes} {size : Nat} {x y : CRtspSession × Bytes} {tr tr' : CRtspSession → Bytes → Parse}

/-- What stands behind the NUL of a received text. -/
def padding (q : Bytes) : Bytes := List.replicate (499 - q.length) NUL

theorem deref_padding (q : Bytes) : deref (padding q) = if q.length < 499 then .ok NUL else .error .outOfBounds := by
  unfold padding
  split
  · rename_i short
    obtain ⟨n, some⟩ := Nat.exists_eq_succ_of_ne_zero (Nat.sub_ne_zero_of_lt short)
    rw [some, List.replicate_succ]
    rfl
  · rename_i full
    rw [Nat.sub_eq_zero_of_le (Nat.le_of_not_lt full)]
    rfl

theorem padding_head {c : UInt8} (head : (padding q).head? = some c) : c = NUL :=
  List.eq_of_mem_replicate (List.mem_of_mem_head? head)

/-- The next round of the loop comes to a CR that is the last byte received. -/
def AtLastCR (q cur : Bytes) : Prop := skipLeftovers cur = .ok (CR :: NUL :: padding q)

variable (tr a size) in
theorem headerRound_atLast (last : AtLastCR q x.2) (h : Inside (padding q) x.2) :
    lineStart x.2 = .ok (some (padding q)) ∧
      headerRound tr a size x = if q.length < 499 then .ok (.inr (x.1, true)) else .error .outOfBounds := by
  have started : lineStart x.2 = .ok (some (padding q)) := by
    rcases lineStart_inside h with none | ⟨-, some⟩ | ⟨other, -⟩
    · unfold lineStart at none
      rw [last, ok_bind] at none
      cases none
    · exact some
    · exact absurd last other
  refine ⟨started, ?_⟩
  unfold headerRound
  rw [started, ok_bind]
  dsimp only
  rw [deref_padding]
  split <;> rfl

variable (a size) in
/-- What a round does, whatever reads the `Transport` header: it comes to a CR that is the last byte received, it
ends where it is, or it reads a header line. -/
theorem headerRound_step (h : Inside (padding q) x.2) :
    (AtLastCR q x.2 ∧ lineStart x.2 = .ok (some (padding q))) ∨
    (¬ AtLastCR q x.2 ∧ (∀ l, lineStart x.2 = .ok (some l) → ∀ c, l.head? = some c → c = NUL) ∧
      ∃ b, ∀ tr, headerRound tr a size x = .ok (.inr (x.1, b))) ∨
    (¬ AtLastCR q x.2 ∧ ∃ l, lineStart x.2 = .ok (some l) ∧ Inside (padding q) l ∧ l.length < x.2.length ∧
      ∀ tr, headerRound tr a size x = (do
        match ← headerLineWith tr x.1 (size - (a.length - l.length)) l with
        | (s, none) => return .inr (s, false)
        | (s, some cur) => return .inl (s, cur))) := by
  by_cases last : AtLastCR q x.2
  · exact .inl ⟨last, (headerRound_atLast a size transport last h).1⟩
  rcases lineStart_inside h with none | ⟨last', -⟩ | ⟨-, l, started, inside, short⟩
  · refine .inr (.inl ⟨last, fun l some => (nomatch none.symm.trans some), false, fun tr => ?_⟩)
    unfold headerRound
    rw [none]
    rfl
  · exact absurd last' last
  have round tr : headerRound tr a size x = (do
      if (← deref l) = NUL then return .inr (x.1, true)
      else
        match ← headerLineWith tr x.1 (size - (a.length - l.length)) l with
        | (s, none) => return .inr (s, false)
        | (s, some cur) => return .inl (s, cur)) := by
    unfold headerRound
    rw [started]
    rfl
  obtain ⟨c, rest, rfl, -⟩ := inside.cons
  by_cases nul : c = NUL
  · refine .inr (.inl ⟨last, fun l some d head => ?_, true, fun tr => ?_⟩)
    · cases Except.ok.inj (started.symm.trans some)
      exact (Option.some.inj head).symm.trans nul
    · rw [round, deref_cons, ok_bind, if_pos nul]
      rfl
  · refine .inr (.inr ⟨last, _, started, inside, short, fun tr => ?_⟩)
    rw [round, deref_cons, ok_bind, if_neg nul]

variable (tr a size) in
/-- A round ends where it is, at the start of a line at most, or it reads a header line. -/
theorem headerRound_cases (h : Inside (padding q) x.2) :
    ((∀ r, headerRound tr a size x = .ok r → ∃ b, r = .inr (x.1, b)) ∧
      ∀ l, lineStart x.2 = .ok (some l) → ∀ c, l.head? = some c → c = NUL) ∨
    ∃ l, lineStart x.2 = .ok (some l) ∧ Inside (padding q) l ∧ headerRound tr a size x = (do
      match ← headerLineWith tr x.1 (size - (a.length - l.length)) l with
      | (s, none) => return .inr (s, false)
      | (s, some cur) => return .inl (s, cur)) := by
  rcases headerRound_step a size h with ⟨last, started⟩ | ⟨-, unread, b, round⟩ | ⟨-, l, started, inside, -, round⟩
  · refine .inl ⟨fun r round => ?_, fun l some c head => ?_⟩
    · rw [(headerRound_atLast a size tr last h).2] at round
      split at round <;> cases round
      exact ⟨true, rfl⟩
    · cases Except.ok.inj (started.symm.trans some)
      exact padding_head head
  · exact .inl ⟨fun r same => ⟨b, Except.ok.inj (same.symm.trans (round tr))⟩, unread⟩
  · exact .inr ⟨l, started, inside, round tr⟩

/-- Anywhere else a round stays inside and moves on. -/
theorem headerRound_inside (sound : Sound tr) (h : Inside (padding q) x.2) (other : ¬ AtLastCR q x.2) :
    headerRound tr a size x ≠ .error .outOfBounds ∧
      ∀ y, Loop.Next (headerRound tr a size) x y → Inside (padding q) y.2 ∧ y.2.length < x.2.length := by
  unfold Loop.Next
  rcases headerRound_step a size h with ⟨last, -⟩ | ⟨-, -, b, round⟩ | ⟨-, l, -, inside, short, round⟩
  · exact absurd last other
  · rw [round]
    exact ⟨nofun, fun _ same => nomatch same⟩
  rw [round]
  have line := headerLineWith_inside (s := x.1) sound inside (size - (a.length - l.length))
  cases read : headerLineWith tr x.1 (size - (a.length - l.length)) l with
  | error e =>
    rw [read] at line
    exact ⟨fun same => line.1 (congrArg Except.error (Except.error.inj same)), fun _ same => nomatch same⟩
  | ok r =>
    rw [read] at line
    obtain ⟨t, r⟩ := r
    cases r with
    | none => exact ⟨nofun, fun _ same => nomatch same⟩
    | some cur =>
      refine ⟨nofun, fun y same => ?_⟩
      cases same
      obtain ⟨inside', short'⟩ := line.2 t cur rfl
      exact ⟨inside', Nat.lt_of_le_of_lt short' short⟩

theorem headerRound_next (sound : Sound tr) (h : Inside (padding q) x.2) (next : Loop.Next (headerRound tr a size) x y) :
    Inside (padding q) y.2 ∧ y.2.length < x.2.length := by
  by_cases last : AtLastCR q x.2
  · have stop := (headerRound_atLast a size tr last h).2
    unfold Loop.Next at next
    rw [next] at stop
    split at stop <;> exact nomatch stop
  · exact (headerRound_inside sound h last).2 y next

theorem headerRound_approx (h : Inside (padding q) x.2)
    (approx : ∀ w, Inside (padding q) w → w.length ≤ x.2.length → tr' x.1 w = tr x.1 w ∨ tr' x.1 w = .error .hang) :
    headerRound tr' a size x = headerRound tr a size x ∨ headerRound tr' a size x = .error .hang := by
  rcases headerRound_step a size h with ⟨last, -⟩ | ⟨-, -, b, round⟩ | ⟨-, l, -, inside, short, round⟩
  · left
    rw [(headerRound_atLast a size tr' last h).2, (headerRound_atLast a size tr last h).2]
  · left
    rw [round, round]
  rw [round, round]
  rcases headerLineWith_approx (size - (a.length - l.length)) inside
    (fun w inside le => approx w inside (le.trans (Nat.le_of_lt short))) with equal | out
  · exact .inl (by rw [equal])
  · right
    rw [out]
    rfl

/-! ### The request line -/

theorem bufferOf_inside (q : Bytes) : Inside (padding q) (bufferOf q) := List.suffix_append q _

theorem uriOf_inside {uri : Bytes} (found : uriOf (bufferOf q) = some uri) : Inside (padding q) uri := by
  unfold uriOf at found
  split at found
  · rename_i word
    have same := Option.some.inj found
    have colon : (58 : UInt8) ∈ afterCmdName (bufferOf q) := mem_of_strncasecmp (by decide) word (by decide)
    rcases List.suffix_or_suffix_of_suffix (bufferOf_inside q) (afterCmdName_suffix (a := bufferOf q)) with within | short
    · obtain ⟨front, split⟩ := within
      have behind : 7 ≤ front.length := by
        by_contra few
        have inside : NUL ∈ (afterCmdName (bufferOf q)).take 7 := by
          rw [← split, List.take_append]
          obtain ⟨n, more⟩ := Nat.exists_eq_succ_of_ne_zero (Nat.sub_ne_zero_of_lt (Nat.lt_of_not_le few))
          rw [more]
          exact List.mem_append_right _ List.mem_cons_self
        have lowered : tolower NUL ∈ ascii "rtsp://" := by
          unfold strncasecmp at word
          rw [← word]
          exact List.mem_map_of_mem inside
        exact absurd lowered (by decide)
      rw [← same, ← split, List.drop_append_of_le_length behind]
      exact List.suffix_append _ _
    · -- the NULs hold no colon
      rcases List.mem_cons.mp (short.subset colon) with nul | nuls
      · exact absurd nul (by decide)
      · exact absurd (List.eq_of_mem_replicate nuls) (by decide)
  · cases found

theorem storesOf_inside_cursor {cur : Bytes} (passed : (storesOf (bufferOf q)).2 = some cur) :
    Inside (padding q) cur ∧ cur.length ≤ (bufferOf q).length := by
  unfold storesOf at passed
  cases found : uriOf (bufferOf q) with
  | none =>
    rw [found] at passed
    cases passed
  | some uri =>
    rw [found] at passed
    have behind {u : Bytes} (h : Inside (padding q) u ∧ u <:+ bufferOf q) :
        Inside (padding q) (afterPart u) ∧ afterPart u <:+ bufferOf q :=
      ⟨(h.1.dropWhile (by decide)).dropWhile (by decide),
        ((List.dropWhile_suffix _).trans (List.dropWhile_suffix _)).trans h.2⟩
    obtain ⟨inside, suffix⟩ := behind (behind (behind ⟨uriOf_inside found, uriOf_suffix found⟩))
    change (partsStored uri).2 = some cur at passed
    unfold partsStored streamRest at passed
    dsimp only at passed
    split at passed
    · split at passed
      · dsimp only at passed
        split at passed
        · rw [← Option.some.inj passed]
          exact ⟨inside, suffix.length_le⟩
        · cases passed
      · cases passed
    · cases passed

theorem lineCursor_inside (s : CRtspSession) (q : Bytes) :
    ∃ r, lineCursor s (bufferOf q) = .ok r ∧ ∀ cur, r = some cur → Inside (padding q) cur ∧ cur.length ≤ (bufferOf q).length := by
  unfold lineCursor
  rw [uriStores_eq s (terminated_bufferOf q), ok_bind]
  dsimp only
  cases passed : (storesOf (bufferOf q)).2 with
  | none => exact ⟨none, rfl, fun _ same => nomatch same⟩
  | some cur =>
    obtain ⟨here, short⟩ := storesOf_inside_cursor passed
    obtain ⟨r, read, inside⟩ := version_inside s here
    refine ⟨r, ?_, fun rest some => ⟨(inside rest some).1, (inside rest some).2.trans short⟩⟩
    dsimp only
    rw [read]
    rfl

/-! ### The heads of the rounds -/

theorem sound_transport : Sound transport := fun _ _ _ h => transport_inside h

theorem sound_transportIn (fuel : Nat) : Sound (transportIn fuel) := fun _ _ _ h => transportIn_inside h fuel

theorem reaches_inside (sound : Sound tr) (h : Inside (padding q) x.2) (path : Loop.Reaches (headerRound tr a size) x y) :
    Inside (padding q) y.2 ∧ y.2.length ≤ x.2.length := by
  refine Loop.reaches_keeps (I := fun y => Inside (padding q) y.2 ∧ y.2.length ≤ x.2.length) ?_ ⟨h, Nat.le_refl _⟩ path
  intro u v here next
  obtain ⟨inside, short⟩ := headerRound_next sound here.1 next
  exact ⟨inside, (Nat.le_of_lt short).trans here.2⟩

theorem head_inside {s : CRtspSession} (head : Head s (bufferOf q) size x) : Inside (padding q) x.2 := by
  obtain ⟨cur, line, path⟩ := head
  obtain ⟨r, passed, inside⟩ := lineCursor_inside s q
  have same : r = some cur := Except.ok.inj (passed.symm.trans line)
  exact (reaches_inside sound_transport (inside cur same).1 path).1

theorem round_approx (fuel : Nat) (h : Inside (padding q) x.2) :
    headerRound (transportIn fuel) a size x = headerRound transport a size x ∨
      headerRound (transportIn fuel) a size x = .error .hang :=
  headerRound_approx h fun _ inside _ => transportIn_approx x.1 inside fuel

theorem round_enough {fuel : Nat} (h : Inside (padding q) x.2) (enough : x.2.length < fuel) :
    headerRound (transportIn fuel) a size x = headerRound transport a size x := by
  have same : ∀ w, Inside (padding q) w → w.length ≤ x.2.length → transportIn fuel x.1 w = transport x.1 w :=
    fun w inside le => transportIn_enough x.1 inside (Nat.lt_of_le_of_lt le enough)
  have there := @headerRound_approx q a size x transport (transportIn fuel) h fun w i le => .inl (same w i le)
  have back := @headerRound_approx q a size x (transportIn fuel) transport h fun w i le => .inl (same w i le).symm
  exact Loop.eq_of_either there back

theorem run_transportIn {fuel : Nat} (h : Inside (padding q) x.2) (enough : x.2.length < fuel) (n : Nat) :
    Loop.run (headerRound (transportIn fuel) a size) .hang n x = Loop.run (headerRound transport a size) .hang n x := by
  refine Loop.run_congr (fun y path => ?_) n
  obtain ⟨inside, le⟩ := reaches_inside sound_transport h path
  exact round_enough inside (Nat.lt_of_le_of_lt le enough)

end

/-! ### With the parser without fuel -/

/-- The sessions differ in the parts of the URI only. -/
def SameButParts (s t : CRtspSession) : Prop :=
  ∃ host pres stream, t =
    { s with m_CommandHostPort := host, m_CommandPresentationPart := pres, m_CommandStreamPart := stream }

theorem sameButParts_rel : ParserRel SameButParts where
  cmd := by rintro s _ ⟨_, _, _, rfl⟩; rfl
  init := by rintro s _ ⟨_, _, _, rfl⟩; exact ⟨_, _, _, rfl⟩
  host part := by rintro ⟨_, _, _, rfl⟩; exact ⟨_, _, _, rfl⟩
  pres part := by rintro ⟨_, _, _, rfl⟩; exact ⟨_, _, _, rfl⟩
  stream part := by rintro ⟨_, _, _, rfl⟩; exact ⟨_, _, _, rfl⟩
  cseq n := by rintro ⟨_, _, _, rfl⟩; exact ⟨_, _, _, rfl⟩
  length n := by rintro ⟨_, _, _, rfl⟩; exact ⟨_, _, _, rfl⟩
  tcp b := by rintro ⟨_, _, _, rfl⟩ _; exact ⟨_, _, _, rfl⟩
  port p := by rintro ⟨_, _, _, rfl⟩ _; exact ⟨_, _, _, rfl⟩

section

variable {q : Bytes}

theorem requestLine_cursor (s : CRtspSession) (fit : ∀ uri, uriOf (bufferOf q) = some uri → PartsFit uri) :
    ∃ t r, requestLine s.newCommandInit (bufferOf q) = .ok (t, r) ∧ lineCursor s (bufferOf q) = .ok r ∧
      SameButParts s.newCommandInit t := by
  have ends := terminated_bufferOf q
  have line := uriLine_eq s ends
  rw [if_pos (storesOf_inside.mpr fit)] at line
  rw [requestLine_eq, line]
  unfold lineCursor
  rw [uriStores_eq s ends, ok_bind]
  dsimp only
  cases passed : (storesOf (bufferOf q)).2 with
  | none => exact ⟨_, none, rfl, rfl, _, _, _, rfl⟩
  | some cur =>
    obtain ⟨here, -⟩ := storesOf_inside_cursor passed
    obtain ⟨r, read, -⟩ := version_inside s here
    obtain ⟨r', read', -⟩ := version_inside (s.newCommandInit.withParts (storesOf (bufferOf q)).1) here
    have same : Parsed (fun _ _ => True) (version s cur)
      (version (s.newCommandInit.withParts (storesOf (bufferOf q)).1) cur) := version_rel trivial cur
    rw [read, read'] at same
    have same : r = r' := same.2
    refine ⟨s.newCommandInit.withParts (storesOf (bufferOf q)).1, r, ?_, ?_, _, _, _, rfl⟩
    · rw [same]
      exact read'
    · dsimp only
      rw [read]
      rfl

/-- Where no store falls outside, the parser with enough fuel is `ParseRtspRequest`. -/
theorem parseIn_ParseRtspRequest (s : CRtspSession) (size : Nat) {fuel : Nat}
    (fit : ∀ uri, uriOf (bufferOf q) = some uri → PartsFit uri) (enough : (bufferOf q).length < fuel) :
    Parsed SameButParts (parseIn fuel s (bufferOf q) size) (ParseRtspRequest s (bufferOf q) size) := by
  obtain ⟨t, r, line, passed, same⟩ := requestLine_cursor s fit
  obtain ⟨r', passed', inside⟩ := lineCursor_inside s q
  cases Except.ok.inj (passed.symm.trans passed')
  unfold parseIn ParseRtspRequest
  rw [passed, line, ok_bind, ok_bind]
  cases r with
  | none => exact Parsed.pure same false
  | some cur =>
    obtain ⟨here, short⟩ := inside cur rfl
    have falls : ∀ y z, Loop.Reaches (headerRound transport (bufferOf q) size) (s.newCommandInit, cur) y →
        Loop.Next (headerRound transport (bufferOf q) size) y z → z.2.length < y.2.length := fun y z path next =>
      (headerRound_next sound_transport (reaches_inside sound_transport here path).1 next).2
    dsimp only
    rw [run_transportIn here (Nat.lt_of_le_of_lt short enough),
      Loop.run_enough falls (Nat.lt_of_le_of_lt short enough) (Nat.lt_succ_of_le short),
      ← headerLoop_eq_loop]
    exact headerLoop_rel sameButParts_rel.header _ _ _ same _

end

end RtspServer
