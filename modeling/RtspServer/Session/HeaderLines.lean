import RtspServer.Session.Connection
import RtspServer.Session.ParserRelation
import Mathlib.Data.List.TakeWhile

/-!
# The parser line by line

On a text of lines the cursor is always somewhere in a line, with the remaining
lines behind it. No line that starts with `CSeq:` is passed over.
-/

namespace RtspServer

/-- The cursor stands in a line whose rest is `x`; the lines behind it and the NUL follow. -/
def inLine (x : Bytes) (lines : List Bytes) (z : Bytes) : Bytes := x ++ (CRLF ++ (linesText lines ++ NUL :: z))

structure InLine (lines : List Bytes) (z cur : Bytes) : Prop where
  split : ∃ x, (∀ c ∈ x, IsPlain c) ∧ cur = inLine x lines z

def PlainLines (lines : List Bytes) : Prop := ∀ l ∈ lines, ∀ c ∈ l, IsPlain c

instance (lines : List Bytes) : Decidable (PlainLines lines) := inferInstanceAs (Decidable (∀ _ ∈ _, ∀ _ ∈ _, IsPlain _))

/-- `later` is what is left of `lines` behind some that are not `CSeq` headers. -/
structure Skips (lines later : List Bytes) : Prop where
  split : ∃ skipped, lines = skipped ++ later ∧ ∀ l ∈ skipped, ¬ ascii "CSeq:" <+: l

theorem Skips.refl (lines : List Bytes) : Skips lines lines :=
  ⟨[], rfl, fun _ member => absurd member List.not_mem_nil⟩

theorem Skips.trans {lines later last : List Bytes} (first : Skips lines later) (second : Skips later last) :
    Skips lines last := by
  obtain ⟨xs, rfl, clear⟩ := first.split
  obtain ⟨ys, rfl, clear'⟩ := second.split
  refine ⟨xs ++ ys, (List.append_assoc xs ys last).symm, ?_⟩
  intro l member
  rcases List.mem_append.mp member with one | two
  · exact clear l one
  · exact clear' l two

theorem Skips.suffix {lines later : List Bytes} (h : Skips lines later) : later <:+ lines := by
  obtain ⟨skipped, same, -⟩ := h.split
  exact ⟨skipped, same.symm⟩

theorem Skips.cons {l : Bytes} {lines later : List Bytes} (other : ¬ ascii "CSeq:" <+: l) (h : Skips lines later) :
    Skips (l :: lines) later := by
  obtain ⟨skipped, same, clear⟩ := h.split
  refine ⟨l :: skipped, by rw [same]; rfl, ?_⟩
  intro x member
  rcases List.mem_cons.mp member with rfl | later
  · exact other
  · exact clear x later

theorem PlainLines.suffix {lines later : List Bytes} (plain : PlainLines lines) (h : later <:+ lines) :
    PlainLines later := fun l member => plain l (h.subset member)

section

variable {lines : List Bytes} {z x cur rest : Bytes} {p : UInt8 → Bool}

theorem inLine_cons (c : UInt8) (x : Bytes) (lines : List Bytes) (z : Bytes) :
    inLine (c :: x) lines z = c :: inLine x lines z := rfl

theorem inLine_nil (lines : List Bytes) (z : Bytes) :
    inLine [] lines z = CR :: LF :: (linesText lines ++ NUL :: z) := rfl

theorem linesText_inLine (l : Bytes) (lines : List Bytes) (z : Bytes) :
    linesText (l :: lines) ++ NUL :: z = inLine l lines z := by
  rw [linesText_cons, List.append_assoc, List.append_assoc]
  rfl

theorem InLine.mk' (plain : ∀ c ∈ x, IsPlain c) : InLine lines z (inLine x lines z) := ⟨x, plain, rfl⟩

/-! ### Cursors that stay in the line -/

theorem InLine.tail {c : UInt8} (h : InLine lines z (c :: cur)) (inside : c ≠ CR) : InLine lines z cur := by
  obtain ⟨x, plain, same⟩ := h.split
  cases x with
  | nil =>
    rw [inLine_nil] at same
    exact absurd (List.cons.inj same).1 inside
  | cons d x =>
    rw [inLine_cons] at same
    rw [(List.cons.inj same).2]
    exact InLine.mk' fun c member => plain c (List.mem_cons_of_mem d member)

theorem InLine.drop {word : Bytes} (h : InLine lines z (word ++ cur)) (inside : CR ∉ word) : InLine lines z cur := by
  induction word with
  | nil => exact h
  | cons c word ih =>
    refine ih (h.tail ?_) fun member => inside (List.mem_cons_of_mem c member)
    rintro rfl
    exact inside List.mem_cons_self

theorem InLine.drop_prefix {word : Bytes} (h : InLine lines z cur) (found : word <+: cur) (inside : CR ∉ word) :
    InLine lines z (cur.drop word.length) := by
  obtain ⟨rest, rfl⟩ := found
  rw [List.drop_left]
  exact h.drop inside

theorem InLine.skipped (h : InLine lines z cur) (stop : p CR = false) (ok : skip p cur = .ok rest) :
    InLine lines z rest := by
  obtain ⟨front, c, tail, rfl, -, all, -⟩ := skip_ok ok
  apply h.drop
  intro member
  rw [all CR member] at stop
  cases stop

theorem skip_line (stop : p CR = false) (x : Bytes) (lines : List Bytes) (z : Bytes) :
    skip p (inLine x lines z) = .ok (inLine (x.dropWhile p) lines z) := by
  induction x with
  | nil =>
    rw [inLine_nil, skip, stop]
    rfl
  | cons c x ih =>
    rw [inLine_cons, skip, List.dropWhile_cons]
    by_cases yes : p c = true
    · rw [if_pos yes, if_pos yes, ih]
    · rw [if_neg yes, if_neg yes, inLine_cons]

theorem dropWhile_plain (plain : ∀ c ∈ x, IsPlain c) : ∀ c ∈ x.dropWhile p, IsPlain c := fun c member =>
  plain c ((List.dropWhile_suffix p).subset member)

theorem skip_inLine (lines : List Bytes) (z : Bytes) (plain : ∀ c ∈ x, IsPlain c) (stop : p CR = false) :
    ∃ y, y <:+ x ∧ (∀ c ∈ y, IsPlain c) ∧ skip p (inLine x lines z) = .ok (inLine y lines z) :=
  ⟨x.dropWhile p, List.dropWhile_suffix p, dropWhile_plain plain, skip_line stop x lines z⟩

/-! ### White space may end lines -/

theorem skip_isspace (plain : ∀ c ∈ x, IsPlain c) (all : PlainLines lines) :
    skip isspace (inLine x lines z) = .ok (NUL :: z) ∨
    ∃ c y skipped later, skip isspace (inLine x lines z) = .ok (inLine (c :: y) later z) ∧
      (∀ d ∈ c :: y, IsPlain d) ∧ isspace c = false ∧ lines = skipped ++ later ∧
      ∀ l ∈ skipped, ∀ d, l.head? = some d → isspace d = true ∨ d = c := by
  induction lines generalizing x with
  | nil =>
    induction x with
    | nil => exact .inl rfl
    | cons c x ih =>
      rw [inLine_cons, skip]
      by_cases blank : isspace c = true
      · rw [if_pos blank]
        exact ih fun d member => plain d (List.mem_cons_of_mem c member)
      · rw [if_neg blank]
        exact .inr ⟨c, x, [], [], rfl, plain, by simpa using blank, rfl,
          fun _ member => absurd member List.not_mem_nil⟩
  | cons l lines ih =>
    induction x with
    | nil =>
      have next : skip isspace (inLine [] (l :: lines) z) = skip isspace (inLine l lines z) := by
        rw [inLine_nil, ← linesText_inLine]
        rfl
      rw [next]
      rcases ih (all l List.mem_cons_self) fun m member => all m (List.mem_cons_of_mem l member) with
        none | ⟨c, y, skipped, later, ok, plain', first, rfl, heads⟩
      · exact .inl none
      · refine .inr ⟨c, y, l :: skipped, later, ok, plain', first, rfl, ?_⟩
        intro m member d head
        rcases List.mem_cons.mp member with rfl | member
        · obtain ⟨m, rfl⟩ := List.head?_eq_some_iff.mp head
          rw [inLine_cons, skip] at ok
          by_cases blank : isspace d = true
          · exact .inl blank
          · rw [if_neg blank, inLine_cons] at ok
            exact .inr (List.cons.inj (Except.ok.inj ok)).1
        · exact heads m member d head
    | cons c x ihx =>
      rw [inLine_cons, skip]
      by_cases blank : isspace c = true
      · rw [if_pos blank]
        exact ihx fun d member => plain d (List.mem_cons_of_mem c member)
      · rw [if_neg blank]
        exact .inr ⟨c, x, [], l :: lines, rfl, plain, by simpa using blank, rfl,
          fun _ member => absurd member List.not_mem_nil⟩

/-- What is skipped in front of a word that does not start with `C` has no `CSeq` header. -/
theorem skip_isspace_skips {d : UInt8} (here : InLine lines z cur) (all : PlainLines lines)
    (ok : skip isspace cur = .ok rest) (first : rest.head? = some d) (notNul : d ≠ NUL) (other : d ≠ 67) :
    ∃ later, InLine later z rest ∧ Skips lines later := by
  obtain ⟨x, plain, rfl⟩ := here.split
  rcases skip_isspace (z := z) plain all with none | ⟨c, y, skipped, later, some, plain', -, rfl, heads⟩
  · rw [none] at ok
    rw [← Except.ok.inj ok] at first
    exact absurd (Option.some.inj first).symm notNul
  · rw [some] at ok
    rw [← Except.ok.inj ok] at first
    cases Except.ok.inj ok
    refine ⟨later, InLine.mk' plain', skipped, rfl, ?_⟩
    rintro l member ⟨more, rfl⟩
    rcases heads _ member 67 rfl with blank | same
    · exact absurd blank (by decide)
    · rw [inLine_cons, ← same] at first
      exact other (Option.some.inj first).symm

end

/-! ### The request line -/

section

variable {lines : List Bytes} {z cur : Bytes} {s t : CRtspSession}

theorem skipCmdName_word {token : Bytes} {n : Nat} (noBlank : ∀ c ∈ token, c ≠ SP ∧ c ≠ TAB) (short : token.length < n)
    (rest : Bytes) : skipCmdName n (token ++ SP :: rest) = .ok (SP :: rest) := by
  induction token generalizing n with
  | nil =>
    match n, short with
    | n + 1, _ => rfl
  | cons c token ih =>
    match n, short with
    | n + 1, short =>
      rw [List.cons_append, skipCmdName, if_pos (noBlank c List.mem_cons_self)]
      exact ih (fun d member => noBlank d (List.mem_cons_of_mem c member)) (Nat.lt_of_succ_lt_succ short)

theorem recognised_word {l : Line} (known : recognise l.bytes ≠ .RTSP_UNKNOWN) :
    ∃ token rest, l.bytes = token ++ SP :: rest ∧ (∀ c ∈ token, c ≠ SP ∧ c ≠ TAB) ∧ token.length < 19 := by
  have first : (if CRLF <+: l.bytes then l.bytes.drop 2 else l.bytes) = l.bytes := by
    have none := not_prefix_crlf l.nonempty l.plain []
    rw [List.append_nil] at none
    exact if_neg none
  have found : ∃ word ∈ ["OPTIONS ", "DESCRIBE ", "SETUP ", "PLAY ", "TEARDOWN "].map ascii, word <+: l.bytes := by
    unfold recognise at known
    simp only [first] at known
    by_contra none
    have absent : ∀ word ∈ ["OPTIONS ", "DESCRIBE ", "SETUP ", "PLAY ", "TEARDOWN "].map ascii,
        ¬ word <+: l.bytes := fun word member found => none ⟨word, member, found⟩
    rw [if_neg (absent (ascii "OPTIONS ") (by decide)), if_neg (absent (ascii "DESCRIBE ") (by decide)),
      if_neg (absent (ascii "SETUP ") (by decide)), if_neg (absent (ascii "PLAY ") (by decide)),
      if_neg (absent (ascii "TEARDOWN ") (by decide))] at known
    exact known rfl
  obtain ⟨word, member, rest, same⟩ := found
  have words : ∀ word ∈ ["OPTIONS ", "DESCRIBE ", "SETUP ", "PLAY ", "TEARDOWN "].map ascii,
      word = word.dropLast ++ [SP] ∧ (∀ c ∈ word.dropLast, c ≠ SP ∧ c ≠ TAB) ∧ word.dropLast.length < 19 := by
    decide +kernel
  obtain ⟨blank, noBlank, short⟩ := words word member
  refine ⟨word.dropLast, rest, ?_, noBlank, short⟩
  rw [← same, blank, List.dropLast_concat, List.append_assoc]
  rfl

theorem scheme_inLine {l : Line} (known : recognise l.bytes ≠ .RTSP_UNKNOWN) (all : PlainLines lines)
    (h : scheme s (inLine l.bytes lines z) = .ok (t, some cur)) :
    ∃ later, InLine later z cur ∧ Skips lines later := by
  obtain ⟨token, rest, whole, noBlank, short⟩ := recognised_word known
  obtain ⟨named, skipped, h⟩ := bind_ok h
  obtain ⟨front, blanks, h⟩ := bind_ok h
  split at h
  · cases pure_ok h
  rename_i found
  have same := pure_ok h
  simp only [Prod.mk.injEq, Option.some.injEq] at same
  have line : inLine l.bytes lines z = token ++ SP :: inLine rest lines z := by
    rw [whole, inLine, List.append_assoc]
    rfl
  rw [line, skipCmdName_word noBlank short] at skipped
  rw [← Except.ok.inj skipped] at blanks
  have here : InLine lines z (SP :: inLine rest lines z) := by
    refine InLine.mk' (x := SP :: rest) fun c member => l.plain c ?_
    rw [whole]
    exact List.mem_append_right token member
  have word : (front.take 7).map tolower = ascii "rtsp://" := not_not.mp found
  have head : ∃ d, front.head? = some d ∧ tolower d = 114 := by
    match front, word with
    | d :: front, word => exact ⟨d, rfl, (List.cons.inj word).1⟩
  obtain ⟨d, first, lower⟩ := head
  have notNul : d ≠ NUL := by
    rintro rfl
    exact absurd lower (by decide)
  have other : d ≠ 67 := by
    rintro rfl
    exact absurd lower (by decide)
  obtain ⟨later, there, skips⟩ := skip_isspace_skips here all blanks first notNul other
  refine ⟨later, ?_, skips⟩
  rw [← same.2]
  rw [← List.take_append_drop 7 front] at there
  refine there.drop fun member => ?_
  have lowered : tolower CR ∈ (front.take 7).map tolower := List.mem_map_of_mem member
  rw [word] at lowered
  exact absurd lowered (by decide)

theorem nextPart_inLine {limit pos : Nat} {cur' : Bytes} (here : InLine lines z cur)
    (h : nextPart limit s pos cur = .ok (t, some cur')) : InLine lines z cur' := by
  obtain ⟨c, -, h⟩ := bind_ok h
  split at h
  · cases pure_ok h
  obtain ⟨_, -, h⟩ := bind_ok h
  obtain ⟨rest, slashes, h⟩ := bind_ok h
  have same := pure_ok h
  simp only [Prod.mk.injEq, Option.some.injEq] at same
  rw [← same.2]
  exact here.skipped (by decide) slashes

theorem copyPart_inLine {limit : Nat} {part rest : Bytes} (here : InLine lines z cur)
    (h : copyPart limit cur = .ok (part, some rest)) : InLine lines z rest := by
  unfold copyPart at h
  dsimp only at h
  split at h
  · obtain ⟨rest', skipped, h⟩ := bind_ok h
    have same := pure_ok h
    simp only [Prod.mk.injEq, Option.some.injEq] at same
    rw [← same.2]
    exact here.skipped (by decide) skipped
  · cases pure_ok h

theorem hostPort_inLine {cur' : Bytes} (here : InLine lines z cur) (h : hostPort s cur = .ok (t, some cur')) :
    InLine lines z cur' := by
  obtain ⟨⟨part, rest⟩, copied, h⟩ := bind_ok h
  obtain ⟨s1, cur1, first, h⟩ := Parse.next_ok h
  cases pure_ok first
  exact nextPart_inLine (copyPart_inLine here copied) h

theorem presentationPart_inLine {cur' : Bytes} (here : InLine lines z cur)
    (h : presentationPart s cur = .ok (t, some cur')) : InLine lines z cur' := by
  obtain ⟨⟨part, rest⟩, copied, h⟩ := bind_ok h
  obtain ⟨s1, cur1, first, h⟩ := Parse.next_ok h
  cases pure_ok first
  exact nextPart_inLine (copyPart_inLine here copied) h

theorem streamPart_inLine {cur' : Bytes} (here : InLine lines z cur) (h : streamPart s cur = .ok (t, some cur')) :
    InLine lines z cur' := by
  obtain ⟨⟨part, rest⟩, copied, h⟩ := bind_ok h
  obtain ⟨s1, cur1, first, later⟩ := Parse.next_ok h
  cases pure_ok first
  obtain ⟨_, -, later⟩ := bind_ok later
  obtain ⟨cur2, slashes, later⟩ := bind_ok later
  obtain ⟨c, -, later⟩ := bind_ok later
  split at later
  · cases pure_ok later
  · have same := pure_ok later
    simp only [Prod.mk.injEq, Option.some.injEq] at same
    rw [← same.2]
    exact (copyPart_inLine here copied).skipped (by decide) slashes

theorem InLine.drop_one {c : UInt8} (here : InLine lines z cur) (first : deref cur = .ok c) (inside : c ≠ CR) :
    InLine lines z (cur.drop 1) := by
  cases cur with
  | nil => cases first
  | cons d cur =>
    cases Except.ok.inj first
    exact here.tail inside

theorem ne_cr_of_isdigit {c : UInt8} (digit : isdigit c = true) : c ≠ CR := by
  rintro rfl
  exact absurd digit (by decide)

theorem version_inLine {cur' : Bytes} (here : InLine lines z cur) (all : PlainLines lines)
    (h : version s cur = .ok (t, some cur')) : ∃ later, InLine later z cur' ∧ Skips lines later := by
  obtain ⟨front, blanks, h⟩ := bind_ok h
  split at h
  · cases pure_ok h
  rename_i found
  obtain ⟨rest, rfl⟩ := not_not.mp found
  obtain ⟨later, there, skips⟩ := skip_isspace_skips here all blanks rfl (by decide) (by decide)
  have tail : InLine later z rest := there.drop (by decide)
  dsimp only at h
  rw [show (ascii "RTSP/" ++ rest).drop 5 = rest from rfl] at h
  obtain ⟨c, first, h⟩ := bind_ok h
  split at h
  · cases pure_ok h
  rename_i digit
  obtain ⟨d, second, h⟩ := bind_ok h
  split at h
  · cases pure_ok h
  rename_i dot
  obtain ⟨e, third, h⟩ := bind_ok h
  split at h
  · cases pure_ok h
  rename_i digit'
  have same := pure_ok h
  simp only [Prod.mk.injEq, Option.some.injEq] at same
  refine ⟨later, ?_, skips⟩
  have one := tail.drop_one first (ne_cr_of_isdigit (by simpa using digit))
  have two := one.drop_one second (by rw [not_not.mp dot]; decide)
  rw [List.drop_drop] at two
  have three := two.drop_one third (ne_cr_of_isdigit (by simpa using digit'))
  rw [List.drop_drop] at three
  rw [← same.2]
  exact three

/-- After the request line the cursor is in a line, and no `CSeq` header was passed over. -/
theorem requestLine_inLine {l : Line} {cur' : Bytes} (known : recognise l.bytes ≠ .RTSP_UNKNOWN)
    (all : PlainLines lines) (h : requestLine s (inLine l.bytes lines z) = .ok (t, some cur')) :
    ∃ later, InLine later z cur' ∧ Skips lines later := by
  obtain ⟨s3, cur3, h, last⟩ := Parse.next_ok h
  obtain ⟨s2, cur2, h, third⟩ := Parse.next_ok h
  obtain ⟨s1, cur1, first, second⟩ := Parse.next_ok h
  obtain ⟨s4, cur4, fourth, fifth⟩ := Parse.next_ok last
  obtain ⟨later, one, skips⟩ := scheme_inLine known all first
  have four := streamPart_inLine (presentationPart_inLine (hostPort_inLine one second) third) fourth
  obtain ⟨last, five, skips'⟩ := version_inLine four (all.suffix skips.suffix) fifth
  exact ⟨last, five, skips.trans skips'⟩

end

/-! ### Numeric headers -/

section

variable {lines : List Bytes} {z x : Bytes}

/-- The text behind the name of a numeric header: blanks, digits and what follows. -/
structure NumberField (x blanks digits rest : Bytes) : Prop where
  whole : x = blanks ++ (digits ++ rest)
  blank : ∀ c ∈ blanks, isblank c = true
  digit : ∀ c ∈ digits, isdigit c = true
  noBlank : ∀ c, (digits ++ rest).head? = some c → isblank c = false
  noDigit : ∀ c, rest.head? = some c → isdigit c = false

theorem numberField (x : Bytes) : NumberField x (x.takeWhile isblank) ((x.dropWhile isblank).takeWhile isdigit)
    ((x.dropWhile isblank).dropWhile isdigit) where
  whole := by rw [List.takeWhile_append_dropWhile, List.takeWhile_append_dropWhile]
  blank c member := List.mem_takeWhile_imp member
  digit c member := List.mem_takeWhile_imp member
  noBlank c first := by
    rw [List.takeWhile_append_dropWhile] at first
    have no := List.head?_dropWhile_not isblank x
    rw [first] at no
    simpa using no
  noDigit c first := by
    have no := List.head?_dropWhile_not isdigit (x.dropWhile isblank)
    rw [first] at no
    simpa using no

theorem skipCounted_all {p : UInt8 → Bool} {c : UInt8} (front rest : Bytes) (count : Int)
    (all : ∀ d ∈ front, p d = true) (notNul : ∀ d ∈ front, d ≠ NUL) (stop : p c = false) (enough : front.length ≤ count) :
    skipCounted p (front ++ c :: rest) count = .ok (c :: rest, count - front.length) := by
  induction front generalizing count with
  | nil =>
    rw [List.nil_append, skipCounted, if_neg (fun h => by rw [stop] at h; exact absurd h.2.1 Bool.false_ne_true)]
    simp [pure, Except.pure]
  | cons d front ih =>
    rw [List.length_cons] at enough
    rw [List.cons_append, skipCounted,
      if_pos ⟨notNul d List.mem_cons_self, all d List.mem_cons_self, by omega⟩,
      ih (count - 1) (fun e member => all e (List.mem_cons_of_mem d member))
        (fun e member => notNul e (List.mem_cons_of_mem d member))
        (by omega), List.length_cons]
    congr 2
    omega

theorem skipCounted_stops {p : UInt8 → Bool} {c : UInt8} (front rest : Bytes) (stop : p c = false) (count : Int) :
    ∃ d tail n, skipCounted p (front ++ c :: rest) count = .ok (d :: tail, n) ∧ (d ∈ front ∨ d = c) := by
  induction front generalizing count with
  | nil =>
    refine ⟨c, rest, count, ?_, .inr rfl⟩
    rw [List.nil_append, skipCounted, if_neg (fun h => by rw [stop] at h; exact absurd h.2.1 Bool.false_ne_true)]
    rfl
  | cons e front ih =>
    rw [List.cons_append, skipCounted]
    split
    · obtain ⟨d, tail, n, ok, place⟩ := ih (count - 1)
      exact ⟨d, tail, n, ok, place.imp_left (List.mem_cons_of_mem e)⟩
    · exact ⟨e, front ++ c :: rest, count, rfl, .inl List.mem_cons_self⟩

theorem not_isdigit_of_isblank {c : UInt8} (blank : isblank c = true) : isdigit c = false := by
  simp only [isblank, Bool.decide_or, Bool.or_eq_true, decide_eq_true_eq] at blank
  rcases blank with rfl | rfl <;> decide

variable {blanks digits rest w : Bytes} {count : Int}

theorem NumberField.stop (field : NumberField x blanks digits rest) (w : Bytes) :
    ∃ c tail, rest ++ CR :: w = c :: tail ∧ isdigit c = false := by
  cases rest with
  | nil => exact ⟨CR, w, rfl, by decide⟩
  | cons c tail => exact ⟨c, tail ++ CR :: w, rfl, field.noDigit c rfl⟩

theorem parse_numeric_none (field : NumberField x blanks [] rest) :
    parse_numeric_header (x ++ CR :: w) count = .ok none := by
  obtain ⟨c, tail, same, noDigit⟩ := field.stop w
  have noBlank : isblank c = false := by
    cases rest with
    | nil =>
      rw [← (List.cons.inj same).1]
      rfl
    | cons d tail => exact field.noBlank c (by rw [← (List.cons.inj same).1]; rfl)
  have text : x ++ CR :: w = blanks ++ c :: tail := by
    rw [field.whole, List.nil_append, List.append_assoc, same]
  obtain ⟨d, tail', n, ok, place⟩ := skipCounted_stops blanks tail noBlank count
  have other : isdigit d = false := by
    rcases place with inside | rfl
    · exact not_isdigit_of_isblank (field.blank d inside)
    · exact noDigit
  rw [parse_numeric_header, text, ok]
  show (if ¬ isdigit d = true ∨ n = 0 then _ else _) = _
  rw [if_pos (.inl (by rw [other]; exact Bool.false_ne_true))]
  rfl

theorem parse_numeric_some (field : NumberField x blanks digits rest) (plain : ∀ c ∈ x, IsPlain c)
    (nonempty : digits ≠ []) (enough : (blanks.length + digits.length : Int) < count) :
    parse_numeric_header (x ++ CR :: w) count = .ok (some (UInt32.ofInt (atoi digits), rest ++ CR :: w)) := by
  obtain ⟨c, tail, same, noDigit⟩ := field.stop w
  have notNul : ∀ d ∈ blanks ++ digits, d ≠ NUL := by
    intro d member
    refine (plain d ?_).1
    rw [field.whole, ← List.append_assoc]
    exact List.mem_append_left rest member
  match digits, nonempty with
  | d :: digits, _ =>
    have text : x ++ CR :: w = blanks ++ d :: (digits ++ c :: tail) := by
      rw [field.whole, ← same]
      simp only [List.append_assoc, List.cons_append]
    rw [List.length_cons] at enough
    have first := skipCounted_all blanks (digits ++ c :: tail) count field.blank
      (fun e member => notNul e (List.mem_append_left _ member)) (field.noBlank d rfl) (by omega)
    have second := skipCounted_all (d :: digits) tail (count - blanks.length) field.digit
      (fun e member => notNul e (List.mem_append_right _ member)) noDigit (by rw [List.length_cons]; omega)
    rw [List.cons_append, List.length_cons] at second
    rw [parse_numeric_header, text, first]
    show (if ¬ isdigit d = true ∨ count - blanks.length = 0 then _ else _) = _
    rw [if_neg (by
      rintro (no | zero)
      · exact no (field.digit d List.mem_cons_self)
      · omega)]
    show (skipCounted isdigit (d :: (digits ++ c :: tail)) (count - blanks.length) >>= _) = _
    rw [second]
    show (if count - blanks.length - ((digits.length + 1 : Nat) : Int) = 0 then _ else _) = _
    rw [if_neg (by omega)]
    have taken : (d :: (digits ++ c :: tail)).take ((d :: (digits ++ c :: tail)).length - (c :: tail).length) =
        d :: digits := by
      rw [← List.cons_append, List.length_append, Nat.add_sub_cancel, List.take_left]
    rw [taken, same]
    rfl

end

/-! ### Header lines -/

section

variable {lines : List Bytes} {z x cur : Bytes} {s t : CRtspSession}

theorem glue_cons {c : UInt8} {w : Bytes} (notNul : c ≠ NUL) (inside : c ≠ CR) : glue (c :: w) = (c :: ·) <$> glue w := by
  rw [glue.eq_def]
  dsimp only
  rw [if_neg notNul, if_neg fun h => inside h.1]
  cases glue w <;> rfl

theorem glue_crlf (c : UInt8) (w : Bytes) : glue (CR :: LF :: c :: w) =
    if c = SP ∨ c = TAB then (fun w => SP :: SP :: w) <$> glue (c :: w) else .ok (CR :: LF :: c :: w) := by
  rw [glue.eq_def]
  dsimp only
  rw [if_neg (by decide), if_pos ⟨rfl, rfl⟩]
  split
  · cases glue (c :: w) <;> rfl
  · rfl

theorem glue_plain (plain : ∀ c ∈ x, IsPlain c) (w : Bytes) : glue (x ++ w) = (x ++ ·) <$> glue w := by
  induction x with
  | nil =>
    show glue w = (fun w => w) <$> glue w
    exact (id_map (glue w)).symm
  | cons c x ih =>
    have head := plain c List.mem_cons_self
    rw [List.cons_append, glue_cons head.1 head.2.1, ih fun d member => plain d (List.mem_cons_of_mem c member)]
    cases glue w <;> rfl

theorem glue_stop (plain : ∀ c ∈ x, IsPlain c) (stop : ∃ c w, linesText lines ++ NUL :: z = c :: w ∧ isblank c = false) :
    glue (inLine x lines z) = .ok (inLine x lines z) := by
  obtain ⟨c, w, same, other⟩ := stop
  have next : ¬ (c = SP ∨ c = TAB) := of_decide_eq_false other
  rw [inLine, same, glue_plain plain, show CRLF ++ c :: w = CR :: LF :: c :: w from rfl, glue_crlf, if_neg next]
  rfl

def startsBlank (l : Bytes) : Bool := l.head?.any isblank

/-- What the lines that a header is continued on are glued to it as. -/
def glued (lines : List Bytes) : Bytes := (lines.takeWhile startsBlank).flatMap fun l => SP :: SP :: l

theorem plainLines_takeWhile {p : Bytes → Bool} (all : PlainLines lines) : PlainLines (lines.takeWhile p) :=
  fun l member => all l ((List.takeWhile_prefix p).subset member)

theorem glued_plain (all : PlainLines lines) : ∀ c ∈ glued lines, IsPlain c := by
  intro c member
  obtain ⟨l, inside, member⟩ := List.mem_flatMap.mp member
  rcases List.mem_cons.mp member with rfl | member
  · decide
  rcases List.mem_cons.mp member with rfl | member
  · decide
  · exact plainLines_takeWhile all l inside c member

theorem glue_lines {b : List Bytes} (plain : ∀ c ∈ x, IsPlain c) (all : PlainLines lines)
    (stop : ∃ c w, linesText b ++ NUL :: z = c :: w ∧ isblank c = false) :
    glue (inLine x (lines ++ b) z) = .ok (inLine (x ++ glued lines) (lines.dropWhile startsBlank ++ b) z) := by
  induction lines generalizing x with
  | nil =>
    rw [List.nil_append, glue_stop plain stop]
    exact congrArg (fun x => Except.ok (inLine x b z)) (List.append_nil x).symm
  | cons l lines ih =>
    have rest : PlainLines lines := fun m member => all m (List.mem_cons_of_mem l member)
    rw [List.cons_append]
    by_cases blank : startsBlank l = true
    · cases l with
      | nil => exact absurd blank Bool.false_ne_true
      | cons d l =>
        have glues : d = SP ∨ d = TAB := of_decide_eq_true blank
        have front : glue (inLine x ((d :: l) :: (lines ++ b)) z) =
            (x ++ ·) <$> glue (CR :: LF :: inLine (d :: l) (lines ++ b) z) := by
          rw [inLine, glue_plain plain, ← linesText_inLine]
          rfl
        have grown : glued ((d :: l) :: lines) = SP :: SP :: (d :: l ++ glued lines) := by
          rw [glued, List.takeWhile_cons_of_pos blank]
          rfl
        rw [front, inLine_cons, glue_crlf, if_pos glues, ← inLine_cons, ih (all (d :: l) List.mem_cons_self) rest, grown,
          List.dropWhile_cons_of_pos blank]
        show Except.ok _ = _
        simp only [inLine, List.append_assoc, List.cons_append]
    · have none : glued (l :: lines) = [] := by
        rw [glued, List.takeWhile_cons_of_neg blank]
        rfl
      rw [none, List.append_nil, List.dropWhile_cons_of_neg blank, List.cons_append, glue_stop plain]
      cases l with
      | nil => exact ⟨CR, _, rfl, rfl⟩
      | cons d l => exact ⟨d, _, rfl, by simpa [startsBlank] using blank⟩

theorem skips_dropWhile (lines : List Bytes) : Skips lines (lines.dropWhile startsBlank) := by
  induction lines with
  | nil => exact Skips.refl []
  | cons l lines ih =>
    by_cases blank : startsBlank l = true
    · rw [List.dropWhile_cons_of_pos blank]
      apply ih.cons
      rintro ⟨more, rfl⟩
      exact Bool.false_ne_true blank
    · rw [List.dropWhile_cons_of_neg blank]
      exact Skips.refl _

theorem glue_inLine (plain : ∀ c ∈ x, IsPlain c) (all : PlainLines lines) :
    ∃ v later, glue (inLine x lines z) = .ok (inLine (x ++ v) later z) ∧ (∀ c ∈ v, IsPlain c) ∧ Skips lines later := by
  have ok := glue_lines (b := []) plain all ⟨NUL, z, rfl, rfl⟩
  rw [List.append_nil, List.append_nil] at ok
  exact ⟨glued lines, _, ok, glued_plain all, skips_dropWhile lines⟩

theorem strpbrk_inLine {next : Bytes} (plain : ∀ c ∈ x, IsPlain c)
    (h : strpbrk (inLine x lines z) = .ok (some next)) : ∃ y, (∀ c ∈ y, IsPlain c) ∧ next = inLine y lines z := by
  obtain ⟨y, -, plain', ok⟩ := skip_inLine lines z plain
    (p := fun c => c ≠ NUL ∧ c ≠ SEMICOLON ∧ c ≠ CR) (by decide)
  obtain ⟨rest, stopped, h⟩ := bind_ok h
  rw [ok] at stopped
  obtain ⟨c, -, h⟩ := bind_ok h
  split at h
  · cases pure_ok h
  · exact ⟨y, plain', by rw [Except.ok.inj stopped]; exact (Option.some.inj (pure_ok h)).symm⟩

theorem subParameter_next {next : Bytes} {cur' : Bytes} (h : subParameter s cur next = .ok (t, some cur')) :
    cur' = next := by
  unfold subParameter at h
  split at h
  · dsimp only at h
    split at h
    · cases pure_ok h
    · exact (Option.some.inj (Prod.mk.inj (pure_ok h)).2).symm
  · exact (Option.some.inj (Prod.mk.inj (pure_ok h)).2).symm

theorem subParameters_inLine {fuel : Nat} (plain : ∀ c ∈ x, IsPlain c)
    (h : subParameters fuel s (inLine x lines z) = .ok (t, some cur)) : cur = inLine [] lines z := by
  induction fuel generalizing s x with
  | zero => cases h
  | succ fuel ih =>
    obtain ⟨y, -, plain', ok⟩ := skip_inLine lines z plain
      (p := fun c => c = SEMICOLON ∨ c = SP ∨ c = TAB) (by decide)
    rw [subParameters] at h
    obtain ⟨stop, blanks, h⟩ := bind_ok h
    rw [ok] at blanks
    cases Except.ok.inj blanks
    obtain ⟨c, -, h⟩ := bind_ok h
    split at h
    · cases pure_ok h
    obtain ⟨lineEnd, atEnd, h⟩ := bind_ok h
    split at h
    · rename_i yes
      cases y with
      | nil => exact (Option.some.inj (Prod.mk.inj (pure_ok h)).2).symm
      | cons d y =>
        rw [inLine_cons, atLineEnd, if_neg (plain' d List.mem_cons_self).2.1] at atEnd
        rw [← pure_ok atEnd] at yes
        exact absurd yes Bool.false_ne_true
    obtain ⟨next, found, h⟩ := bind_ok h
    cases next with
    | none => cases pure_ok h
    | some next =>
      obtain ⟨y', plain'', rfl⟩ := strpbrk_inLine plain' found
      obtain ⟨s', cur', sub, h⟩ := Parse.next_ok h
      rw [subParameter_next sub] at h
      exact ih plain'' h

theorem transport_inLine (here : InLine lines z cur) (all : PlainLines lines) {cur' : Bytes}
    (h : transport s cur = .ok (t, some cur')) : ∃ later, cur' = inLine [] later z ∧ Skips lines later := by
  obtain ⟨front, blanks, h⟩ := bind_ok h
  split at h
  · cases pure_ok h
  rename_i found
  obtain ⟨rest, rfl⟩ := not_not.mp found
  obtain ⟨later, there, skips⟩ := skip_isspace_skips here all blanks rfl (by decide) (by decide)
  have tail : InLine later z rest := there.drop (by decide)
  refine ⟨later, ?_, skips⟩
  dsimp only at h
  rw [show (ascii "RTP/AVP" ++ rest).drop 7 = rest from rfl] at h
  split at h
  · rename_i tcp
    obtain ⟨x, plain, same⟩ := (tail.drop_prefix tcp (by decide)).split
    rw [show (ascii "/TCP").length = 4 from rfl] at same
    rw [same] at h
    exact subParameters_inLine plain h
  · obtain ⟨x, plain, rfl⟩ := tail.split
    exact subParameters_inLine plain h

theorem skipToEnd (plain : ∀ c ∈ x, IsPlain c) (lines : List Bytes) (z : Bytes) :
    skip (fun c => c ≠ NUL ∧ c ≠ CR) (inLine x lines z) = .ok (inLine [] lines z) := by
  rw [skip_line (by decide), List.dropWhile_eq_nil_iff.mpr]
  exact fun c member => decide_eq_true ⟨(plain c member).1, (plain c member).2.1⟩

theorem skipToEnd_inLine {cur' : Bytes} (here : InLine lines z cur)
    (h : skip (fun c => c ≠ NUL ∧ c ≠ CR) cur = .ok cur') : cur' = inLine [] lines z := by
  obtain ⟨x, plain, rfl⟩ := here.split
  exact (Except.ok.inj ((skipToEnd plain lines z).symm.trans h)).symm

theorem otherHeader_inLine {l cur' : Bytes} (plain : ∀ c ∈ l, IsPlain c) (all : PlainLines lines)
    (h : otherHeader s (inLine l lines z) = .ok (t, some cur')) :
    ∃ later, cur' = inLine [] later z ∧ Skips lines later := by
  obtain ⟨glued, ok, h⟩ := bind_ok h
  obtain ⟨v, later, same, plain', skips⟩ := glue_inLine (z := z) plain all
  rw [same] at ok
  cases Except.ok.inj ok
  have whole : InLine later z (inLine (l ++ v) later z) := by
    apply InLine.mk'
    intro c member
    rcases List.mem_append.mp member with inside | inside
    · exact plain c inside
    · exact plain' c inside
  obtain ⟨s1, cur1, first, last⟩ := Parse.next_ok h
  obtain ⟨rest, ended, last⟩ := bind_ok last
  have done := (Option.some.inj (Prod.mk.inj (pure_ok last)).2).symm
  split at first
  · rename_i header
    have inside := whole.drop_prefix header.2 (by decide)
    obtain ⟨final, same, skips'⟩ := transport_inLine inside (all.suffix skips.suffix) first
    rw [same] at ended
    refine ⟨final, ?_, skips.trans skips'⟩
    rw [done]
    exact skipToEnd_inLine (InLine.mk' fun c member => absurd member List.not_mem_nil) ended
  · cases pure_ok first
    refine ⟨later, ?_, skips⟩
    rw [done]
    exact skipToEnd_inLine whole ended

end

end RtspServer
