import RtspServer.Session.HeaderLines

/-!
# The header loop

One round of the loop per header line. The size given to the parser matters only
where it ends before a number does.
-/

namespace RtspServer

section

variable {lines : List Bytes} {z x l : Bytes} {s t : CRtspSession}

theorem skipLeftovers_inLine (plain : ∀ c ∈ x, IsPlain c) :
    skipLeftovers (inLine x lines z) = .ok (inLine [] lines z) := by
  induction x with
  | nil =>
    rw [inLine_nil, skipLeftovers, if_pos (.inr rfl)]
    rfl
  | cons c x ih =>
    have head := plain c List.mem_cons_self
    have rest : ∀ d ∈ x, IsPlain d := fun d member => plain d (List.mem_cons_of_mem c member)
    have next : ∃ d, deref (inLine x lines z) = .ok d ∧ d ≠ LF := by
      cases x with
      | nil => exact ⟨CR, rfl, by decide⟩
      | cons d x => exact ⟨d, rfl, (rest d List.mem_cons_self).2.2⟩
    obtain ⟨d, read, other⟩ := next
    rw [inLine_cons, skipLeftovers, if_neg (not_or.mpr ⟨head.1, head.2.1⟩), read]
    show (if d = LF then _ else _) = _
    rw [if_neg other]
    exact ih rest

/-- What is left of the size at the start of the header line `l`. -/
def leftAt (aRequest : Bytes) (size : Nat) (l : Bytes) (lines : List Bytes) (z : Bytes) : Int :=
  size - (aRequest.length - (inLine l lines z).length)

theorem headerLoop_line (aRequest : Bytes) (size fuel : Nat) (plain : ∀ c ∈ x, IsPlain c) (next : ∀ c ∈ l, IsPlain c) :
    headerLoop aRequest size (fuel + 1) s (inLine x (l :: lines) z) = (do
      match ← headerLine s (leftAt aRequest size l lines z) (inLine l lines z) with
      | (s, none) => return (s, false)
      | (s, some cur) => headerLoop aRequest size fuel s cur) := by
  have notNul : ∃ c, deref (inLine l lines z) = .ok c ∧ c ≠ NUL := by
    cases l with
    | nil => exact ⟨CR, rfl, by decide⟩
    | cons c l => exact ⟨c, rfl, (next c List.mem_cons_self).1⟩
  obtain ⟨c, read, other⟩ := notNul
  rw [headerLoop, skipLeftovers_inLine plain, ok_bind, inLine_nil, linesText_inLine, deref_cons, ok_bind,
    if_neg (not_or.mpr ⟨(by decide : CR ≠ NUL), fun h => h.1 rfl⟩)]
  dsimp only
  rw [List.drop_succ_cons, List.drop_succ_cons, List.drop_zero, read, ok_bind, if_neg other]
  rfl

theorem headerLoop_end (aRequest : Bytes) (size fuel : Nat) (plain : ∀ c ∈ x, IsPlain c) :
    headerLoop aRequest size (fuel + 1) s (inLine x [] z) = .ok (s, true) := by
  rw [headerLoop, skipLeftovers_inLine plain]
  rfl

/-! ### Lines with a number -/

def CSEQ : Bytes := ascii "CSeq:"

def CONTENT_LENGTH : Bytes := ascii "Content-Length:"

/-- What stands behind the digits of a header line `name: digits`. -/
def numberRest (name l : Bytes) : Bytes := ((l.drop name.length).dropWhile isblank).dropWhile isdigit

/-- The length of a header line `name: digits` up to the end of its digits. -/
def numberEnd (name l : Bytes) : Nat :=
  name.length + ((l.drop name.length).takeWhile isblank).length + (RequestText.numberOf name l).length

/-- The size reaches behind the number in a header line. -/
def NumbersFit (left : Int) (l : Bytes) : Prop :=
  ∀ name ∈ [CSEQ, CONTENT_LENGTH], name <+: l → RequestText.numberOf name l ≠ [] → numberEnd name l < left

/-- What a header line does when the size reaches behind its number. -/
def headerOf (s : CRtspSession) (l : Bytes) (lines : List Bytes) (z : Bytes) : Parse :=
  if CSEQ <+: l then
    if RequestText.numberOf CSEQ l = [] then return (s, none)
    else return ({ s with m_CSeq := UInt32.ofInt (atoi (RequestText.numberOf CSEQ l)) },
      some (inLine (numberRest CSEQ l) lines z))
  else if CONTENT_LENGTH <+: l then
    if RequestText.numberOf CONTENT_LENGTH l = [] then return (s, none)
    else return ({ s with m_ContentLength := UInt32.ofInt (atoi (RequestText.numberOf CONTENT_LENGTH l)) },
      some (inLine (numberRest CONTENT_LENGTH l) lines z))
  else otherHeader s (inLine l lines z)

theorem numberRest_plain {name : Bytes} (plain : ∀ c ∈ l, IsPlain c) : ∀ c ∈ numberRest name l, IsPlain c := by
  intro c member
  have outer := (List.dropWhile_suffix isdigit).subset member
  have inner := (List.dropWhile_suffix isblank).subset outer
  exact plain c (List.mem_of_mem_drop inner)

theorem parse_numeric_line {name : Bytes} {left : Int} (lines : List Bytes) (z : Bytes) (plain : ∀ c ∈ l, IsPlain c)
    (found : name <+: l) (fit : RequestText.numberOf name l ≠ [] → numberEnd name l < left) :
    parse_numeric_header ((inLine l lines z).drop name.length) (left - name.length) =
      .ok (if RequestText.numberOf name l = [] then none
        else some (UInt32.ofInt (atoi (RequestText.numberOf name l)), inLine (numberRest name l) lines z)) := by
  obtain ⟨value, rfl⟩ := found
  have field := numberField value
  have behind : (name ++ value).drop name.length = value := List.drop_left
  have text : (inLine (name ++ value) lines z).drop name.length = inLine value lines z := by
    rw [inLine, List.append_assoc, List.drop_left]
    rfl
  have inside : ∀ c ∈ value, IsPlain c := fun c member => plain c (List.mem_append_right name member)
  rw [numberEnd, RequestText.numberOf, behind] at fit
  rw [RequestText.numberOf, numberRest, behind, text]
  by_cases none : (value.dropWhile isblank).takeWhile isdigit = []
  · rw [if_pos none]
    rw [none] at field
    exact parse_numeric_none field
  · rw [if_neg none]
    have enough := fit none
    exact parse_numeric_some field inside none (by omega)

theorem prefix_inLine {word : Bytes} (absent : CR ∉ word) : word <+: inLine l lines z ↔ word <+: l :=
  prefix_line absent

theorem headerLine_eq {left : Int} (plain : ∀ c ∈ l, IsPlain c) (fit : NumbersFit left l) :
    headerLine s left (inLine l lines z) = headerOf s l lines z := by
  have cseq : ascii "CSeq:" <+: inLine l lines z ↔ CSEQ <+: l := prefix_inLine (by decide)
  have length : ascii "Content-Length:" <+: inLine l lines z ↔ CONTENT_LENGTH <+: l := prefix_inLine (by decide)
  unfold headerLine headerOf
  by_cases first : CSEQ <+: l
  · have number := parse_numeric_line lines z plain first (fit CSEQ (by simp) first)
    rw [if_pos (cseq.mpr first), if_pos first]
    rw [show CSEQ.length = 5 from rfl] at number
    rw [show (left - 5) = left - ((5 : Nat) : Int) from rfl, number, ok_bind]
    by_cases none : RequestText.numberOf CSEQ l = []
    · rw [if_pos none, if_pos none]
    · rw [if_neg none, if_neg none]
  rw [if_neg (mt cseq.mp first), if_neg first]
  by_cases second : CONTENT_LENGTH <+: l
  · have number := parse_numeric_line lines z plain second (fit CONTENT_LENGTH (by simp) second)
    rw [if_pos (length.mpr second), if_pos second]
    rw [show CONTENT_LENGTH.length = 15 from rfl] at number
    rw [show (left - 15) = left - ((15 : Nat) : Int) from rfl, number, ok_bind]
    by_cases none : RequestText.numberOf CONTENT_LENGTH l = []
    · rw [if_pos none, if_pos none]
    · rw [if_neg none, if_neg none]
  · rw [if_neg (mt length.mp second), if_neg second]

/-- The number a header line sets `m_CSeq` to. -/
def cseqAfter (n : UInt32) (l : Bytes) : UInt32 :=
  if CSEQ <+: l then UInt32.ofInt (atoi (RequestText.numberOf CSEQ l)) else n

theorem otherHeader_cseq {w cur : Bytes} (h : otherHeader s w = .ok (t, some cur)) : t.m_CSeq = s.m_CSeq := by
  have rel : TransportRel fun u v => u = v ∧ u.m_CSeq = s.m_CSeq :=
    { cmd := fun h => by rw [h.1], tcp := fun _ h _ => ⟨by rw [h.1], h.2⟩, port := fun _ h _ => ⟨by rw [h.1], h.2⟩ }
  have related := otherHeader_rel rel (⟨rfl, rfl⟩ : s = s ∧ s.m_CSeq = s.m_CSeq) w
  rw [h] at related
  exact related.1.2

theorem headerOf_inLine {cur : Bytes} (plain : ∀ c ∈ l, IsPlain c) (all : PlainLines lines)
    (h : headerOf s l lines z = .ok (t, some cur)) :
    ∃ x later, (∀ c ∈ x, IsPlain c) ∧ cur = inLine x later z ∧ Skips lines later ∧
      t.m_CSeq = cseqAfter s.m_CSeq l := by
  unfold headerOf at h
  unfold cseqAfter
  split at h
  · rename_i first
    rw [if_pos first]
    split at h
    · cases pure_ok h
    · cases pure_ok h
      exact ⟨_, lines, numberRest_plain plain, rfl, Skips.refl lines, rfl⟩
  rename_i first
  rw [if_neg first]
  split at h
  · split at h
    · cases pure_ok h
    · cases pure_ok h
      exact ⟨_, lines, numberRest_plain plain, rfl, Skips.refl lines, rfl⟩
  · obtain ⟨later, same, skips⟩ := otherHeader_inLine plain all h
    exact ⟨[], later, fun c member => absurd member List.not_mem_nil, same, skips, otherHeader_cseq h⟩

/-! ### The loop -/

/-- The size reaches behind the numbers in all header lines. -/
def AllFit (aRequest : Bytes) (size : Nat) (lines : List Bytes) (z : Bytes) : Prop :=
  ∀ l rest, l :: rest <:+ lines → NumbersFit (leftAt aRequest size l rest z) l

theorem AllFit.suffix {aRequest : Bytes} {size : Nat} {later : List Bytes} (fit : AllFit aRequest size lines z)
    (h : later <:+ lines) : AllFit aRequest size later z := fun l rest inside => fit l rest (inside.trans h)

/-- Two sizes that reach behind all numbers give the same result. -/
theorem headerLoop_sizes {aRequest : Bytes} {size size' fuel : Nat} (plain : ∀ c ∈ x, IsPlain c)
    (all : PlainLines lines) (fit : AllFit aRequest size lines z) (fit' : AllFit aRequest size' lines z) :
    headerLoop aRequest size fuel s (inLine x lines z) = headerLoop aRequest size' fuel s (inLine x lines z) := by
  induction fuel generalizing s x lines with
  | zero => rfl
  | succ fuel ih =>
    cases lines with
    | nil => rw [headerLoop_end aRequest size fuel plain, headerLoop_end aRequest size' fuel plain]
    | cons l lines =>
      have here : ∀ c ∈ l, IsPlain c := all l List.mem_cons_self
      have rest : PlainLines lines := fun m member => all m (List.mem_cons_of_mem l member)
      rw [headerLoop_line aRequest size fuel plain here, headerLoop_line aRequest size' fuel plain here,
        headerLine_eq here (fit l lines (List.suffix_refl _)), headerLine_eq here (fit' l lines (List.suffix_refl _))]
      cases header : headerOf s l lines z with
      | error e => rfl
      | ok r =>
        obtain ⟨t, cur⟩ := r
        cases cur with
        | none => rfl
        | some cur =>
          obtain ⟨x', later, plain', rfl, skips, -⟩ := headerOf_inLine here rest header
          have sub : later <:+ l :: lines := skips.suffix.trans (List.suffix_cons l lines)
          exact ih plain' (all.suffix sub) (fit.suffix sub) (fit'.suffix sub)

theorem foldl_cseqAfter_skips {later : List Bytes} (skips : Skips lines later) (n : UInt32) :
    lines.foldl cseqAfter n = later.foldl cseqAfter n := by
  obtain ⟨skipped, rfl, clear⟩ := skips.split
  clear skips
  induction skipped with
  | nil => rfl
  | cons l skipped ih =>
    have other : ¬ CSEQ <+: l := clear l List.mem_cons_self
    rw [List.cons_append, List.foldl_cons, cseqAfter, if_neg other]
    exact ih fun m member => clear m (List.mem_cons_of_mem l member)

theorem headerLoop_cseq {aRequest : Bytes} {size fuel : Nat} (plain : ∀ c ∈ x, IsPlain c) (all : PlainLines lines)
    (fit : AllFit aRequest size lines z) (h : headerLoop aRequest size fuel s (inLine x lines z) = .ok (t, true)) :
    t.m_CSeq = lines.foldl cseqAfter s.m_CSeq := by
  induction fuel generalizing s x lines with
  | zero => cases h
  | succ fuel ih =>
    cases lines with
    | nil =>
      rw [headerLoop_end aRequest size fuel plain] at h
      cases Except.ok.inj h
      rfl
    | cons l lines =>
      have here : ∀ c ∈ l, IsPlain c := all l List.mem_cons_self
      have rest : PlainLines lines := fun m member => all m (List.mem_cons_of_mem l member)
      rw [headerLoop_line aRequest size fuel plain here,
        headerLine_eq here (fit l lines (List.suffix_refl _))] at h
      obtain ⟨⟨u, cur⟩, header, h⟩ := bind_ok h
      cases cur with
      | none => cases pure_ok h
      | some cur =>
        obtain ⟨x', later, plain', rfl, skips, number⟩ := headerOf_inLine here rest header
        have sub : later <:+ l :: lines := skips.suffix.trans (List.suffix_cons l lines)
        rw [ih plain' (all.suffix sub) (fit.suffix sub) h, number, List.foldl_cons, foldl_cseqAfter_skips skips]

end

/-! ### A whole request in the buffer -/

section

variable {t : RequestText}

/-- What stands behind the NUL in the buffer. -/
def RequestText.padding (t : RequestText) : Bytes := List.replicate (499 - t.bytes.length) NUL

theorem bufferOf_text (t : RequestText) : bufferOf t.bytes = inLine t.line.bytes t.block t.padding := by
  rw [bufferOf, RequestText.bytes, inLine, List.append_assoc, List.append_assoc]
  rfl

theorem block_plainLines (t : RequestText) : PlainLines t.block := block_plain t

theorem inLine_length (x : Bytes) (lines : List Bytes) (z : Bytes) :
    (inLine x lines z).length = x.length + 2 + (linesText lines).length + 1 + z.length := by
  simp only [inLine, List.length_append, List.length_cons, List.length_nil]
  omega

theorem numberEnd_le {name l : Bytes} (found : name <+: l) : numberEnd name l ≤ l.length := by
  obtain ⟨value, rfl⟩ := found
  have behind : (name ++ value).drop name.length = value := List.drop_left
  have whole := congrArg List.length (numberField value).whole
  simp only [List.length_append] at whole
  rw [numberEnd, RequestText.numberOf, behind, List.length_append]
  omega

theorem leftAt_text {pre rest : List Bytes} {l : Bytes} (size : Nat) (split : t.block = pre ++ l :: rest) :
    leftAt (bufferOf t.bytes) size l rest t.padding =
      size - ((t.line.bytes.length + 2 + (linesText pre).length : Nat) : Int) := by
  rw [leftAt, bufferOf_text, inLine_length, inLine_length, split, linesText_append, linesText_cons]
  simp only [List.length_append, List.length_cons, List.length_nil]
  omega

theorem allFit_of_size {aRequest z : Bytes} {size : Nat} {lines : List Bytes}
    (whole : aRequest.length = size + 1 + z.length) (inside : (linesText lines).length ≤ size) :
    AllFit aRequest size lines z := by
  rintro l rest ⟨pre, rfl⟩ name - found -
  have within := numberEnd_le found
  rw [linesText_append, linesText_cons] at inside
  simp only [List.length_append, List.length_cons, List.length_nil] at inside
  rw [leftAt, inLine_length]
  omega

theorem allFit_whole (t : RequestText) : AllFit (bufferOf t.bytes) t.bytes.length t.block t.padding := by
  refine allFit_of_size ?_ ?_
  · rw [bufferOf, List.length_append, List.length_cons, RequestText.padding]
    omega
  · rw [RequestText.bytes, List.length_append]
    omega

/-- The size reaches behind every number of the request. -/
def NumbersBefore (size : Nat) (t : RequestText) : Prop :=
  ∀ pre l post, t.headers = pre ++ l :: post → ∀ name ∈ [CSEQ, CONTENT_LENGTH], name <+: l.bytes →
    RequestText.numberOf name l.bytes ≠ [] →
      t.line.bytes.length + 2 + (linesText (pre.map Line.bytes)).length + numberEnd name l.bytes < size

theorem header_of_block {pre rest : List Bytes} {l : Bytes} (split : pre ++ l :: rest = t.block) (notBlank : l ≠ []) :
    ∃ pre' line post, t.headers = pre' ++ line :: post ∧ pre'.map Line.bytes = pre ∧ line.bytes = l := by
  rcases List.append_eq_append_iff.mp split with ⟨gap, headers, last⟩ | ⟨gap, rfl, last⟩
  · match gap, last with
    | [], last => exact absurd (List.cons.inj last).1 notBlank
    | m :: gap, last =>
      rw [(List.cons.inj last).1]
      obtain ⟨pre', later, same, front, back⟩ := List.map_eq_append_iff.mp headers
      obtain ⟨line, post, rfl, first, -⟩ := List.map_eq_cons_iff.mp back
      exact ⟨pre', line, post, same, front, first⟩
  · match gap, last with
    | [], last => exact absurd (List.cons.inj last).1.symm notBlank
    | m :: gap, last => exact absurd (congrArg List.length last) (by simp)

theorem allFit_of_numbersBefore {size : Nat} (before : NumbersBefore size t) :
    AllFit (bufferOf t.bytes) size t.block t.padding := by
  rintro l rest ⟨pre, split⟩ name listed found digits
  have notBlank : l ≠ [] := by
    rintro rfl
    rw [List.prefix_nil] at found
    rw [found] at listed
    exact absurd listed (by decide)
  obtain ⟨pre', line, post, headers, rfl, rfl⟩ := header_of_block split notBlank
  have bound := before pre' line post headers name listed found digits
  rw [leftAt_text _ split.symm]
  omega

theorem requestLine_text {s s' : CRtspSession} {cur : Bytes} (known : t.method ≠ .RTSP_UNKNOWN)
    (h : requestLine s (bufferOf t.bytes) = .ok (s', some cur)) :
    ∃ x later, (∀ c ∈ x, IsPlain c) ∧ cur = inLine x later t.padding ∧ Skips t.block later := by
  rw [bufferOf_text] at h
  obtain ⟨later, here, skips⟩ := requestLine_inLine known (block_plainLines t) h
  obtain ⟨x, plain, same⟩ := here.split
  exact ⟨x, later, plain, same, skips⟩

theorem ParseRtspRequest_sizes {s : CRtspSession} {size size' : Nat} (known : t.method ≠ .RTSP_UNKNOWN)
    (fit : AllFit (bufferOf t.bytes) size t.block t.padding) (fit' : AllFit (bufferOf t.bytes) size' t.block t.padding) :
    ParseRtspRequest s (bufferOf t.bytes) size = ParseRtspRequest s (bufferOf t.bytes) size' := by
  unfold ParseRtspRequest
  cases line : requestLine s.newCommandInit (bufferOf t.bytes) with
  | error e => rfl
  | ok r =>
    obtain ⟨s1, cur⟩ := r
    cases cur with
    | none => rfl
    | some cur =>
      obtain ⟨x, later, plain, rfl, skips⟩ := requestLine_text known line
      exact headerLoop_sizes plain ((block_plainLines t).suffix skips.suffix) (fit.suffix skips.suffix)
        (fit'.suffix skips.suffix)

theorem requestLine_cseq {s s' : CRtspSession} {a : Bytes} {cur : Option Bytes}
    (h : requestLine s a = .ok (s', cur)) : s'.m_CSeq = s.m_CSeq := by
  have rel : LineRel fun u v => u = v ∧ u.m_CSeq = s.m_CSeq :=
    { host := fun _ h => ⟨by rw [h.1], h.2⟩, pres := fun _ h => ⟨by rw [h.1], h.2⟩, stream := fun _ h => ⟨by rw [h.1], h.2⟩ }
  have related := requestLine_rel rel (⟨rfl, rfl⟩ : s = s ∧ s.m_CSeq = s.m_CSeq) a
  rw [h] at related
  exact related.1.2

/-- An accepted request leaves the number of its last `CSeq` header in `m_CSeq`. -/
theorem ParseRtspRequest_cseq {s s' : CRtspSession} (known : t.method ≠ .RTSP_UNKNOWN)
    (h : ParseRtspRequest s (bufferOf t.bytes) t.bytes.length = .ok (s', true)) :
    s'.m_CSeq = t.block.foldl cseqAfter s.m_CSeq := by
  obtain ⟨⟨s1, cur⟩, line, rest⟩ := bind_ok h
  have kept := requestLine_cseq line
  cases cur with
  | none => cases pure_ok rest
  | some cur =>
    obtain ⟨x, later, plain, rfl, skips⟩ := requestLine_text known line
    rw [headerLoop_cseq plain ((block_plainLines t).suffix skips.suffix) ((allFit_whole t).suffix skips.suffix) rest,
      kept, ← foldl_cseqAfter_skips skips]
    rfl

end

end RtspServer
