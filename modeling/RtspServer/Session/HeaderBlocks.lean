import RtspServer.Session.Rejection
import RtspServer.Session.Rendering

/-!
# One header in two texts

Two requests that are the same but for the text of one header. The parser goes
through the lines around that header in both at once.
-/

namespace RtspServer

/-! ### Cursors in a line -/

section

variable {lines : List Bytes} {z x : Bytes} {p : UInt8 → Bool}

theorem skip_front {front : Bytes} (all : ∀ c ∈ front, p c = true) (rest : Bytes) : skip p (front ++ rest) = skip p rest := by
  induction front with
  | nil => rfl
  | cons c front ih =>
    rw [List.cons_append, skip, if_pos (all c List.mem_cons_self)]
    exact ih fun d member => all d (List.mem_cons_of_mem c member)

theorem skip_blank_line (all : ∀ c ∈ x, isspace c = true) (lines : List Bytes) (z : Bytes) :
    skip isspace (inLine x lines z) = skip isspace (linesText lines ++ NUL :: z) := by
  rw [inLine, skip_front all]
  rfl

theorem skip_to_word {c : UInt8} (member : c ∈ x) (word : isspace c = false) (lines : List Bytes) (z : Bytes) :
    skip isspace (inLine x lines z) = .ok (inLine (x.dropWhile isspace) lines z) := by
  rw [inLine, skip_eq (List.mem_append_left _ member) word, List.dropWhile_append, if_neg]
  · rfl
  · intro none
    have inside := mem_dropWhile member word
    rw [List.isEmpty_iff.mp none] at inside
    cases inside

theorem drop_inLine {word : Bytes} (found : word <+: x) (lines : List Bytes) (z : Bytes) :
    (inLine x lines z).drop word.length = inLine (x.drop word.length) lines z :=
  List.drop_append_of_le_length found.length_le

theorem strncasecmp_inLine {word : Bytes} (clean : CR ∉ word) : strncasecmp word (inLine x lines z) ↔ strncasecmp word x := by
  unfold strncasecmp
  by_cases short : word.length ≤ x.length
  · rw [inLine, List.take_append_of_le_length short]
  · -- both would have to reach behind the line
    refine iff_of_false (fun same => clean ?_) fun same => ?_
    · rw [← same]
      refine List.mem_map.mpr ⟨CR, ?_, rfl⟩
      obtain ⟨k, longer⟩ := Nat.exists_eq_add_of_lt (Nat.lt_of_not_le short)
      rw [inLine, longer, List.take_append, List.take_of_length_le (by omega)]
      apply List.mem_append_right x
      rw [show x.length + k + 1 - x.length = k + 1 by omega]
      exact List.mem_cons_self
    · have length := congrArg List.length same
      rw [List.length_map, List.length_take] at length
      omega

theorem drop_plain (plain : ∀ c ∈ x, IsPlain c) (n : Nat) : ∀ c ∈ x.drop n, IsPlain c := fun c member =>
  plain c (List.mem_of_mem_drop member)

end

/-! ### Where the lines around the header end -/

/-- The text `w` at the start of a line is a header or the end: no header continues with it, and the
parser does not look for the version or a protocol in it. -/
structure Border (w : Bytes) : Prop where
  first : ∃ c rest, w = c :: rest ∧ isspace c = false
  version : ¬ ascii "RTSP/" <+: w
  protocol : ¬ ascii "RTP/AVP" <+: w

theorem border_nul (z : Bytes) : Border (NUL :: z) where
  first := ⟨NUL, z, rfl, rfl⟩
  version found := absurd (List.cons_prefix_cons.mp found).1 (by decide)
  protocol found := absurd (List.cons_prefix_cons.mp found).1 (by decide)

/-- What the parser makes of two texts with `b` and `b'` behind the lines: it rejects both and leaves the
same session, or goes on with it at the same place. -/
inductive Beside (lines b b' : List Bytes) (z z' : Bytes) (cmd : RTSP_CMD_TYPES) : Parse → Parse → Prop
  | fault : Beside lines b b' z z' cmd (.error .outOfBounds) (.error .outOfBounds)
  | rejects (t : CRtspSession) : Beside lines b b' z z' cmd (.ok (t, none)) (.ok (t, none))
  | goesOn (t : CRtspSession) (x : Bytes) (later : List Bytes) (plain : ∀ c ∈ x, IsPlain c) (suffix : later <:+ lines)
      (same : t.m_RtspCmdType = cmd) : Beside lines b b' z z' cmd
        (.ok (t, some (inLine x (later ++ b) z))) (.ok (t, some (inLine x (later ++ b') z')))

section

variable {lines later b b' : List Bytes} {z z' x : Bytes} {cmd : RTSP_CMD_TYPES} {s : CRtspSession}

theorem Beside.mono {r r' : Parse} (h : Beside later b b' z z' cmd r r') (suffix : later <:+ lines) :
    Beside lines b b' z z' cmd r r' := by
  cases h with
  | fault => exact .fault
  | rejects t => exact .rejects t
  | goesOn t x last plain inner same => exact .goesOn t x last plain (inner.trans suffix) same

theorem Beside.next {r r' : Parse} {f g : CRtspSession → Bytes → Parse} (h : Beside lines b b' z z' cmd r r')
    (rest : ∀ t x later, (∀ c ∈ x, IsPlain c) → later <:+ lines → t.m_RtspCmdType = cmd →
      Beside later b b' z z' cmd (f t (inLine x (later ++ b) z)) (g t (inLine x (later ++ b') z'))) :
    Beside lines b b' z z' cmd (r.next f) (r'.next g) := by
  cases h with
  | fault => exact .fault
  | rejects t => exact .rejects t
  | goesOn t x later plain suffix same => exact (rest t x later plain suffix same).mono suffix

/-! ### The request line -/

theorem takeWhile_inLine {p : UInt8 → Bool} (stop : p CR = false) (x : Bytes) (lines : List Bytes) (z : Bytes) :
    (inLine x lines z).takeWhile p = x.takeWhile p :=
  takeWhile_stop stop x (LF :: (linesText lines ++ NUL :: z))

theorem copyPart_line (limit : Nat) (x : Bytes) (lines : List Bytes) (z : Bytes) :
    copyPart limit (inLine x lines z) =
      if (x.takeWhile isPart).length ≤ limit then .ok (x.takeWhile isPart, some (inLine (x.dropWhile isPart) lines z))
      else .ok ((x.takeWhile isPart).take limit, none) := by
  unfold copyPart
  rw [takeWhile_inLine (by decide), skip_line (by decide)]
  rfl

theorem nextPart_line (limit pos : Nat) (s : CRtspSession) (x : Bytes) (lines : List Bytes) (z : Bytes) :
    nextPart limit s pos (inLine x lines z) =
      if x.head? ≠ some SLASH then .ok (s, none)
      else if pos < limit then .ok (s, some (inLine (x.dropWhile (· = SLASH)) lines z)) else .error .outOfBounds := by
  unfold nextPart terminate
  rw [skip_line (by decide)]
  cases x with
  | nil => rfl
  | cons c x =>
    rw [inLine_cons, deref_cons, ok_bind, List.head?_cons]
    by_cases slash : c = SLASH
    · rw [if_neg (not_not.mpr slash), if_neg (not_not.mpr (congrArg some slash))]
      split <;> rfl
    · rw [if_pos slash, if_pos fun same => slash (Option.some.inj same)]
      rfl

theorem nextPart_beside (plain : ∀ c ∈ x, IsPlain c) (same : s.m_RtspCmdType = cmd) (limit pos : Nat) :
    Beside lines b b' z z' cmd (nextPart limit s pos (inLine x (lines ++ b) z))
      (nextPart limit s pos (inLine x (lines ++ b') z')) := by
  rw [nextPart_line, nextPart_line]
  split
  · exact .rejects s
  · split
    · exact .goesOn s _ lines (dropWhile_plain plain) (List.suffix_refl _) same
    · exact .fault

theorem hostPort_beside (plain : ∀ c ∈ x, IsPlain c) (same : s.m_RtspCmdType = cmd) :
    Beside lines b b' z z' cmd (hostPort s (inLine x (lines ++ b) z)) (hostPort s (inLine x (lines ++ b') z')) := by
  unfold hostPort
  rw [copyPart_line, copyPart_line]
  split
  · exact nextPart_beside (s := { s with m_CommandHostPort := x.takeWhile isPart }) (dropWhile_plain plain) same _ _
  · exact .rejects _

theorem presentationPart_beside (plain : ∀ c ∈ x, IsPlain c) (same : s.m_RtspCmdType = cmd) :
    Beside lines b b' z z' cmd (presentationPart s (inLine x (lines ++ b) z))
      (presentationPart s (inLine x (lines ++ b') z')) := by
  unfold presentationPart
  rw [copyPart_line, copyPart_line]
  split
  · exact nextPart_beside (s := { s with m_CommandPresentationPart := x.takeWhile isPart }) (dropWhile_plain plain) same _ _
  · exact .rejects _

theorem streamPart_line (s : CRtspSession) (x : Bytes) (lines : List Bytes) (z : Bytes) :
    streamPart s (inLine x lines z) =
      let part := x.takeWhile isPart
      let rest := (x.dropWhile isPart).dropWhile (· = SLASH)
      if part.length ≤ RTSP_PARAM_STRING_MAX then
        if part.length < RTSP_PARAM_STRING_MAX then
          if rest.head? = some SP ∨ rest.head? = some TAB then
            .ok ({ s with m_CommandStreamPart := part }, some (inLine rest lines z))
          else .ok ({ s with m_CommandStreamPart := part }, none)
        else .error .outOfBounds
      else .ok ({ s with m_CommandStreamPart := part.take RTSP_PARAM_STRING_MAX }, none) := by
  dsimp only
  unfold streamPart
  rw [copyPart_line]
  split
  · show (terminate _ _ >>= _) = _
    unfold terminate
    split
    · show (skip _ _ >>= _) = _
      rw [skip_line (by decide), ok_bind]
      cases (x.dropWhile isPart).dropWhile (· = SLASH) with
      | nil => rfl
      | cons c y =>
        rw [inLine_cons, deref_cons, ok_bind, ← inLine_cons, List.head?_cons]
        by_cases blank : c = SP ∨ c = TAB
        · rw [if_neg (by tauto), if_pos (blank.imp (congrArg some) (congrArg some))]
          rfl
        · rw [if_pos (not_or.mp blank), if_neg fun some => blank (some.imp Option.some.inj Option.some.inj)]
          rfl
    · rfl
  · rfl

/-- White space may go on to later lines, up to the border. -/
theorem skip_isspace_beside (border : Border (linesText b ++ NUL :: z)) (border' : Border (linesText b' ++ NUL :: z'))
    (plain : ∀ c ∈ x, IsPlain c) (all : PlainLines lines) :
    (∃ y later, (∀ c ∈ y, IsPlain c) ∧ later <:+ lines ∧
      skip isspace (inLine x (lines ++ b) z) = .ok (inLine y (later ++ b) z) ∧
      skip isspace (inLine x (lines ++ b') z') = .ok (inLine y (later ++ b') z')) ∨
    (skip isspace (inLine x (lines ++ b) z) = .ok (linesText b ++ NUL :: z) ∧
      skip isspace (inLine x (lines ++ b') z') = .ok (linesText b' ++ NUL :: z')) := by
  induction lines generalizing x with
  | nil =>
    by_cases blank : ∀ c ∈ x, isspace c = true
    · right
      obtain ⟨c, rest, text, word⟩ := border.first
      obtain ⟨c', rest', text', word'⟩ := border'.first
      rw [skip_blank_line blank, skip_blank_line blank, List.nil_append, List.nil_append, text, text', skip, skip, word, word']
      exact ⟨rfl, rfl⟩
    · push Not at blank
      obtain ⟨c, member, word⟩ := blank
      exact .inl ⟨_, [], dropWhile_plain plain, List.suffix_refl _, skip_to_word member (by simpa using word) _ _,
        skip_to_word member (by simpa using word) _ _⟩
  | cons l lines ih =>
    by_cases blank : ∀ c ∈ x, isspace c = true
    · rw [skip_blank_line blank, skip_blank_line blank, List.cons_append, List.cons_append, linesText_inLine,
        linesText_inLine]
      apply (ih (all l List.mem_cons_self) fun m member => all m (List.mem_cons_of_mem l member)).imp_left
      rintro ⟨y, later, plain', suffix, skipped⟩
      exact ⟨y, later, plain', suffix.trans (List.suffix_cons l lines), skipped⟩
    · push Not at blank
      obtain ⟨c, member, word⟩ := blank
      exact .inl ⟨_, l :: lines, dropWhile_plain plain, List.suffix_refl _, skip_to_word member (by simpa using word) _ _,
        skip_to_word member (by simpa using word) _ _⟩

theorem streamPart_beside (plain : ∀ c ∈ x, IsPlain c) (same : s.m_RtspCmdType = cmd) :
    Beside lines b b' z z' cmd (streamPart s (inLine x (lines ++ b) z)) (streamPart s (inLine x (lines ++ b') z')) := by
  rw [streamPart_line, streamPart_line]
  dsimp only
  split
  · split
    · split
      · exact .goesOn _ _ lines (dropWhile_plain (dropWhile_plain plain)) (List.suffix_refl _) same
      · exact .rejects _
    · exact .fault
  · exact .rejects _

theorem version_line {t : CRtspSession} (found : ascii "RTSP/" <+: x) (lines : List Bytes) (z : Bytes) :
    (do
      let cur := (inLine x lines z).drop 5
      if ¬ isdigit (← deref cur) then return (t, none)
      else if (← deref (cur.drop 1)) ≠ DOT then return (t, none)
      else if ¬ isdigit (← deref (cur.drop 2)) then return (t, none)
      else return (t, some (cur.drop 3)) : Parse) =
      match x.drop 5 with
      | c :: d :: e :: y =>
        if isdigit c ∧ d = DOT ∧ isdigit e then .ok (t, some (inLine y lines z)) else .ok (t, none)
      | _ => .ok (t, none) := by
  dsimp only
  rw [show 5 = (ascii "RTSP/").length from rfl, drop_inLine found]
  match x.drop (ascii "RTSP/").length with
  | [] => rfl
  | [c] =>
    show (if ¬ isdigit c = true then _ else _) = _
    split <;> rfl
  | [c, d] =>
    show (if ¬ isdigit c = true then _ else (if d ≠ DOT then _ else _ : Parse)) = _
    split
    · rfl
    · split <;> rfl
  | c :: d :: e :: y =>
    show (if ¬ isdigit c = true then _ else (if d ≠ DOT then _ else (if ¬ isdigit e = true then _ else _ : Parse))) =
      if isdigit c = true ∧ d = DOT ∧ isdigit e = true then _ else _
    by_cases first : isdigit c = true
    · by_cases second : d = DOT
      · by_cases third : isdigit e = true
        · rw [if_neg (not_not.mpr first), if_neg (not_not.mpr second), if_neg (not_not.mpr third),
            if_pos ⟨first, second, third⟩]
          rfl
        · rw [if_neg (not_not.mpr first), if_neg (not_not.mpr second), if_pos third, if_neg fun all => third all.2.2]
          rfl
      · rw [if_neg (not_not.mpr first), if_pos second, if_neg fun all => second all.2.1]
        rfl
    · rw [if_pos first, if_neg fun all => first all.1]
      rfl

theorem version_beside (border : Border (linesText b ++ NUL :: z)) (border' : Border (linesText b' ++ NUL :: z'))
    (plain : ∀ c ∈ x, IsPlain c) (all : PlainLines lines) (same : s.m_RtspCmdType = cmd) :
    Beside lines b b' z z' cmd (version s (inLine x (lines ++ b) z)) (version s (inLine x (lines ++ b') z')) := by
  unfold version
  rcases skip_isspace_beside border border' plain all with ⟨y, later, plain', suffix, ok, ok'⟩ | ⟨ok, ok'⟩
  · rw [ok, ok', ok_bind, ok_bind]
    by_cases found : ascii "RTSP/" <+: y
    · rw [if_neg (not_not.mpr ((prefix_inLine (by decide)).mpr found)),
        if_neg (not_not.mpr ((prefix_inLine (by decide)).mpr found)), version_line found, version_line found]
      have plain'' := drop_plain plain' 5
      match y.drop 5, plain'' with
      | [], _ => exact .rejects s
      | [c], _ => exact .rejects s
      | [c, d], _ => exact .rejects s
      | c :: d :: e :: w, plain'' =>
        dsimp only
        split
        · exact .goesOn s w later (drop_plain plain'' 3) suffix same
        · exact .rejects s
    · rw [if_pos (mt (prefix_inLine (by decide)).mp found), if_pos (mt (prefix_inLine (by decide)).mp found)]
      exact .rejects s
  · rw [ok, ok', ok_bind, ok_bind, if_pos border.version, if_pos border'.version]
    exact .rejects s

/-- A request line with a URI: the method, a blank and the rest, where the parser looks for the URI. -/
structure RequestLine where
  leadingCrlf : Bool
  method : Method
  rest : Bytes
  plain : ∀ c ∈ rest, IsPlain c
  uri : ∃ c ∈ rest, isspace c = false

def RequestLine.text (l : RequestLine) : Bytes :=
  (if l.leadingCrlf then CRLF else []) ++ l.method.token ++ SP :: l.rest

theorem scheme_line (s : CRtspSession) (l : RequestLine) (lines : List Bytes) (z : Bytes) :
    scheme s (inLine l.text lines z) =
      let uri := l.rest.dropWhile isspace
      if strncasecmp (ascii "rtsp://") uri then .ok (s, some (inLine (uri.drop 7) lines z)) else .ok (s, none) := by
  obtain ⟨noBlank, short⟩ := name_plain l.leadingCrlf l.method
  obtain ⟨c, member, word⟩ := l.uri
  have text : inLine l.text lines z =
      ((if l.leadingCrlf then CRLF else []) ++ l.method.token) ++ SP :: inLine l.rest lines z := by
    rw [RequestLine.text, inLine, List.append_assoc]
    rfl
  have blank : skip isspace (SP :: inLine l.rest lines z) = skip isspace (inLine l.rest lines z) := rfl
  unfold scheme
  dsimp only
  rw [text, skipCmdName_word noBlank short, ok_bind, blank, skip_to_word member word, ok_bind]
  by_cases found : strncasecmp (ascii "rtsp://") (l.rest.dropWhile isspace)
  · have long : 7 ≤ (l.rest.dropWhile isspace).length := by
      have length := congrArg List.length found
      rw [List.length_map, List.length_take, show (ascii "rtsp://").length = 7 from rfl] at length
      omega
    rw [if_neg (not_not.mpr ((strncasecmp_inLine (by decide)).mpr found)), if_pos found, inLine,
      List.drop_append_of_le_length long]
    rfl
  · rw [if_pos (mt (strncasecmp_inLine (by decide)).mp found), if_neg found]
    rfl

theorem requestLine_beside (border : Border (linesText b ++ NUL :: z)) (border' : Border (linesText b' ++ NUL :: z'))
    (l : RequestLine) (all : PlainLines lines) (same : s.m_RtspCmdType = cmd) :
    Beside lines b b' z z' cmd (requestLine s (inLine l.text (lines ++ b) z))
      (requestLine s (inLine l.text (lines ++ b') z')) := by
  have first : Beside lines b b' z z' cmd (scheme s (inLine l.text (lines ++ b) z))
      (scheme s (inLine l.text (lines ++ b') z')) := by
    rw [scheme_line, scheme_line]
    dsimp only
    split
    · exact .goesOn s _ lines (drop_plain (dropWhile_plain l.plain) 7) (List.suffix_refl _) same
    · exact .rejects s
  refine Beside.next (Beside.next (Beside.next first ?_) ?_) ?_
  · exact fun t x later plain _ same => hostPort_beside plain same
  · exact fun t x later plain _ same => presentationPart_beside plain same
  · intro t x later plain suffix same
    refine Beside.next (streamPart_beside plain same) fun t x last plain inner same => ?_
    exact version_beside border border' plain ((all.suffix suffix).suffix inner) same

end

/-! ### Header lines -/

theorem Parse.next_some (s : CRtspSession) (cur : Bytes) (f : CRtspSession → Bytes → Parse) :
    Parse.next (.ok (s, some cur)) f = f s cur := rfl

/-- The session after the sub-parameters with these port numbers, up to one that is none. -/
def CRtspSession.withPorts (s : CRtspSession) (ports : List Bytes) : CRtspSession :=
  ((ports.takeWhile (· ≠ [])).map fun digits => TransportWrite.clientPort (UInt16.ofInt (atoi digits))).foldl
    CRtspSession.write s

theorem withPorts_cmd (s : CRtspSession) (ports : List Bytes) : (s.withPorts ports).m_RtspCmdType = s.m_RtspCmdType := by
  have writes (ws : List TransportWrite) (s : CRtspSession) :
      (ws.foldl CRtspSession.write s).m_RtspCmdType = s.m_RtspCmdType := by
    induction ws generalizing s with
    | nil => rfl
    | cons w ws ih =>
      rw [List.foldl_cons, ih]
      cases w <;> rfl
  exact writes _ s

section

variable {lines : List Bytes} {z x : Bytes}

theorem portsRead_line (plain : ∀ c ∈ x, IsPlain c) (lines : List Bytes) (z : Bytes) :
    portsRead (inLine x lines z) = clientPorts x := by
  have text : ∀ c ∈ x, isText c = true := fun c member => decide_eq_true ⟨(plain c member).1, (plain c member).2.1⟩
  have front : (inLine x lines z).takeWhile isText = x := by
    rw [takeWhile_inLine (by decide), List.takeWhile_eq_self_iff.mpr text]
  have back : (inLine x lines z).dropWhile isText = inLine [] lines z := by
    rw [inLine, List.dropWhile_append_of_pos text]
    rfl
  unfold portsRead partsRead
  rw [front, back]
  rfl

theorem subParameters_line {fuel : Nat} (s : CRtspSession) (plain : ∀ c ∈ x, IsPlain c)
    (enough : (inLine x lines z).length < fuel) :
    subParameters fuel s (inLine x lines z) =
      .ok (s.withPorts (clientPorts x), if [] ∈ clientPorts x then none else some (inLine [] lines z)) := by
  have inside : Inside z (inLine x lines z) := ⟨x ++ (CRLF ++ linesText lines), by simp only [inLine, List.append_assoc]⟩
  have text : ∀ c ∈ x, isText c = true := fun c member => decide_eq_true ⟨(plain c member).1, (plain c member).2.1⟩
  have back : (inLine x lines z).dropWhile isText = inLine [] lines z := by
    rw [inLine, List.dropWhile_append_of_pos text]
    rfl
  have going : ¬ Stuck (inLine x lines z) := by
    rintro ⟨⟨d, rest, bare, other⟩, -⟩
    rw [back] at bare
    exact other (List.cons.inj (List.cons.inj bare).2).1.symm
  have ends := subParameters_ends s inside.nul going enough
  have sound := (subParameters_inside (s := s) inside fuel (Nat.le_refl _)).1
  have ports := portsRead_line plain lines z
  cases found : subParameters fuel s (inLine x lines z) with
  | error e =>
    cases e with
    | hang => exact absurd found ends
    | outOfBounds => exact absurd found sound
  | ok result =>
    obtain ⟨t, r⟩ := result
    obtain ⟨writes, numbered, stopped⟩ := subParameters_writes inside.nul found
    have same : t = s.withPorts (clientPorts x) := by
      rw [writes, portWrites, ports]
      rfl
    rw [ports] at numbered stopped
    rw [same]
    cases r with
    | none =>
      have none : [] ∈ clientPorts x := (stopped rfl).resolve_right fun nul => by
        rw [back] at nul
        exact absurd (Option.some.inj nul) (by decide)
      rw [if_pos none]
    | some cur =>
      rw [if_neg (numbered (Option.some_ne_none cur)), subParameters_inLine plain found]

end

section

variable {lines b b' : List Bytes} {z z' x l : Bytes} {cmd : RTSP_CMD_TYPES} {s : CRtspSession}

theorem Border.stop {w : Bytes} (border : Border w) : ∃ c rest, w = c :: rest ∧ isblank c = false := by
  obtain ⟨c, rest, rfl, word⟩ := border.first
  refine ⟨c, rest, rfl, decide_eq_false ?_⟩
  rintro (rfl | rfl) <;> exact absurd word (by decide)

variable (border : Border (linesText b ++ NUL :: z)) (border' : Border (linesText b' ++ NUL :: z'))

include border border'

theorem transportStart_beside (plain : ∀ c ∈ x, IsPlain c) (all : PlainLines lines) :
    (transportStart (inLine x (lines ++ b) z) = .ok none ∧ transportStart (inLine x (lines ++ b') z') = .ok none) ∨
    ∃ tcp y later, (∀ c ∈ y, IsPlain c) ∧ later <:+ lines ∧
      transportStart (inLine x (lines ++ b) z) = .ok (some (tcp, inLine y (later ++ b) z)) ∧
      transportStart (inLine x (lines ++ b') z') = .ok (some (tcp, inLine y (later ++ b') z')) := by
  have rtp : (ascii "RTP/AVP").length = 7 := rfl
  have tcp : (ascii "/TCP").length = 4 := rfl
  unfold transportStart
  rcases skip_isspace_beside border border' plain all with ⟨y, later, plain', suffix, ok, ok'⟩ | ⟨ok, ok'⟩
  · rw [ok, ok', ok_bind, ok_bind]
    by_cases found : ascii "RTP/AVP" <+: y
    · rw [if_neg (not_not.mpr ((prefix_inLine (by decide)).mpr found)),
        if_neg (not_not.mpr ((prefix_inLine (by decide)).mpr found)), ← rtp, drop_inLine found, drop_inLine found]
      dsimp only
      have plain'' := drop_plain plain' 7
      by_cases slashTcp : ascii "/TCP" <+: y.drop 7
      · rw [rtp, if_pos ((prefix_inLine (by decide)).mpr slashTcp), if_pos ((prefix_inLine (by decide)).mpr slashTcp), ← tcp,
          drop_inLine slashTcp, drop_inLine slashTcp]
        exact .inr ⟨true, _, later, drop_plain plain'' 4, suffix, rfl, rfl⟩
      · rw [rtp, if_neg (mt (prefix_inLine (by decide)).mp slashTcp), if_neg (mt (prefix_inLine (by decide)).mp slashTcp)]
        exact .inr ⟨false, _, later, plain'', suffix, rfl, rfl⟩
    · rw [if_pos (mt (prefix_inLine (by decide)).mp found), if_pos (mt (prefix_inLine (by decide)).mp found)]
      exact .inl ⟨rfl, rfl⟩
  · rw [ok, ok', ok_bind, ok_bind, if_pos border.protocol, if_pos border'.protocol]
    exact .inl ⟨rfl, rfl⟩

theorem transport_beside (plain : ∀ c ∈ x, IsPlain c) (all : PlainLines lines) (same : s.m_RtspCmdType = cmd) :
    Beside lines b b' z z' cmd (transport s (inLine x (lines ++ b) z)) (transport s (inLine x (lines ++ b') z')) := by
  rcases transportStart_beside border border' plain all with ⟨none, none'⟩ | ⟨tcp, y, later, plain', suffix, some, some'⟩
  · rcases transport_start s none with ⟨-, ok⟩ | ⟨_, _, _, some, -⟩
    · rcases transport_start s none' with ⟨-, ok'⟩ | ⟨_, _, _, some, -⟩
      · rw [ok, ok']
        exact .rejects s
      · cases some
    · cases some
  · rcases transport_start s some with ⟨none, -⟩ | ⟨_, _, fuel, args, enough, ok⟩
    · cases none
    rcases transport_start s some' with ⟨none, -⟩ | ⟨_, _, fuel', args', enough', ok'⟩
    · cases none
    cases args
    cases args'
    rw [ok, ok', subParameters_line _ plain' enough, subParameters_line _ plain' enough']
    split
    · exact .rejects _
    · exact .goesOn _ [] later nofun suffix ((withPorts_cmd _ _).trans same)

theorem otherHeader_beside (plain : ∀ c ∈ l, IsPlain c) (all : PlainLines lines) (same : s.m_RtspCmdType = cmd) :
    Beside lines b b' z z' cmd (otherHeader s (inLine l (lines ++ b) z)) (otherHeader s (inLine l (lines ++ b') z')) := by
  have later : lines.dropWhile startsBlank <:+ lines := List.dropWhile_suffix _
  have whole : ∀ c ∈ l ++ glued lines, IsPlain c := fun c member =>
    (List.mem_append.mp member).elim (plain c) (glued_plain all c)
  unfold otherHeader
  rw [glue_lines plain all border.stop, glue_lines plain all border'.stop, ok_bind, ok_bind]
  refine Beside.mono (Beside.next ?_ ?_) later
  · by_cases header : s.m_RtspCmdType = .RTSP_SETUP ∧ ascii "Transport:" <+: l ++ glued lines
    · have text (lines : List Bytes) (z : Bytes) := drop_inLine header.2 lines z
      rw [show (ascii "Transport:").length = 10 from rfl] at text
      rw [if_pos ⟨header.1, (prefix_inLine (by decide)).mpr header.2⟩,
        if_pos ⟨header.1, (prefix_inLine (by decide)).mpr header.2⟩, text, text]
      exact transport_beside border border' (drop_plain whole 10) (all.suffix later) same
    · rw [if_neg fun found => header ⟨found.1, (prefix_inLine (by decide)).mp found.2⟩,
        if_neg fun found => header ⟨found.1, (prefix_inLine (by decide)).mp found.2⟩]
      exact .goesOn s _ _ whole (List.suffix_refl _) same
  · intro t x last plain suffix same
    rw [skipToEnd plain, skipToEnd plain]
    exact .goesOn t [] last nofun (List.suffix_refl _) same

theorem headerOf_beside (plain : ∀ c ∈ l, IsPlain c) (all : PlainLines lines) (same : s.m_RtspCmdType = cmd) :
    Beside lines b b' z z' cmd (headerOf s l (lines ++ b) z) (headerOf s l (lines ++ b') z') := by
  unfold headerOf
  split
  · split
    · exact .rejects s
    · exact .goesOn _ _ lines (numberRest_plain plain) (List.suffix_refl _) same
  split
  · split
    · exact .rejects s
    · exact .goesOn _ _ lines (numberRest_plain plain) (List.suffix_refl _) same
  · exact otherHeader_beside border border' plain all same

end

/-! ### The loop over the lines -/

/-- Both runs end in the same way, and not because a loop goes on for ever. -/
structure EndAlike (r r' : Run (CRtspSession × Bool)) : Prop where
  same : r = r'
  ends : r ≠ .error .hang

section

variable {lines b b' : List Bytes} {z z' x a a' : Bytes} {cmd : RTSP_CMD_TYPES} {s : CRtspSession} {size size' : Nat}

theorem headerLoop_round {later next next' : List Bytes} {l l' x' : Bytes} {fuel : Nat} (plain : ∀ c ∈ x, IsPlain c)
    (plain' : ∀ c ∈ x', IsPlain c) (here : ∀ c ∈ l, IsPlain c) (here' : ∀ c ∈ l', IsPlain c)
    (fit : NumbersFit (leftAt a size l next z) l) (fit' : NumbersFit (leftAt a' size' l' next' z') l')
    (beside : Beside later b b' z z' cmd (headerOf s l next z) (headerOf s l' next' z'))
    (rest : ∀ t x last, (∀ c ∈ x, IsPlain c) → last <:+ later → t.m_RtspCmdType = cmd →
      EndAlike (headerLoop a size fuel t (inLine x (last ++ b) z)) (headerLoop a' size' fuel t (inLine x (last ++ b') z'))) :
    EndAlike (headerLoop a size (fuel + 1) s (inLine x (l :: next) z))
      (headerLoop a' size' (fuel + 1) s (inLine x' (l' :: next') z')) := by
  rw [headerLoop_line a size fuel plain here, headerLoop_line a' size' fuel plain' here', headerLine_eq here fit,
    headerLine_eq here' fit']
  generalize headerOf s l next z = r, headerOf s l' next' z' = r' at beside ⊢
  cases beside with
  | fault => exact ⟨rfl, nofun⟩
  | rejects t => exact ⟨rfl, nofun⟩
  | goesOn t x last plain suffix same => exact rest t x last plain suffix same

/-- The lines in front of a border are gone through in step. -/
theorem headerLoop_beside {k fuel : Nat} (border : Border (linesText b ++ NUL :: z))
    (border' : Border (linesText b' ++ NUL :: z')) (fit : AllFit a size (lines ++ b) z) (fit' : AllFit a' size' (lines ++ b') z')
    (last : ∀ fuel s x, k < fuel → (∀ c ∈ x, IsPlain c) → s.m_RtspCmdType = cmd →
      EndAlike (headerLoop a size fuel s (inLine x b z)) (headerLoop a' size' fuel s (inLine x b' z')))
    (plain : ∀ c ∈ x, IsPlain c) (all : PlainLines lines) (same : s.m_RtspCmdType = cmd) (enough : lines.length + k < fuel) :
    EndAlike (headerLoop a size fuel s (inLine x (lines ++ b) z)) (headerLoop a' size' fuel s (inLine x (lines ++ b') z')) := by
  induction fuel generalizing s x lines with
  | zero => exact absurd enough (Nat.not_lt_zero _)
  | succ fuel ih =>
    cases lines with
    | nil =>
      rw [List.length_nil, Nat.zero_add] at enough
      exact last (fuel + 1) s x enough plain same
    | cons l lines =>
      have here : ∀ c ∈ l, IsPlain c := all l List.mem_cons_self
      have rest : PlainLines lines := fun m member => all m (List.mem_cons_of_mem l member)
      refine headerLoop_round plain plain here here (fit l _ (List.suffix_refl _)) (fit' l _ (List.suffix_refl _))
        (headerOf_beside border border' here rest same) ?_
      intro t x later plain suffix same
      have inner (b : List Bytes) : later ++ b <:+ l :: lines ++ b := by
        obtain ⟨front, rfl⟩ := suffix
        exact ⟨l :: front, by simp only [List.cons_append, List.append_assoc]⟩
      apply ih (fit.suffix (inner b)) (fit'.suffix (inner b')) plain (rest.suffix suffix) same
      have shorter := suffix.length_le
      rw [List.length_cons] at enough
      omega

end

/-! ### Two texts of one header -/

/-- A request as its request line and its lines behind it. -/
def requestText (line : RequestLine) (lines : List Bytes) : Bytes := line.text ++ CRLF ++ linesText lines

/-- No line is taken for the continuation of a header in front of them. -/
def ClosesHeader (after : List Bytes) : Prop := ∀ l ∈ after.head?, startsBlank l = false

instance (after : List Bytes) : Decidable (ClosesHeader after) := inferInstanceAs (Decidable (∀ _ ∈ _, _))

/-- A header in two texts, each with the lines that continue it, such that the parser goes on behind
either in the same way. -/
structure SameHeader (cmd : RTSP_CMD_TYPES) (header header' : List Bytes) : Prop where
  plain : PlainLines header
  plain' : PlainLines header'
  border : ∀ w, Border (linesText header ++ w)
  border' : ∀ w, Border (linesText header' ++ w)
  lines : ∃ l c, header = l :: c ∧ ∃ l' c', header' = l' :: c' ∧ ∀ (s : CRtspSession) (after : List Bytes) (z z' : Bytes),
    s.m_RtspCmdType = cmd → PlainLines after → ClosesHeader after →
      Beside after [] [] z z' cmd (headerOf s l (c ++ after) z) (headerOf s l' (c' ++ after) z')

section

variable {line : RequestLine} {before header header' after : List Bytes} {s : CRtspSession}

theorem bufferOf_requestText (line : RequestLine) (lines : List Bytes) :
    bufferOf (requestText line lines) = inLine line.text lines (padding (requestText line lines)) := by
  rw [bufferOf, requestText, inLine, List.append_assoc, List.append_assoc]
  rfl

theorem allFit_requestText (line : RequestLine) (lines : List Bytes) :
    AllFit (bufferOf (requestText line lines)) (requestText line lines).length lines (padding (requestText line lines)) := by
  refine allFit_of_size ?_ ?_
  · rw [bufferOf, List.length_append, List.length_cons, padding]
    omega
  · rw [requestText, List.length_append]
    omega

theorem bufferOf_length {q : Bytes} (fits : q.length ≤ 499) : (bufferOf q).length = 500 := by
  rw [bufferOf, List.length_append, List.length_cons, List.length_replicate]
  omega

/-- The lines behind the header are gone through in step as well. -/
theorem headerLoop_sameHeader {a a' z z' x : Bytes} {size size' fuel : Nat}
    (same : SameHeader s.m_RtspCmdType header header') (fit : AllFit a size (header ++ after) z)
    (fit' : AllFit a' size' (header' ++ after) z') (closed : ClosesHeader after) (all : PlainLines after)
    (plain : ∀ c ∈ x, IsPlain c) (enough : after.length + 1 < fuel) :
    EndAlike (headerLoop a size fuel s (inLine x (header ++ after) z))
      (headerLoop a' size' fuel s (inLine x (header' ++ after) z')) := by
  obtain ⟨l, c, rfl, l', c', rfl, beside⟩ := same.lines
  match fuel, enough with
  | fuel + 1, enough =>
    have inner (l : Bytes) (c last : List Bytes) (suffix : last <:+ after) : last ++ [] <:+ l :: c ++ after := by
      rw [List.append_nil]
      exact suffix.trans (List.suffix_append (l :: c) after)
    refine headerLoop_round plain plain (same.plain l List.mem_cons_self) (same.plain' l' List.mem_cons_self)
      (fit l _ (List.suffix_refl _)) (fit' l' _ (List.suffix_refl _)) (beside s after z z' rfl all closed) ?_
    intro t x last plain suffix kept
    refine headerLoop_beside (k := 0) (border_nul z) (border_nul z') (fit.suffix (inner l c last suffix))
      (fit'.suffix (inner l' c' last suffix)) ?_ plain (all.suffix suffix) kept ?_
    · intro fuel s x more plain _
      match fuel, more with
      | fuel + 1, _ =>
        rw [headerLoop_end a size fuel plain, headerLoop_end a' size' fuel plain]
        exact ⟨rfl, nofun⟩
    · have shorter := suffix.length_le
      omega

/-- A request is parsed in the same way with either text of the header. -/
theorem ParseRtspRequest_sameHeader (same : SameHeader s.m_RtspCmdType header header') (closed : ClosesHeader after)
    (plain : PlainLines before) (all : PlainLines after)
    (fits : (requestText line (before ++ (header ++ after))).length ≤ 499)
    (fits' : (requestText line (before ++ (header' ++ after))).length ≤ 499) :
    let q := requestText line (before ++ (header ++ after))
    let q' := requestText line (before ++ (header' ++ after))
    EndAlike (ParseRtspRequest s (bufferOf q) q.length) (ParseRtspRequest s (bufferOf q') q'.length) := by
  dsimp only
  have border (z : Bytes) : Border (linesText (header ++ after) ++ NUL :: z) := by
    rw [linesText_append, List.append_assoc]
    exact same.border _
  have border' (z : Bytes) : Border (linesText (header' ++ after) ++ NUL :: z) := by
    rw [linesText_append, List.append_assoc]
    exact same.border' _
  obtain ⟨fuel, isFuel⟩ : ∃ fuel, fuel = 500 + 1 := ⟨_, rfl⟩
  have rounds : before.length + (after.length + 1) < fuel := by
    have lines := linesText_length_ge (before ++ (header ++ after))
    obtain ⟨l, c, rfl, -⟩ := same.lines
    rw [requestText, List.length_append] at fits
    simp only [List.length_append, List.length_cons] at lines fits
    omega
  have first := requestLine_beside (s := s.newCommandInit) (border (padding (requestText line (before ++ (header ++ after)))))
    (border' (padding (requestText line (before ++ (header' ++ after))))) line plain (rfl : _ = s.m_RtspCmdType)
  rw [← bufferOf_requestText, ← bufferOf_requestText] at first
  unfold ParseRtspRequest
  rw [bufferOf_length fits, bufferOf_length fits', ← isFuel]
  generalize requestLine s.newCommandInit (bufferOf (requestText line (before ++ (header ++ after)))) = r,
    requestLine s.newCommandInit (bufferOf (requestText line (before ++ (header' ++ after)))) = r' at first ⊢
  have fit := allFit_requestText line (before ++ (header ++ after))
  have fit' := allFit_requestText line (before ++ (header' ++ after))
  cases first with
  | fault => exact ⟨rfl, nofun⟩
  | rejects t => exact ⟨rfl, nofun⟩
  | goesOn t x later inLine suffix cmd =>
    have inner (lines : List Bytes) : later ++ lines <:+ before ++ lines := by
      obtain ⟨front, rfl⟩ := suffix
      exact ⟨front, (List.append_assoc _ _ _).symm⟩
    have shorter := suffix.length_le
    refine headerLoop_beside (border _) (border' _) (fit.suffix (inner _)) (fit'.suffix (inner _)) ?_ inLine
      (plain.suffix suffix) cmd
      (Nat.lt_of_le_of_lt (Nat.add_le_add_right shorter _) rounds)
    intro fuel t x enough plain kept
    rw [← kept] at same
    exact headerLoop_sameHeader same (fit.suffix (List.suffix_append _ _)) (fit'.suffix (List.suffix_append _ _)) closed all
      plain enough

end

end RtspServer
