import RtspServer.Base.Decimal
import RtspServer.Session.HeaderLoop

/-!
# Rendered requests

A request as its method, the three parts of its URI and its headers, with the
text it is written as. The parser gets back what was written.
-/

namespace RtspServer

/-- Printable, neither white space nor a slash. -/
def PartChar (c : UInt8) : Prop := 33 ≤ c ∧ c ≤ 126 ∧ c ≠ SLASH

instance (c : UInt8) : Decidable (PartChar c) := inferInstanceAs (Decidable (_ ∧ _))

/-- A part of the URI with `least` to `most` characters. -/
structure UriPart (least most : Nat) where
  chars : Bytes
  printable : ∀ c ∈ chars, PartChar c
  least_le : least ≤ chars.length
  le_most : chars.length ≤ most

def TRANSPORT : Bytes := ascii "Transport:"

/-- A header line that the parser passes over. It may be empty. -/
structure OtherLine where
  bytes : Bytes
  plain : ∀ c ∈ bytes, IsPlain c
  noBlank : ∀ c, bytes.head? = some c → isblank c = false
  other : ∀ name ∈ [CSEQ, CONTENT_LENGTH, TRANSPORT], ¬ name <+: bytes

inductive Header where
  | cseq (n : Nat)
  | contentLength (m : Nat)
  | other (l : OtherLine)

def Header.text : Header → Bytes
  | cseq n => CSEQ ++ SP :: decimal n
  | contentLength m => CONTENT_LENGTH ++ SP :: decimal m
  | other l => l.bytes

def Header.cseq? : Header → Option Nat
  | cseq n => some n
  | _ => none

def Header.contentLength? : Header → Option Nat
  | contentLength m => some m
  | _ => none

inductive Method where
  | OPTIONS | DESCRIBE | SETUP | PLAY | TEARDOWN
  deriving DecidableEq

def Method.token : Method → Bytes
  | OPTIONS => ascii "OPTIONS"
  | DESCRIBE => ascii "DESCRIBE"
  | SETUP => ascii "SETUP"
  | PLAY => ascii "PLAY"
  | TEARDOWN => ascii "TEARDOWN"

/-- A request with one `CSeq` header and at most one `Content-Length` header, anywhere
among the others. -/
structure Rendering where
  leadingCrlf : Bool
  method : Method
  hostPort : UriPart 0 55
  presentation : UriPart 1 49
  stream : UriPart 1 49
  -- Extra slashes behind each part.
  afterHost : Nat
  afterPresentation : Nat
  afterStream : Nat
  headers : List Header
  cseq : Nat
  contentLength : Option Nat
  cseqOnce : headers.filterMap Header.cseq? = [cseq]
  lengthOnce : headers.filterMap Header.contentLength? = contentLength.toList
  cseq_lt : cseq < 2 ^ 31
  length_lt : ∀ m ∈ contentLength, m < 2 ^ 31

namespace Rendering

def lines (r : Rendering) : List Bytes := r.headers.map Header.text ++ [[]]

/-- The request up to the version, from the blank behind the method on. -/
def uri (r : Rendering) (rest : Bytes) : Bytes :=
  SP :: (ascii "rtsp://" ++ (r.hostPort.chars ++ SLASH :: (List.replicate r.afterHost SLASH ++
    (r.presentation.chars ++ SLASH :: (List.replicate r.afterPresentation SLASH ++
      (r.stream.chars ++ (List.replicate r.afterStream SLASH ++ SP :: rest)))))))

def front (r : Rendering) : Bytes :=
  (if r.leadingCrlf then CRLF else []) ++ (r.method.token ++ r.uri (ascii "RTSP/1.0" ++ CRLF))

def text (r : Rendering) : Bytes := r.front ++ linesText r.lines

end Rendering

/-! ### The parts of the URI -/

theorem PartChar.isPart {c : UInt8} (h : PartChar c) : isPart c = true := by
  obtain ⟨low, -, other⟩ := h
  have notNul : c ≠ NUL := by
    rintro rfl
    exact absurd low (by decide)
  have noSpace : isspace c = false := by
    rw [UInt8.le_iff_toNat_le] at low
    have notSp : c ≠ SP := by
      rintro rfl
      exact absurd low (by decide)
    have high : ¬ c ≤ 13 := by
      rw [UInt8.le_iff_toNat_le]
      exact fun le => absurd (Nat.le_trans low le) (by decide)
    exact decide_eq_false fun is => is.elim notSp fun range => high range.2
  exact decide_eq_true ⟨notNul, by rw [noSpace]; exact Bool.false_ne_true, other⟩

section

variable {s : CRtspSession} {part rest : Bytes} {c d : UInt8} {limit pos : Nat}

theorem copyPart_append (all : ∀ c ∈ part, isPart c = true) (stop : isPart c = false) (fits : part.length ≤ limit) :
    copyPart limit (part ++ c :: rest) = .ok (part, some (c :: rest)) := by
  have front : (part ++ c :: rest).takeWhile isPart = part := by
    rw [List.takeWhile_append_of_pos all, List.takeWhile_cons_of_neg (by rw [stop]; exact Bool.false_ne_true),
      List.append_nil]
  unfold copyPart
  simp only [front]
  rw [if_pos fits, skip_append all stop rest]
  rfl

theorem skip_slashes (k : Nat) (other : d ≠ SLASH) (rest : Bytes) :
    skip (fun c => c = SLASH) (List.replicate k SLASH ++ d :: rest) = .ok (d :: rest) :=
  skip_append (fun _ member => decide_eq_true (List.eq_of_mem_replicate member)) (decide_eq_false other) rest

theorem nextPart_slashes (k : Nat) (other : d ≠ SLASH) (inside : pos < limit) :
    nextPart limit s pos (SLASH :: (List.replicate k SLASH ++ d :: rest)) = .ok (s, some (d :: rest)) := by
  have slashes : skip (fun c => c = SLASH) (SLASH :: (List.replicate k SLASH ++ d :: rest)) = .ok (d :: rest) :=
    skip_slashes (k + 1) other rest
  rw [nextPart, deref_cons, ok_bind, if_neg (not_not.mpr rfl), terminate, if_pos inside]
  show (skip (fun c => c = SLASH) _ >>= _) = _
  rw [slashes]
  rfl

theorem scheme_text {name : Bytes} (noBlank : ∀ c ∈ name, c ≠ SP ∧ c ≠ TAB) (short : name.length < 19) (rest : Bytes) :
    scheme s (name ++ SP :: (ascii "rtsp://" ++ rest)) = .ok (s, some rest) := by
  have word : strncasecmp (ascii "rtsp://") (ascii "rtsp://" ++ rest) := by
    unfold strncasecmp
    rw [List.take_left]
    decide
  rw [scheme, skipCmdName_word noBlank short, ok_bind,
    show skip isspace (SP :: (ascii "rtsp://" ++ rest)) = .ok (ascii "rtsp://" ++ rest) from rfl, ok_bind,
    if_neg (not_not.mpr word)]
  rfl

variable (plain : ∀ c ∈ part, PartChar c) (k : Nat) (other : d ≠ SLASH)

theorem isPart_slash : isPart SLASH = false := rfl

include plain other in
theorem hostPort_text (fits : part.length < MAX_HOSTNAME_LEN) (rest : Bytes) :
    hostPort s (part ++ SLASH :: (List.replicate k SLASH ++ d :: rest)) =
      .ok ({ s with m_CommandHostPort := part }, some (d :: rest)) := by
  rw [hostPort, copyPart_append (fun c member => (plain c member).isPart) isPart_slash (Nat.le_of_lt fits)]
  exact nextPart_slashes k other fits

include plain other in
theorem presentationPart_text (fits : part.length < RTSP_PARAM_STRING_MAX) (rest : Bytes) :
    presentationPart s (part ++ SLASH :: (List.replicate k SLASH ++ d :: rest)) =
      .ok ({ s with m_CommandPresentationPart := part }, some (d :: rest)) := by
  rw [presentationPart, copyPart_append (fun c member => (plain c member).isPart) isPart_slash (Nat.le_of_lt fits)]
  exact nextPart_slashes k other fits

include plain in
theorem streamPart_text (fits : part.length < RTSP_PARAM_STRING_MAX) (rest : Bytes) :
    streamPart s (part ++ (List.replicate k SLASH ++ SP :: rest)) =
      .ok ({ s with m_CommandStreamPart := part }, some (SP :: rest)) := by
  have stop : ∃ c tail, List.replicate k SLASH ++ SP :: rest = c :: tail ∧ isPart c = false := by
    cases k with
    | zero => exact ⟨SP, rest, rfl, rfl⟩
    | succ k => exact ⟨SLASH, List.replicate k SLASH ++ SP :: rest, rfl, rfl⟩
  obtain ⟨c, tail, same, stops⟩ := stop
  have slashes := skip_slashes k (show SP ≠ SLASH by decide) rest
  rw [streamPart, same, copyPart_append (fun c member => (plain c member).isPart) stops (Nat.le_of_lt fits), ← same]
  show (terminate RTSP_PARAM_STRING_MAX part.length >>= _) = _
  rw [terminate, if_pos fits]
  show (skip (fun c => c = SLASH) _ >>= _) = _
  rw [slashes]
  rfl

theorem version_text (rest : Bytes) : version s (SP :: (ascii "RTSP/1.0" ++ rest)) = .ok (s, some rest) := by
  have found : ascii "RTSP/" <+: ascii "RTSP/1.0" ++ rest := ⟨ascii "1.0" ++ rest, rfl⟩
  rw [version, show skip isspace (SP :: (ascii "RTSP/1.0" ++ rest)) = .ok (ascii "RTSP/1.0" ++ rest) from rfl, ok_bind,
    if_neg (not_not.mpr found)]
  rfl

end

theorem UriPart.cons {least most : Nat} (p : UriPart (least + 1) most) :
    ∃ d more, p.chars = d :: more ∧ d ≠ SLASH := by
  match found : p.chars, p.least_le with
  | d :: more, _ => exact ⟨d, more, rfl, (p.printable d (by rw [found]; exact List.mem_cons_self)).2.2⟩

theorem name_plain (leadingCrlf : Bool) (method : Method) :
    (∀ c ∈ (if leadingCrlf then CRLF else []) ++ method.token, c ≠ SP ∧ c ≠ TAB) ∧
      ((if leadingCrlf then CRLF else []) ++ method.token).length < 19 := by
  cases leadingCrlf <;> cases method <;> decide +kernel

theorem requestLine_rendered (s : CRtspSession) (r : Rendering) (rest : Bytes) :
    requestLine s ((if r.leadingCrlf then CRLF else []) ++ (r.method.token ++ r.uri (ascii "RTSP/1.0" ++ rest))) =
      .ok ({ s with m_CommandHostPort := r.hostPort.chars, m_CommandPresentationPart := r.presentation.chars,
                    m_CommandStreamPart := r.stream.chars }, some rest) := by
  obtain ⟨noBlank, short⟩ := name_plain r.leadingCrlf r.method
  obtain ⟨p, pres, presFound, presOther⟩ := r.presentation.cons
  obtain ⟨q, stream, streamFound, streamOther⟩ := r.stream.cons
  have host := hostPort_text (s := s) r.hostPort.printable r.afterHost presOther (Nat.lt_succ_of_le r.hostPort.le_most)
    (pres ++ SLASH :: (List.replicate r.afterPresentation SLASH ++ (r.stream.chars ++
      (List.replicate r.afterStream SLASH ++ SP :: (ascii "RTSP/1.0" ++ rest)))))
  have presentation := presentationPart_text (s := { s with m_CommandHostPort := r.hostPort.chars })
    r.presentation.printable r.afterPresentation streamOther (Nat.lt_succ_of_le r.presentation.le_most)
    (stream ++ (List.replicate r.afterStream SLASH ++ SP :: (ascii "RTSP/1.0" ++ rest)))
  rw [← List.cons_append (a := p), ← presFound] at host
  rw [← List.cons_append (a := q), ← streamFound] at presentation
  rw [requestLine, Rendering.uri, ← List.append_assoc, scheme_text noBlank short]
  show (((hostPort s _).next presentationPart).next _) = _
  rw [host]
  show ((presentationPart _ _).next _) = _
  rw [presentation]
  show ((streamPart _ _).next version) = _
  rw [streamPart_text r.stream.printable r.afterStream (Nat.lt_succ_of_le r.stream.le_most)]
  exact version_text rest

/-! ### The header lines -/

theorem Header.plain (h : Header) : ∀ c ∈ h.text, IsPlain c := by
  have number : ∀ {name : Bytes} (n : Nat), (∀ c ∈ name, IsPlain c) → ∀ c ∈ name ++ SP :: decimal n, IsPlain c := by
    intro name n named c member
    rcases List.mem_append.mp member with inside | inside
    · exact named c inside
    rcases List.mem_cons.mp inside with rfl | inside
    · decide
    · exact isPlain_of_isdigit (isdigit_decimal n c inside)
  cases h with
  | cseq n => exact number n (by decide +kernel)
  | contentLength m => exact number m (by decide +kernel)
  | other l => exact l.plain

theorem Header.noBlank (h : Header) : ∀ c, h.text.head? = some c → isblank c = false := by
  cases h with
  | other l => exact l.noBlank
  | cseq n =>
    rintro c first
    cases first
    rfl
  | contentLength m =>
    rintro c first
    cases first
    rfl

/-- What a header leaves in the session. -/
def Header.apply (s : CRtspSession) : Header → CRtspSession
  | cseq n => { s with m_CSeq := UInt32.ofNat n }
  | contentLength m => { s with m_ContentLength := UInt32.ofNat m }
  | other _ => s

/-- The number of a header is below 2^31. -/
def Header.Small (h : Header) : Prop := (∀ n ∈ h.cseq?, n < 2 ^ 31) ∧ ∀ m ∈ h.contentLength?, m < 2 ^ 31

theorem number_rendered (name : Bytes) (n : Nat) :
    RequestText.numberOf name (name ++ SP :: decimal n) = decimal n ∧ numberRest name (name ++ SP :: decimal n) = [] := by
  have digits := isdigit_decimal n
  have noBlanks : (SP :: decimal n).dropWhile isblank = decimal n := by
    rw [List.dropWhile_cons_of_pos rfl]
    match found : decimal n, decimal_ne_nil n with
    | d :: more, _ =>
      have digit : isdigit d = true := digits d (by rw [found]; exact List.mem_cons_self)
      apply List.dropWhile_cons_of_neg
      intro blank
      rw [not_isdigit_of_isblank blank] at digit
      cases digit
  rw [RequestText.numberOf, numberRest, List.drop_left, noBlanks]
  exact ⟨List.takeWhile_eq_self_iff.mpr digits, List.dropWhile_eq_nil_iff.mpr digits⟩

theorem atoi_decimal {n : Nat} (small : n < 2 ^ 31) : UInt32.ofInt (atoi (decimal n)) = UInt32.ofNat n := by
  apply UInt32.toNat.inj
  rw [atoi_small (by rw [digitsValue_decimal]; exact small), digitsValue_decimal,
    UInt32.toNat_ofNat_of_lt' (Nat.lt_trans small (by decide))]

section

variable {s : CRtspSession} {l : Bytes} {lines : List Bytes} {z : Bytes}

theorem glue_closed (plain : ∀ c ∈ l, IsPlain c) (next : ∀ m ∈ lines.head?, ∀ c, m.head? = some c → isblank c = false) :
    glue (inLine l lines z) = .ok (inLine l lines z) := by
  apply glue_stop plain
  cases lines with
  | nil => exact ⟨NUL, z, rfl, rfl⟩
  | cons m lines =>
    cases m with
    | nil => exact ⟨CR, _, rfl, rfl⟩
    | cons c m => exact ⟨c, _, rfl, next (c :: m) rfl c rfl⟩

theorem otherHeader_other (plain : ∀ c ∈ l, IsPlain c) (other : ¬ TRANSPORT <+: l)
    (next : ∀ m ∈ lines.head?, ∀ c, m.head? = some c → isblank c = false) :
    otherHeader s (inLine l lines z) = .ok (s, some (inLine [] lines z)) := by
  have noTransport : ¬ ascii "Transport:" <+: inLine l lines z := mt (prefix_inLine (by decide)).mp other
  have all : ∀ d ∈ l, (decide (d ≠ NUL ∧ d ≠ CR)) = true :=
    fun d member => decide_eq_true ⟨(plain d member).1, (plain d member).2.1⟩
  have ended := skip_append (p := fun c => c ≠ NUL ∧ c ≠ CR) all
    (show decide (CR ≠ NUL ∧ CR ≠ CR) = false by decide) (LF :: (linesText lines ++ NUL :: z))
  rw [otherHeader, glue_closed plain next, ok_bind, if_neg fun both => noTransport both.2]
  show (skip (fun c => c ≠ NUL ∧ c ≠ CR) (l ++ CR :: LF :: (linesText lines ++ NUL :: z)) >>= _) = _
  rw [ended]
  rfl

theorem headerOf_rendered (h : Header) (small : h.Small)
    (next : ∀ m ∈ lines.head?, ∀ c, m.head? = some c → isblank c = false) :
    headerOf s h.text lines z = .ok (h.apply s, some (inLine [] lines z)) := by
  unfold headerOf
  cases h with
  | cseq n =>
    have found : CSEQ <+: CSEQ ++ SP :: decimal n := List.prefix_append _ _
    obtain ⟨digits, rest⟩ := number_rendered CSEQ n
    rw [Header.text, if_pos found, digits, if_neg (decimal_ne_nil n), rest, atoi_decimal (small.1 n rfl)]
    rfl
  | contentLength m =>
    have other : ¬ CSEQ <+: CONTENT_LENGTH ++ SP :: decimal m := by
      rw [List.isPrefix_append_of_length (by decide)]
      decide
    have found : CONTENT_LENGTH <+: CONTENT_LENGTH ++ SP :: decimal m := List.prefix_append _ _
    obtain ⟨digits, rest⟩ := number_rendered CONTENT_LENGTH m
    rw [Header.text, if_neg other, if_pos found, digits, if_neg (decimal_ne_nil m), rest, atoi_decimal (small.2 m rfl)]
    rfl
  | other l =>
    have others := l.other
    rw [Header.text, if_neg (others CSEQ (by simp)), if_neg (others CONTENT_LENGTH (by simp))]
    exact otherHeader_other l.plain (others TRANSPORT (by simp)) next

end

/-! ### The whole request -/

/-- Between two rounds the cursor stands at the end of a line. -/
theorem headerLoop_rendered {aRequest z : Bytes} {size fuel : Nat} {s : CRtspSession} {hs : List Header}
    (small : ∀ h ∈ hs, h.Small) (fit : AllFit aRequest size (hs.map Header.text ++ [[]]) z) (enough : hs.length + 1 < fuel) :
    headerLoop aRequest size fuel s (inLine [] (hs.map Header.text ++ [[]]) z) = .ok (hs.foldl Header.apply s, true) := by
  have empty : ∀ c ∈ ([] : Bytes), IsPlain c := fun c member => absurd member List.not_mem_nil
  induction hs generalizing s fuel with
  | nil =>
    match fuel, enough with
    | fuel + 2, _ =>
      have blank : otherHeader s (inLine [] [] z) = .ok (s, some (inLine [] [] z)) :=
        otherHeader_other empty (by decide) (fun m member => absurd member (by simp))
      have step : headerOf s [] [] z = .ok (s, some (inLine [] [] z)) := blank
      rw [List.map_nil, List.nil_append, headerLoop_line aRequest size (fuel + 1) empty empty,
        headerLine_eq empty (fit [] [] (List.suffix_refl _)), step, ok_bind]
      exact headerLoop_end aRequest size fuel empty
  | cons h hs ih =>
    match fuel, enough with
    | fuel + 1, enough =>
      have next : ∀ m ∈ (hs.map Header.text ++ [[]]).head?, ∀ c, m.head? = some c → isblank c = false := by
        intro m first
        cases hs with
        | nil =>
          cases first
          exact fun c none => absurd none (by simp)
        | cons g hs =>
          cases first
          exact g.noBlank
      have step := headerOf_rendered (s := s) (z := z) h (small h List.mem_cons_self) next
      rw [List.map_cons, List.cons_append, headerLoop_line aRequest size fuel empty h.plain,
        headerLine_eq h.plain (fit h.text (hs.map Header.text ++ [[]]) (List.suffix_refl _)), step, ok_bind]
      exact ih (fun g member => small g (List.mem_cons_of_mem h member)) (fit.suffix (List.suffix_cons _ _))
        (by simp only [List.length_cons] at enough; omega)

theorem foldl_apply (hs : List Header) (s : CRtspSession) :
    hs.foldl Header.apply s =
      { s with m_CSeq := (hs.filterMap Header.cseq?).foldl (fun _ n => UInt32.ofNat n) s.m_CSeq,
               m_ContentLength :=
                 (hs.filterMap Header.contentLength?).foldl (fun _ m => UInt32.ofNat m) s.m_ContentLength } := by
  induction hs generalizing s with
  | nil => rfl
  | cons h hs ih =>
    rw [List.foldl_cons, ih]
    cases h <;> rfl

theorem Rendering.small (r : Rendering) : ∀ h ∈ r.headers, h.Small := by
  refine fun h member => ⟨fun n number => ?_, fun m number => ?_⟩
  · have listed : n ∈ r.headers.filterMap Header.cseq? := List.mem_filterMap.mpr ⟨h, member, number⟩
    rw [r.cseqOnce, List.mem_singleton] at listed
    rw [listed]
    exact r.cseq_lt
  · have listed : m ∈ r.headers.filterMap Header.contentLength? := List.mem_filterMap.mpr ⟨h, member, number⟩
    rw [r.lengthOnce, Option.mem_toList] at listed
    exact r.length_lt m listed

/-- What the parser leaves in the session behind a rendered request. -/
def Rendering.parsed (r : Rendering) (s : CRtspSession) : CRtspSession :=
  { s with m_CommandHostPort := r.hostPort.chars, m_CommandPresentationPart := r.presentation.chars,
           m_CommandStreamPart := r.stream.chars, m_CSeq := UInt32.ofNat r.cseq,
           m_ContentLength := UInt32.ofNat (r.contentLength.getD 0) }

theorem linesText_length_ge (lines : List Bytes) : lines.length ≤ (linesText lines).length := by
  induction lines with
  | nil => exact Nat.zero_le _
  | cons l lines ih =>
    rw [linesText_cons, List.length_append, List.length_append, List.length_cons]
    exact Nat.le_trans (Nat.succ_le_succ ih) (by simp only [List.length_cons, List.length_nil]; omega)

theorem Rendering.text_cursor (r : Rendering) (z : Bytes) :
    r.text ++ NUL :: z =
      (if r.leadingCrlf then CRLF else []) ++ (r.method.token ++ r.uri (ascii "RTSP/1.0" ++ inLine [] r.lines z)) := by
  simp only [Rendering.text, Rendering.front, Rendering.uri, inLine, List.append_assoc, List.cons_append, List.nil_append]

theorem ParseRtspRequest_parsed (s : CRtspSession) (r : Rendering) (z : Bytes) :
    ParseRtspRequest s (r.text ++ NUL :: z) r.text.length = .ok (r.parsed s, true) := by
  have line := requestLine_rendered s.newCommandInit r (inLine [] r.lines z)
  rw [← r.text_cursor z] at line
  have fit : AllFit (r.text ++ NUL :: z) r.text.length r.lines z := by
    refine allFit_of_size ?_ ?_
    · rw [List.length_append, List.length_cons]
      omega
    · rw [Rendering.text, List.length_append]
      omega
  have rounds : r.headers.length + 1 < (r.text ++ NUL :: z).length + 1 := by
    have lines := linesText_length_ge r.lines
    rw [Rendering.lines, List.length_append, List.length_map, List.length_singleton] at lines
    rw [List.length_append, List.length_cons, Rendering.text, List.length_append, Rendering.lines]
    omega
  rw [ParseRtspRequest, line, ok_bind]
  apply (headerLoop_rendered r.small fit rounds).trans
  rw [foldl_apply, r.cseqOnce, r.lengthOnce]
  cases found : r.contentLength with
  | none => rw [Rendering.parsed, found]; rfl
  | some m => rw [Rendering.parsed, found]; rfl

/-- The parser accepts every rendered request and gets back what was written, whatever
stands behind the NUL. -/
theorem ParseRtspRequest_rendered (s : CRtspSession) (r : Rendering) (z : Bytes) :
    ∃ s', ParseRtspRequest s (r.text ++ NUL :: z) r.text.length = .ok (s', true) ∧
      s'.m_CommandHostPort = r.hostPort.chars ∧ s'.m_CommandPresentationPart = r.presentation.chars ∧
      s'.m_CommandStreamPart = r.stream.chars ∧ s'.m_CSeq.toNat = r.cseq ∧
      s'.m_ContentLength.toNat = r.contentLength.getD 0 := by
  have length : r.contentLength.getD 0 < 2 ^ 31 := by
    cases found : r.contentLength with
    | none => exact Nat.two_pow_pos 31
    | some m => exact r.length_lt m found
  exact ⟨r.parsed s, ParseRtspRequest_parsed s r z, rfl, rfl, rfl,
    UInt32.toNat_ofNat_of_lt' (Nat.lt_trans r.cseq_lt (by decide)), UInt32.toNat_ofNat_of_lt' (Nat.lt_trans length (by decide))⟩

example : ∃ r : Rendering, r.text = ascii "\r\nPLAY rtsp://h/p//s RTSP/1.0\r\nRange: npt=0-\r\nCSeq: 7\r\n\r\n" :=
  ⟨{ leadingCrlf := true
     method := .PLAY
     hostPort := ⟨ascii "h", by decide +kernel, by decide, by decide⟩
     presentation := ⟨ascii "p", by decide +kernel, by decide, by decide⟩
     stream := ⟨ascii "s", by decide +kernel, by decide, by decide⟩
     afterHost := 0
     afterPresentation := 1
     afterStream := 0
     headers := [.other ⟨ascii "Range: npt=0-", by decide +kernel, fun c first => by cases first; rfl, by decide +kernel⟩,
       .cseq 7]
     cseq := 7
     contentLength := none
     cseqOnce := rfl
     lengthOnce := rfl
     cseq_lt := by decide
     length_lt := fun m none => absurd none (by simp) },
    by decide +kernel⟩

end RtspServer
