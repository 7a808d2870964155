import RtspServer.Session.HeaderBlocks

/-!
# Folded headers

A `Transport` header is parsed in the same way with line folds around its separators
as without them. The lines that continue a header the parser ignores do not matter.
-/

namespace RtspServer

/-- A line fold: a CRLF and these blanks. -/
structure Fold where
  blanks : Bytes
  nonempty : blanks ≠ []
  blank : ∀ c ∈ blanks, isblank c = true

def Fold.text (f : Fold) : Bytes := CRLF ++ f.blanks

/-- What the parser writes over a fold. -/
def Fold.glued (f : Fold) : Bytes := SP :: SP :: f.blanks

/-- A sub-parameter with the semicolon in front of it and the folds on either side of that. -/
structure FoldedParameter where
  text : Bytes
  plain : ∀ c ∈ text, IsPlain c
  single : SEMICOLON ∉ text
  foldBefore : Option Fold
  foldBehind : Option Fold

/-- A `Transport` header, with a fold behind its colon. -/
structure FoldedTransport where
  foldColon : Option Fold
  lead : Bytes
  blank : ∀ c ∈ lead, isblank c = true
  m_TcpTransport : Bool
  parameters : List FoldedParameter

section

variable (put : Fold → Bytes)

def FoldedParameter.written (p : FoldedParameter) : Bytes :=
  p.foldBefore.elim [] put ++ SEMICOLON :: (p.foldBehind.elim [] put ++ p.text)

def FoldedTransport.arguments (h : FoldedTransport) : Bytes := h.parameters.flatMap (FoldedParameter.written put)

def FoldedTransport.protocol (h : FoldedTransport) : Bytes := if h.m_TcpTransport then ascii "/TCP" else []

/-- What follows the name and the colon, with `put f` for each fold `f`. -/
def FoldedTransport.value (h : FoldedTransport) : Bytes :=
  h.foldColon.elim [] put ++ (h.lead ++ (ascii "RTP/AVP" ++ (h.protocol ++ h.arguments put)))

end

def FoldedTransport.folded (h : FoldedTransport) : Bytes := TRANSPORT ++ h.value Fold.text

def FoldedTransport.unfolded (h : FoldedTransport) : Bytes := TRANSPORT ++ h.value fun _ => []

/-- A character of a header name. -/
def NameChar (c : UInt8) : Prop := c ≠ NUL ∧ isspace c = false ∧ c ≠ COLON ∧ c ≠ SLASH

instance (c : UInt8) : Decidable (NameChar c) := inferInstanceAs (Decidable (_ ∧ _))

/-- A header that the parser ignores under the command `cmd`, with the lines that continue it. -/
structure IgnoredHeader (cmd : RTSP_CMD_TYPES) where
  name : Bytes
  value : Bytes
  continued : List Bytes
  nameChar : ∀ c ∈ name, NameChar c
  other : name ≠ ascii "CSeq" ∧ name ≠ ascii "Content-Length" ∧ (cmd = .RTSP_SETUP → name ≠ ascii "Transport")
  plain : ∀ c ∈ value, IsPlain c
  lines : PlainLines continued
  blank : ∀ l ∈ continued, startsBlank l = true

def IgnoredHeader.line {cmd : RTSP_CMD_TYPES} (h : IgnoredHeader cmd) : Bytes := h.name ++ COLON :: h.value

/-- A request but for one header, with the lines in front of it and behind. -/
structure Surroundings where
  line : RequestLine
  before : List Bytes
  after : List Bytes
  plain : PlainLines before
  plain' : PlainLines after
  closed : ClosesHeader after

/-- The request with the text of this header. -/
def Surroundings.request (r : Surroundings) (header : Bytes) : Bytes :=
  requestText r.line r.before ++ header ++ CRLF ++ linesText r.after

/-! ### The lines of a folded header -/

/-- The text is a line `l` and the lines `c` that continue it, which are glued to `w`. -/
structure FoldsTo (text w l : Bytes) (c : List Bytes) : Prop where
  plain : ∀ d ∈ l, IsPlain d
  lines : PlainLines c
  blank : ∀ m ∈ c, startsBlank m = true
  whole : text ++ CRLF = linesText (l :: c)
  glues : l ++ glued c = w

section

variable {text w x : Bytes} {lines : List Bytes}

theorem glued_all (blank : ∀ m ∈ lines, startsBlank m = true) : glued lines = lines.flatMap fun l => SP :: SP :: l := by
  rw [glued, List.takeWhile_eq_self_iff.mpr blank]

theorem FoldsTo.nil : FoldsTo [] [] [] [] := ⟨nofun, nofun, nofun, rfl, rfl⟩

theorem FoldsTo.chars {l : Bytes} {c : List Bytes} (h : FoldsTo text w l c) (plain : ∀ d ∈ x, IsPlain d) :
    FoldsTo (x ++ text) (x ++ w) (x ++ l) c where
  plain d member := (List.mem_append.mp member).elim (plain d) (h.plain d)
  lines := h.lines
  blank := h.blank
  whole := by rw [List.append_assoc, h.whole, linesText_cons, linesText_cons]; simp only [List.append_assoc]
  glues := by rw [List.append_assoc, h.glues]

theorem FoldsTo.fold {l : Bytes} {c : List Bytes} (h : FoldsTo text w l c) (f : Fold) :
    FoldsTo (f.text ++ text) (f.glued ++ w) [] ((f.blanks ++ l) :: c) := by
  have starts : startsBlank (f.blanks ++ l) = true := by
    match found : f.blanks, f.nonempty with
    | d :: blanks, _ => exact f.blank d (by rw [found]; exact List.mem_cons_self)
  have blank : ∀ m ∈ (f.blanks ++ l) :: c, startsBlank m = true := by
    intro m member
    rcases List.mem_cons.mp member with rfl | member
    · exact starts
    · exact h.blank m member
  refine ⟨nofun, ?_, blank, ?_, ?_⟩
  · intro m member
    rcases List.mem_cons.mp member with rfl | member
    · intro d member
      rcases List.mem_append.mp member with inside | inside
      · rcases of_decide_eq_true (f.blank d inside) with rfl | rfl <;> decide
      · exact h.plain d inside
    · exact h.lines m member
  · rw [List.append_assoc, h.whole, linesText_cons, linesText_cons, linesText_cons, Fold.text]
    simp only [List.append_assoc, List.nil_append]
  · rw [List.nil_append, glued_all blank, List.flatMap_cons, ← glued_all h.blank, ← h.glues, Fold.glued]
    simp only [List.append_assoc, List.cons_append]

theorem FoldsTo.fold? (f : Option Fold) {l : Bytes} {c : List Bytes} (h : FoldsTo text w l c) :
    ∃ l c, FoldsTo (f.elim [] Fold.text ++ text) (f.elim [] Fold.glued ++ w) l c := by
  cases f with
  | none => exact ⟨l, c, h⟩
  | some f => exact ⟨_, _, h.fold f⟩

theorem foldsTo_arguments (ps : List FoldedParameter) :
    ∃ l c, FoldsTo (ps.flatMap (FoldedParameter.written Fold.text)) (ps.flatMap (FoldedParameter.written Fold.glued)) l c := by
  induction ps with
  | nil => exact ⟨[], [], .nil⟩
  | cons p ps ih =>
    obtain ⟨l, c, rest⟩ := ih
    obtain ⟨l, c, behind⟩ := FoldsTo.fold? p.foldBehind (rest.chars p.plain)
    have semicolon : ∀ d ∈ [SEMICOLON], IsPlain d := by decide +kernel
    obtain ⟨l, c, whole⟩ := FoldsTo.fold? p.foldBefore (behind.chars semicolon)
    refine ⟨l, c, ?_⟩
    simpa only [List.flatMap_cons, FoldedParameter.written, List.append_assoc, List.cons_append, List.nil_append] using whole

theorem foldsTo_value (h : FoldedTransport) : ∃ l c, FoldsTo (h.value Fold.text) (h.value Fold.glued) l c := by
  obtain ⟨l, c, arguments⟩ := foldsTo_arguments h.parameters
  have protocol : ∀ d ∈ h.protocol, IsPlain d := by
    unfold FoldedTransport.protocol
    split <;> decide +kernel
  have lead : ∀ d ∈ h.lead, IsPlain d := fun d member => by
    rcases of_decide_eq_true (h.blank d member) with rfl | rfl <;> decide
  exact FoldsTo.fold? h.foldColon (((arguments.chars protocol).chars (by decide +kernel)).chars lead)

end

/-! ### The sub-parameters of a folded header -/

section

variable {blanks part : Bytes}

theorem clientPort_behind (blank : ∀ c ∈ blanks, isblank c = true) (part : Bytes) :
    clientPort (blanks ++ part) = clientPort part := by
  unfold clientPort
  rw [List.dropWhile_append_of_pos blank]

theorem clientPort_before (blank : ∀ c ∈ blanks, isblank c = true) (part : Bytes) :
    clientPort (part ++ blanks) = clientPort part := by
  cases blanks with
  | nil => rw [List.append_nil]
  | cons d blanks =>
    have isBlank := blank d List.mem_cons_self
    unfold clientPort
    by_cases none : part.dropWhile isblank = []
    · rw [List.dropWhile_append_of_pos (List.dropWhile_eq_nil_iff.mp none), none,
        List.dropWhile_eq_nil_iff.mpr blank]
    · have text : (part ++ d :: blanks).dropWhile isblank = part.dropWhile isblank ++ d :: blanks := by
        rw [List.dropWhile_append, if_neg fun empty => none (List.isEmpty_iff.mp empty)]
      have absent : d ∉ ascii "client_port=" := by
        rcases of_decide_eq_true isBlank with rfl | rfl <;> decide
      rw [text]
      by_cases found : ascii "client_port=" <+: part.dropWhile isblank
      · obtain ⟨value, same⟩ := found
        rw [← same, if_pos ((prefix_line absent).mpr (List.prefix_append _ value)), if_pos (List.prefix_append _ value),
          List.append_assoc]
        exact congrArg some (takeWhile_stop (not_isdigit_of_isblank isBlank) value blanks)
      · rw [if_neg (mt (prefix_line absent).mp found), if_neg found]

variable {put : Fold → Bytes} (blank : ∀ f c, c ∈ put f → isblank c = true)

include blank in
theorem fold?_blank (f : Option Fold) : ∀ c ∈ f.elim [] put, isblank c = true := by
  cases f with
  | none => exact nofun
  | some f => exact blank f

include blank in
theorem clientPorts_arguments (ps : List FoldedParameter) (single : SEMICOLON ∉ part) :
    clientPorts (part ++ ps.flatMap (FoldedParameter.written put)) =
      (clientPort part).toList ++ ps.flatMap fun p => (clientPort p.text).toList := by
  have other (f : Option Fold) : SEMICOLON ∉ f.elim [] put := fun member =>
    absurd (fold?_blank blank f SEMICOLON member) (by decide)
  induction ps generalizing part with
  | nil =>
    rw [List.flatMap_nil, List.flatMap_nil, List.append_nil, List.append_nil]
    exact clientPorts_last single
  | cons p ps ih =>
    have front : SEMICOLON ∉ part ++ p.foldBefore.elim [] put := fun member =>
      (List.mem_append.mp member).elim single (other p.foldBefore)
    have back : SEMICOLON ∉ p.foldBehind.elim [] put ++ p.text := fun member =>
      (List.mem_append.mp member).elim (other p.foldBehind) p.single
    have text : part ++ (p :: ps).flatMap (FoldedParameter.written put) =
        (part ++ p.foldBefore.elim [] put) ++
          SEMICOLON :: ((p.foldBehind.elim [] put ++ p.text) ++ ps.flatMap (FoldedParameter.written put)) := by
      simp only [List.flatMap_cons, FoldedParameter.written, List.append_assoc, List.cons_append]
    rw [text, clientPorts_part front, ih back, clientPort_before (fold?_blank blank p.foldBefore),
      clientPort_behind (fold?_blank blank p.foldBehind), List.flatMap_cons]

end

/-! ### The round on a folded header -/

section

variable {s : CRtspSession} {l : Bytes} {c after : List Bytes} {z : Bytes}

/-- A header is glued to all the lines that continue it. -/
theorem otherHeader_continued (plain : ∀ d ∈ l, IsPlain d) (lines : PlainLines c) (blank : ∀ m ∈ c, startsBlank m = true)
    (closed : ClosesHeader after) :
    otherHeader s (inLine l (c ++ after) z) = Parse.next
      (if s.m_RtspCmdType = .RTSP_SETUP ∧ TRANSPORT <+: l ++ glued c then
        transport s ((inLine (l ++ glued c) after z).drop 10) else return (s, some (inLine (l ++ glued c) after z)))
      fun s cur => do return (s, some (← skip (fun c => c ≠ NUL ∧ c ≠ CR) cur)) := by
  have stop : ∃ d w, linesText after ++ NUL :: z = d :: w ∧ isblank d = false := by
    match after, closed with
    | [], _ => exact ⟨NUL, z, rfl, rfl⟩
    | [] :: after, _ => exact ⟨CR, _, rfl, rfl⟩
    | (d :: m) :: after, closed => exact ⟨d, _, rfl, closed (d :: m) rfl⟩
  have found : ascii "Transport:" <+: inLine (l ++ glued c) after z ↔ TRANSPORT <+: l ++ glued c :=
    prefix_inLine (by decide)
  unfold otherHeader
  rw [glue_lines plain lines stop, ok_bind, List.dropWhile_eq_nil_iff.mpr blank, List.nil_append]
  simp only [found]

theorem arguments_head {put : Fold → Bytes} (blank : ∀ f d, d ∈ put f → isblank d = true) (h : FoldedTransport) :
    SLASH ∉ (h.arguments put).head? := by
  unfold FoldedTransport.arguments
  match h.parameters with
  | [] => exact nofun
  | p :: ps =>
    rw [List.flatMap_cons, FoldedParameter.written]
    match found : p.foldBefore.elim [] put with
    | [] => exact nofun
    | d :: blanks =>
      have isBlank := fold?_blank blank p.foldBefore d (by rw [found]; exact List.mem_cons_self)
      intro slash
      rw [Option.some.inj slash] at isBlank
      exact absurd isBlank (by decide)

theorem transportStart_value {put : Fold → Bytes} (blank : ∀ f d, d ∈ put f → isblank d = true) (h : FoldedTransport) :
    transportStart (inLine (h.value put) after z) = .ok (some (h.m_TcpTransport, inLine (h.arguments put) after z)) := by
  have space : ∀ d ∈ h.foldColon.elim [] put ++ h.lead, isspace d = true := by
    intro d member
    have isBlank : isblank d = true := (List.mem_append.mp member).elim (fold?_blank blank h.foldColon d) (h.blank d)
    rcases of_decide_eq_true isBlank with rfl | rfl <;> rfl
  have text : inLine (h.value put) after z =
      (h.foldColon.elim [] put ++ h.lead) ++ inLine (ascii "RTP/AVP" ++ (h.protocol ++ h.arguments put)) after z := by
    simp only [FoldedTransport.value, inLine, List.append_assoc]
  have word : ascii "RTP/AVP" <+: ascii "RTP/AVP" ++ (h.protocol ++ h.arguments put) := List.prefix_append _ _
  have rest := drop_inLine word after z
  rw [List.drop_left, show (ascii "RTP/AVP").length = 7 from rfl] at rest
  unfold transportStart
  rw [text, skip_front space,
    show skip isspace (inLine (ascii "RTP/AVP" ++ (h.protocol ++ h.arguments put)) after z) =
      .ok (inLine (ascii "RTP/AVP" ++ (h.protocol ++ h.arguments put)) after z) from rfl,
    ok_bind, if_neg (not_not.mpr ((prefix_inLine (by decide)).mpr word)), rest]
  dsimp only
  unfold FoldedTransport.protocol
  cases h.m_TcpTransport with
  | true =>
    have slashTcp : ascii "/TCP" <+: ascii "/TCP" ++ h.arguments put := List.prefix_append _ _
    have last := drop_inLine slashTcp after z
    rw [List.drop_left, show (ascii "/TCP").length = 4 from rfl] at last
    rw [if_pos rfl, if_pos ((prefix_inLine (by decide)).mpr slashTcp), last]
    rfl
  | false =>
    have none : ¬ ascii "/TCP" <+: h.arguments put := by
      rintro ⟨rest, same⟩
      apply arguments_head blank h
      rw [← same]
      rfl
    rw [if_neg Bool.false_ne_true, List.nil_append, if_neg (mt (prefix_inLine (by decide)).mp none)]
    rfl

theorem headerOf_transport {put : Fold → Bytes} (blank : ∀ f d, d ∈ put f → isblank d = true) {h : FoldedTransport}
    {text : Bytes} (folds : FoldsTo text (h.value put) l c) (closed : ClosesHeader after) :
    headerOf s (TRANSPORT ++ l) (c ++ after) z =
      if s.m_RtspCmdType = .RTSP_SETUP then
        let ports := h.parameters.flatMap fun p => (clientPort p.text).toList
        .ok (({ s with m_TcpTransport := h.m_TcpTransport, m_ClientRTPPort := 0 } : CRtspSession).withPorts ports,
          if [] ∈ ports then none else some (inLine [] after z))
      else .ok (s, some (inLine [] after z)) := by
  have named : ∀ d ∈ TRANSPORT, IsPlain d := by decide +kernel
  have plain : ∀ d ∈ TRANSPORT ++ l, IsPlain d := fun d member => (List.mem_append.mp member).elim (named d) (folds.plain d)
  have value : ∀ d ∈ h.value put, IsPlain d := by
    rw [← folds.glues]
    exact fun d member => (List.mem_append.mp member).elim (folds.plain d) (glued_plain folds.lines d)
  have whole : TRANSPORT ++ l ++ glued c = TRANSPORT ++ h.value put := by rw [List.append_assoc, folds.glues]
  have rest := drop_inLine (List.prefix_append TRANSPORT (h.value put)) after z
  rw [List.drop_left, show TRANSPORT.length = 10 from rfl] at rest
  have other (name : Bytes) (first : name.head? = some 67) : ¬ name <+: TRANSPORT ++ l := by
    rintro ⟨more, same⟩
    match name, first with
    | d :: name, first =>
      rw [Option.some.inj first] at same
      exact absurd (List.cons.inj same).1 (by decide)
  unfold headerOf
  rw [if_neg (other CSEQ rfl), if_neg (other CONTENT_LENGTH rfl), otherHeader_continued plain folds.lines folds.blank closed,
    whole, rest]
  by_cases setup : s.m_RtspCmdType = .RTSP_SETUP
  · rw [if_pos setup, if_pos ⟨setup, List.prefix_append _ _⟩]
    rcases transport_start s (transportStart_value blank h) with ⟨none, -⟩ | ⟨_, _, fuel, args, enough, ok⟩
    · cases none
    cases args
    have arguments : ∀ d ∈ h.arguments put, IsPlain d := by
      refine fun d member => value d ?_
      unfold FoldedTransport.value
      simp only [List.mem_append, member, or_true]
    have ports := clientPorts_arguments blank h.parameters (List.not_mem_nil : SEMICOLON ∉ [])
    rw [ok, subParameters_line _ arguments enough]
    rw [List.nil_append] at ports
    unfold FoldedTransport.arguments
    rw [ports, show (clientPort []).toList = [] from rfl, List.nil_append]
    dsimp only
    generalize CRtspSession.withPorts _ _ = t
    split
    · rfl
    · rw [Parse.next_some, skipToEnd (x := []) nofun]
      rfl
  · rw [if_neg setup, if_neg fun both => setup both.1]
    have plain' : ∀ d ∈ TRANSPORT ++ h.value put, IsPlain d := fun d member =>
      (List.mem_append.mp member).elim (named d) (value d)
    show Parse.next (.ok _) _ = _
    rw [Parse.next_some, skipToEnd plain']
    rfl

end

/-! ### Both texts of the header -/

section

variable {cmd : RTSP_CMD_TYPES} {l l' : Bytes} {c c' : List Bytes}

theorem border_name {name : Bytes} (nameChar : ∀ d ∈ name, NameChar d) (w : Bytes) : Border (name ++ COLON :: w) := by
  have slash : SLASH ∉ name ++ [COLON] := by
    intro member
    rcases List.mem_append.mp member with inside | inside
    · exact (nameChar SLASH inside).2.2.2 rfl
    · exact absurd inside (by decide)
  -- a protocol or version would have its slash in front of the colon
  have other (word : Bytes) (inside : SLASH ∈ word) (absent : COLON ∉ word) : ¬ word <+: name ++ COLON :: w := by
    intro found
    have front := (prefix_line absent).mp found
    exact slash (List.mem_append_left _ (front.subset inside))
  refine ⟨?_, other _ (by decide) (by decide), other _ (by decide) (by decide)⟩
  match name, nameChar with
  | [], _ => exact ⟨COLON, w, rfl, rfl⟩
  | d :: name, nameChar => exact ⟨d, _, rfl, (nameChar d List.mem_cons_self).2.1⟩

theorem border_transport (w : Bytes) : Border (TRANSPORT ++ w) := by
  have name : TRANSPORT = ascii "Transport" ++ [COLON] := by decide +kernel
  rw [name, List.append_assoc]
  exact border_name (by decide +kernel) w

theorem FoldsTo.line {text w : Bytes} (h : FoldsTo text w l c) {name : Bytes} (named : ∀ d ∈ name, IsPlain d) :
    PlainLines ((name ++ l) :: c) := by
  intro m member
  rcases List.mem_cons.mp member with rfl | member
  · exact fun d member => (List.mem_append.mp member).elim (named d) (h.plain d)
  · exact h.lines m member

theorem beside_after {t : CRtspSession} {after : List Bytes} {z z' : Bytes} (kept : t.m_RtspCmdType = cmd) :
    Beside after [] [] z z' cmd (.ok (t, some (inLine [] after z))) (.ok (t, some (inLine [] after z'))) := by
  have there : Beside after [] [] z z' cmd (.ok (t, some (inLine [] (after ++ []) z)))
      (.ok (t, some (inLine [] (after ++ []) z'))) := .goesOn t [] after nofun (List.suffix_refl after) kept
  rwa [List.append_nil] at there

theorem sameHeader_transport {put put' : Fold → Bytes} {text text' : Bytes} {h : FoldedTransport}
    (blank : ∀ f d, d ∈ put f → isblank d = true) (blank' : ∀ f d, d ∈ put' f → isblank d = true)
    (folds : FoldsTo text (h.value put) l c) (folds' : FoldsTo text' (h.value put') l' c') :
    SameHeader cmd ((TRANSPORT ++ l) :: c) ((TRANSPORT ++ l') :: c') where
  plain := folds.line (by decide +kernel)
  plain' := folds'.line (by decide +kernel)
  border w := by
    rw [linesText_cons]
    simp only [List.append_assoc]
    exact border_transport _
  border' w := by
    rw [linesText_cons]
    simp only [List.append_assoc]
    exact border_transport _
  lines := by
    refine ⟨_, c, rfl, _, c', rfl, ?_⟩
    intro s after z z' same _ closed
    rw [headerOf_transport blank folds closed, headerOf_transport blank' folds' closed]
    split
    · dsimp only
      split
      · exact .rejects _
      · exact beside_after ((withPorts_cmd _ _).trans same)
    · exact beside_after same

theorem IgnoredHeader.line_plain (h : IgnoredHeader cmd) : ∀ d ∈ h.line, IsPlain d := by
  intro d member
  rcases List.mem_append.mp member with inside | inside
  · obtain ⟨notNul, noSpace, -⟩ := h.nameChar d inside
    refine ⟨notNul, ?_, ?_⟩ <;> rintro rfl <;> exact absurd noSpace (by decide)
  · rcases List.mem_cons.mp inside with rfl | inside
    · decide
    · exact h.plain d inside

theorem IgnoredHeader.prefix_iff (h : IgnoredHeader cmd) {name : Bytes} (clean : COLON ∉ name) (w : Bytes) :
    name ++ [COLON] <+: h.name ++ COLON :: w ↔ name = h.name := by
  have absent : COLON ∉ h.name := fun member => (h.nameChar COLON member).2.2.1 rfl
  constructor
  · rintro ⟨rest, same⟩
    rw [List.append_assoc, List.singleton_append] at same
    have front := congrArg (List.takeWhile (· ≠ COLON)) same
    rwa [List.takeWhile_append_of_pos, List.takeWhile_append_of_pos, List.takeWhile_cons_of_neg (by decide),
      List.takeWhile_cons_of_neg (by decide), List.append_nil, List.append_nil] at front
    · exact fun d member => decide_eq_true fun colon => absent (colon ▸ member)
    · exact fun d member => decide_eq_true fun colon => clean (colon ▸ member)
  · rintro rfl
    exact ⟨w, by rw [List.append_assoc]; rfl⟩

theorem headerOf_ignored {s : CRtspSession} (h : IgnoredHeader s.m_RtspCmdType) {after : List Bytes} (z : Bytes)
    (lines : PlainLines c) (blank : ∀ m ∈ c, startsBlank m = true) (closed : ClosesHeader after) :
    headerOf s h.line (c ++ after) z = .ok (s, some (inLine [] after z)) := by
  have cseq : CSEQ = ascii "CSeq" ++ [COLON] := by decide +kernel
  have length : CONTENT_LENGTH = ascii "Content-Length" ++ [COLON] := by decide +kernel
  have transport : TRANSPORT = ascii "Transport" ++ [COLON] := by decide +kernel
  have noCseq : ¬ CSEQ <+: h.line := by
    rw [cseq, IgnoredHeader.line, h.prefix_iff (by decide +kernel)]
    exact fun same => h.other.1 same.symm
  have noLength : ¬ CONTENT_LENGTH <+: h.line := by
    rw [length, IgnoredHeader.line, h.prefix_iff (by decide +kernel)]
    exact fun same => h.other.2.1 same.symm
  have noTransport : ¬ (s.m_RtspCmdType = .RTSP_SETUP ∧ TRANSPORT <+: h.line ++ glued c) := by
    rintro ⟨setup, found⟩
    rw [transport, IgnoredHeader.line, List.append_assoc, List.cons_append, h.prefix_iff (by decide +kernel)] at found
    exact h.other.2.2 setup found.symm
  have plain : ∀ d ∈ h.line ++ glued c, IsPlain d := fun d member =>
    (List.mem_append.mp member).elim (h.line_plain d) (glued_plain lines d)
  unfold headerOf
  rw [if_neg noCseq, if_neg noLength, otherHeader_continued h.line_plain lines blank closed, if_neg noTransport]
  show Parse.next (.ok _) _ = _
  rw [Parse.next_some, skipToEnd plain]
  rfl

theorem sameHeader_ignored (h : IgnoredHeader cmd) : SameHeader cmd (h.line :: h.continued) [h.line] where
  plain m member := by
    rcases List.mem_cons.mp member with rfl | member
    · exact h.line_plain
    · exact h.lines m member
  plain' m member := by
    rw [List.mem_singleton.mp member]
    exact h.line_plain
  border w := by
    rw [linesText_cons, IgnoredHeader.line]
    simp only [List.append_assoc, List.cons_append]
    exact border_name h.nameChar _
  border' w := by
    rw [linesText_cons, IgnoredHeader.line]
    simp only [List.append_assoc, List.cons_append]
    exact border_name h.nameChar _
  lines := by
    refine ⟨h.line, h.continued, rfl, h.line, [], rfl, ?_⟩
    rintro s after z z' rfl _ closed
    rw [headerOf_ignored h z h.lines h.blank closed, headerOf_ignored (c := []) h z' nofun nofun closed]
    exact beside_after rfl

end

/-! ### Whole requests -/

theorem Surroundings.request_lines (r : Surroundings) {header : Bytes} {lines : List Bytes}
    (whole : header ++ CRLF = linesText lines) : r.request header = requestText r.line (r.before ++ (lines ++ r.after)) := by
  rw [Surroundings.request, requestText, requestText, linesText_append, linesText_append, ← whole]
  simp only [List.append_assoc]

theorem value_sublist (put : Fold → Bytes) (h : FoldedTransport) : (h.value fun _ => []).Sublist (h.value put) := by
  have fold (f : Option Fold) : (f.elim [] fun _ => ([] : Bytes)).Sublist (f.elim [] put) := by
    cases f <;> exact List.nil_sublist _
  have arguments : (h.arguments fun _ => []).Sublist (h.arguments put) := by
    unfold FoldedTransport.arguments
    induction h.parameters with
    | nil => exact List.Sublist.refl _
    | cons p ps ih =>
      rw [List.flatMap_cons, List.flatMap_cons]
      exact ((fold p.foldBefore).append (((fold p.foldBehind).append (List.Sublist.refl _)).cons_cons _)).append ih
  exact (fold h.foldColon).append
    (((List.Sublist.refl _).append ((List.Sublist.refl _).append ((List.Sublist.refl _).append arguments))))

theorem Fold.glued_blank (f : Fold) : ∀ d ∈ f.glued, isblank d = true := by
  intro d member
  rcases List.mem_cons.mp member with rfl | member
  · rfl
  rcases List.mem_cons.mp member with rfl | member
  · rfl
  · exact f.blank d member

theorem foldsTo_unfolded {h : FoldedTransport} {w : Bytes} {l : Bytes} {c : List Bytes}
    (folds : FoldsTo w (h.value Fold.glued) l c) : FoldsTo (h.value fun _ => []) (h.value fun _ => []) (h.value fun _ => []) [] where
  plain d member := by
    have inside := (value_sublist Fold.glued h).subset member
    rw [← folds.glues] at inside
    exact (List.mem_append.mp inside).elim (folds.plain d) (glued_plain folds.lines d)
  lines := nofun
  blank := nofun
  whole := by rw [linesText_cons]; exact (List.append_nil _).symm
  glues := List.append_nil _

/-- The folds of a `Transport` header and the lines that continue an ignored header change nothing of
what the parser returns and leaves in the session. -/
theorem ParseRtspRequest_folds (s : CRtspSession) (r : Surroundings) :
    (∀ h : FoldedTransport, (r.request h.folded).length ≤ 499 →
      EndAlike (ParseRtspRequest s (bufferOf (r.request h.folded)) (r.request h.folded).length)
        (ParseRtspRequest s (bufferOf (r.request h.unfolded)) (r.request h.unfolded).length)) ∧
    ∀ h : IgnoredHeader s.m_RtspCmdType,
      let q := requestText r.line (r.before ++ (h.line :: h.continued ++ r.after))
      let q' := requestText r.line (r.before ++ ([h.line] ++ r.after))
      q.length ≤ 499 →
        EndAlike (ParseRtspRequest s (bufferOf q) q.length) (ParseRtspRequest s (bufferOf q') q'.length) := by
  refine ⟨fun h fits => ?_, fun h fits => ?_⟩
  · obtain ⟨l, c, folds⟩ := foldsTo_value h
    have plain := foldsTo_unfolded folds
    have shorter : (r.request h.unfolded).length ≤ (r.request h.folded).length := by
      have length := (value_sublist Fold.text h).length_le
      simp only [Surroundings.request, FoldedTransport.unfolded, FoldedTransport.folded, List.length_append]
      omega
    have fits' := Nat.le_trans shorter fits
    have lines {v l : Bytes} {c : List Bytes} (whole : v ++ CRLF = linesText (l :: c)) :
        TRANSPORT ++ v ++ CRLF = linesText ((TRANSPORT ++ l) :: c) := by
      rw [List.append_assoc, whole, linesText_cons, linesText_cons]
      simp only [List.append_assoc]
    rw [FoldedTransport.folded, r.request_lines (lines folds.whole)] at fits ⊢
    rw [FoldedTransport.unfolded, r.request_lines (lines plain.whole)] at fits' ⊢
    have same : SameHeader s.m_RtspCmdType _ _ := sameHeader_transport Fold.glued_blank
      (fun _ _ none => absurd none List.not_mem_nil) folds plain
    exact ParseRtspRequest_sameHeader same r.closed r.plain r.plain' fits fits'
  · refine ParseRtspRequest_sameHeader (sameHeader_ignored h) r.closed r.plain r.plain' fits (Nat.le_trans ?_ fits)
    simp only [requestText, linesText_append, linesText_cons, List.length_append, List.cons_append, List.nil_append]
    omega

/-- A SETUP request but for its `Transport` header. -/
def typicalSetup : Surroundings where
  line := ⟨true, .SETUP, ascii "rtsp://server.example.com/live/1 RTSP/1.0", by decide +kernel, by decide +kernel⟩
  before := [ascii "CSeq: 2"]
  after := [[]]
  plain := by decide +kernel
  plain' := by decide +kernel
  closed := by decide +kernel

/-- That header, folded in front of its `client_port`. -/
def typicalTransport : FoldedTransport where
  foldColon := none
  lead := [SP]
  blank := by decide +kernel
  m_TcpTransport := false
  parameters :=
    [⟨ascii "unicast", by decide +kernel, by decide +kernel, none, none⟩,
      ⟨ascii "something", by decide +kernel, by decide +kernel, none, none⟩,
      ⟨ascii "client_port=7000-7001", by decide +kernel, by decide +kernel, none,
        some ⟨List.replicate 8 SP, by decide +kernel, by decide +kernel⟩⟩,
      ⟨ascii "somethingelse", by decide +kernel, by decide +kernel, none, none⟩]

/-- A header whose continuation looks like another one. -/
def typicalIgnored : IgnoredHeader .RTSP_SETUP where
  name := ascii "User-Agent"
  value := ascii " player"
  continued := [ascii " CSeq: 9"]
  nameChar := by decide +kernel
  other := by decide +kernel
  plain := by decide +kernel
  lines := by decide +kernel
  blank := by decide +kernel

theorem ParseRtspRequest_folds_typical :
    let s := { CRtspSession.create 5 with m_RtspCmdType := .RTSP_SETUP }
    let parse := fun q => ParseRtspRequest s (bufferOf q) q.length
    let ignored := fun lines => requestText typicalSetup.line (typicalSetup.before ++ (lines ++ typicalSetup.after))
    typicalTransport.folded =
      ascii "Transport: RTP/AVP;unicast;something;\r\n        client_port=7000-7001;somethingelse" ∧
    ((parse (typicalSetup.request typicalTransport.folded)).toOption.map fun r => (r.2, r.1.m_ClientRTPPort)) =
      some (true, 7000) ∧
    EndAlike (parse (typicalSetup.request typicalTransport.folded)) (parse (typicalSetup.request typicalTransport.unfolded)) ∧
    EndAlike (parse (ignored (typicalIgnored.line :: typicalIgnored.continued))) (parse (ignored [typicalIgnored.line])) := by
  have folds := ParseRtspRequest_folds { CRtspSession.create 5 with m_RtspCmdType := .RTSP_SETUP } typicalSetup
  exact ⟨by decide +kernel, by decide +kernel, folds.1 typicalTransport (by decide +kernel),
    folds.2 typicalIgnored (by decide +kernel)⟩

end RtspServer
