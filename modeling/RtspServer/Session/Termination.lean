import RtspServer.Session.Sentinel

/-!
# Whether a parse ends

The header loop moves on in every round. The loop over the sub-parameters of a
`Transport` header does so up to a CR that no LF follows, where it stays for ever.
-/

namespace RtspServer

/-- The protocol and the sub-parameters of a `Transport` header line; none where the parser reads none. -/
def transportArguments (l : Bytes) : Run (Option (Bool × Bytes)) := do
  let w ← glue l
  if ¬ ascii "Transport:" <+: w then return none else transportStart (w.drop 10)

/-- The sub-parameters that the round at the head `x` reads. -/
def ReadsArguments (x : CRtspSession × Bytes) (args : Bytes) : Prop :=
  x.1.m_RtspCmdType = .RTSP_SETUP ∧ ∃ l tcp, lineStart x.2 = .ok (some l) ∧ transportArguments l = .ok (some (tcp, args))

section

variable {z cur : Bytes} {s : CRtspSession}

theorem transportArguments_inside (h : Inside z cur) :
    ∃ r, transportArguments cur = .ok r ∧ ∀ tcp args, r = some (tcp, args) → Inside z args := by
  obtain ⟨w, glued, inside, -⟩ := glue_inside h
  unfold transportArguments
  rw [glued, ok_bind]
  split
  · exact ⟨none, rfl, fun _ _ none => nomatch none⟩
  rename_i found
  have later : Inside z (w.drop 10) := inside.drop_word (not_not.mp found) (by decide)
  obtain ⟨r, started, args⟩ := transportStart_inside later
  exact ⟨r, started, fun tcp text some => (args tcp text some).1⟩

theorem glue_head {c : UInt8} {rest w : Bytes} (glued : glue (c :: rest) = .ok w) (other : c ≠ CR) : w.head? = some c := by
  unfold glue at glued
  split at glued
  · rw [← pure_ok glued]
    rfl
  rw [if_neg fun lineEnd => other lineEnd.1] at glued
  obtain ⟨v, -, glued⟩ := bind_ok glued
  rw [← pure_ok glued]
  rfl

theorem transportArguments_other {word : Bytes} {args : Bool × Bytes} (found : word <+: cur) (first : word.head? = some 67) :
    transportArguments cur ≠ .ok (some args) := by
  obtain ⟨more, rfl⟩ := found
  obtain ⟨word, rfl⟩ : ∃ rest, word = 67 :: rest := by
    match word, first with
    | c :: word, first => exact ⟨word, by rw [Option.some.inj first]⟩
  intro read
  obtain ⟨w, glued, read⟩ := bind_ok read
  have head := glue_head glued (by decide)
  split at read
  · cases pure_ok read
  · rename_i transport
    obtain ⟨rest, rfl⟩ := not_not.mp transport
    exact absurd (Option.some.inj head) (by decide)

theorem transport_hang {args : Option (Bool × Bytes)} (h : Inside z cur) (started : transportStart cur = .ok args) :
    transport s cur = .error .hang ↔ ∃ tcp text, args = some (tcp, text) ∧ Stuck text := by
  obtain ⟨r, started', inside⟩ := transportStart_inside h
  cases Except.ok.inj (started'.symm.trans started)
  rcases transport_start s started with ⟨rfl, same⟩ | ⟨tcp, text, fuel, rfl, enough, same⟩
  · rw [same]
    exact iff_of_false nofun fun ⟨_, _, read, _⟩ => nomatch read
  · have nul := (inside tcp text rfl).1.nul
    rw [same]
    constructor
    · intro hang
      by_contra going
      exact subParameters_ends _ nul (fun stuck => going ⟨tcp, text, rfl, stuck⟩) enough hang
    · rintro ⟨tcp', text', same, stuck⟩
      cases same
      exact subParameters_stuck _ nul stuck fuel

/-- A header line is read for ever only in its sub-parameters. -/
theorem headerLineWith_hang (h : Inside z cur) (left : Int) :
    headerLineWith transport s left cur = .error .hang ↔
      s.m_RtspCmdType = .RTSP_SETUP ∧ ∃ tcp args, transportArguments cur = .ok (some (tcp, args)) ∧ Stuck args := by
  by_cases first : ascii "CSeq:" <+: cur
  · obtain ⟨r, parsed, -⟩ := parse_numeric_inside (h.drop_word first (by decide)) (left - 5)
    have parsed : parse_numeric_header (cur.drop 5) (left - 5) = .ok r := parsed
    refine iff_of_false ?_ fun ⟨_, _, _, read, _⟩ => transportArguments_other first rfl read
    unfold headerLineWith headerLine
    rw [if_pos (.inl first), if_pos first, parsed, ok_bind]
    cases r <;> exact nofun
  by_cases second : ascii "Content-Length:" <+: cur
  · obtain ⟨r, parsed, -⟩ := parse_numeric_inside (h.drop_word second (by decide)) (left - 15)
    have parsed : parse_numeric_header (cur.drop 15) (left - 15) = .ok r := parsed
    refine iff_of_false ?_ fun ⟨_, _, _, read, _⟩ => transportArguments_other second rfl read
    unfold headerLineWith headerLine
    rw [if_pos (.inr second), if_neg first, if_pos second, parsed, ok_bind]
    cases r <;> exact nofun
  obtain ⟨w, glued, inside, -⟩ := glue_inside h
  unfold headerLineWith otherHeaderWith transportArguments
  rw [if_neg (not_or.mpr ⟨first, second⟩), glued, ok_bind, ok_bind]
  have rest (r : Parse) (stays : StaysInside z w.length r) :
      r.next (fun s cur => do return (s, some (← skip (fun c => c ≠ NUL ∧ c ≠ CR) cur))) = .error .hang ↔
        r = .error .hang := by
    match r, stays with
    | .error e, _ => exact ⟨fun same => congrArg _ (Except.error.inj same), fun same => congrArg _ (Except.error.inj same)⟩
    | .ok (t, none), _ => exact iff_of_false nofun nofun
    | .ok (t, some cur), stays =>
      obtain ⟨cur', skipped, -⟩ := skip_inside (p := fun c => c ≠ NUL ∧ c ≠ CR) (stays.2 t cur rfl).1 (by decide)
      refine iff_of_false ?_ nofun
      show (do return (t, some (← skip (fun c => c ≠ NUL ∧ c ≠ CR) cur)) : Parse) ≠ _
      rw [skipped]
      exact nofun
  by_cases header : s.m_RtspCmdType = .RTSP_SETUP ∧ ascii "Transport:" <+: w
  · have later : Inside z (w.drop 10) := inside.drop_word header.2 (by decide)
    obtain ⟨args, started, -⟩ := transportStart_inside later
    have short : (w.drop 10).length ≤ w.length := by
      rw [List.length_drop]
      omega
    rw [if_pos header, rest _ ((transport_inside later).mono short), transport_hang later started,
      if_neg (not_not.mpr header.2), started]
    exact ⟨fun ⟨tcp, text, read, stuck⟩ => ⟨header.1, tcp, text, congrArg Except.ok read, stuck⟩,
      fun ⟨_, tcp, text, read, stuck⟩ => ⟨tcp, text, Except.ok.inj read, stuck⟩⟩
  · rw [if_neg header, rest _ (staysInside_some s inside (Nat.le_refl _))]
    apply iff_of_false nofun
    rintro ⟨setup, tcp, text, read, -⟩
    rw [if_pos fun found => header ⟨setup, found⟩] at read
    cases pure_ok read

end

/-! ### The whole parse -/

/-- The request in `q` is parsed in finitely many steps: the parser returns, and each
iteration of its loops moves the cursor on. -/
structure Terminates (s : CRtspSession) (q : Bytes) (size : Nat) : Prop where
  returns : ∃ fuel, parseIn fuel s (bufferOf q) size ≠ .error .hang
  headers : ∀ x y, Head s (bufferOf q) size x → Loop.Next (headerRound transport (bufferOf q) size) x y →
    y.2.length < x.2.length
  subParameters : ∀ x args, Head s (bufferOf q) size x → ReadsArguments x args →
    ∀ t y z, Loop.Reaches subRound (t, args) y → Loop.Next subRound y z → z.2.length < y.2.length

section

variable {s : CRtspSession} {q : Bytes} {size : Nat} {x : CRtspSession × Bytes}

theorem transportArguments_nul {l : Bytes} {args : Bool × Bytes} (ends : ∀ c, l.head? = some c → c = NUL) :
    transportArguments l ≠ .ok (some args) := by
  match l, ends with
  | [], _ => exact nofun
  | c :: rest, ends =>
    intro read
    obtain ⟨w, glued, arguments⟩ := bind_ok read
    cases ends c rfl
    have head := glue_head glued (by decide)
    split at arguments
    · cases pure_ok arguments
    · rename_i found
      obtain ⟨more, rfl⟩ := not_not.mp found
      exact absurd (Option.some.inj head) (by decide)

theorem headerRound_hang (h : Inside (padding q) x.2) :
    headerRound transport (bufferOf q) size x = .error .hang ↔ ∃ args, ReadsArguments x args ∧ Stuck args := by
  have unread (nul : ∀ l, lineStart x.2 = .ok (some l) → ∀ c, l.head? = some c → c = NUL) :
      ¬ ∃ args, ReadsArguments x args ∧ Stuck args := by
    rintro ⟨args, ⟨-, l, tcp, started, read⟩, -⟩
    exact transportArguments_nul (nul l started) read
  rcases headerRound_step (bufferOf q) size h with ⟨last, started⟩ | ⟨-, nul, b, round⟩ | ⟨-, l, started, inside, -, round⟩
  · refine iff_of_false ?_ (unread fun l started' c head => ?_)
    · rw [(headerRound_atLast (bufferOf q) size transport last h).2]
      split <;> exact nofun
    · cases Except.ok.inj (started.symm.trans started')
      exact padding_head head
  · rw [round]
    exact iff_of_false nofun (unread nul)
  have line : (∃ args, ReadsArguments x args ∧ Stuck args) ↔
      x.1.m_RtspCmdType = .RTSP_SETUP ∧ ∃ tcp args, transportArguments l = .ok (some (tcp, args)) ∧ Stuck args := by
    constructor
    · rintro ⟨args, ⟨setup, l', tcp, started', read⟩, stuck⟩
      cases Except.ok.inj (started.symm.trans started')
      exact ⟨setup, tcp, args, read, stuck⟩
    · rintro ⟨setup, tcp, args, read, stuck⟩
      exact ⟨args, ⟨setup, l, tcp, started, read⟩, stuck⟩
  rw [line, round, ← headerLineWith_hang inside (size - (((bufferOf q).length : Nat) - (l.length : Nat)))]
  cases headerLineWith transport x.1 (size - ((bufferOf q).length - l.length)) l with
  | error e => exact ⟨fun same => congrArg _ (Except.error.inj same), fun same => congrArg _ (Except.error.inj same)⟩
  | ok r =>
    obtain ⟨t, r⟩ := r
    cases r with
    | none => exact iff_of_false nofun nofun
    | some cur => exact iff_of_false nofun nofun

theorem ReadsArguments.nul {args : Bytes} (h : Inside (padding q) x.2) (read : ReadsArguments x args) : NUL ∈ args := by
  obtain ⟨-, l, tcp, started, arguments⟩ := read
  rcases lineStart_inside h with none | ⟨-, last⟩ | ⟨-, l', started', inside, -⟩
  · exact nomatch none.symm.trans started
  · cases Except.ok.inj (last.symm.trans started)
    exact absurd arguments (transportArguments_nul fun c head => padding_head head)
  · cases Except.ok.inj (started'.symm.trans started)
    obtain ⟨r, arguments', within⟩ := transportArguments_inside inside
    exact (within tcp args (Except.ok.inj (arguments'.symm.trans arguments))).nul

/-- A round whose sub-parameters have no end keeps the parser from returning. -/
theorem never_returns {args : Bytes} (head : Head s (bufferOf q) size x) (read : ReadsArguments x args)
    (stuck : Stuck args) (fuel : Nat) : parseIn fuel s (bufferOf q) size = .error .hang := by
  obtain ⟨cur, line, path⟩ := head
  obtain ⟨r, passed, inside⟩ := lineCursor_inside s q
  have same : r = some cur := Except.ok.inj (passed.symm.trans line)
  have here := (inside cur same).1
  have approx : ∀ y, Loop.Reaches (headerRound transport (bufferOf q) size) (s.newCommandInit, cur) y →
      headerRound (transportIn fuel) (bufferOf q) size y = headerRound transport (bufferOf q) size y ∨
        headerRound (transportIn fuel) (bufferOf q) size y = .error .hang :=
    fun y path => round_approx fuel (reaches_inside sound_transport here path).1
  have last : headerRound transport (bufferOf q) size x = .error .hang :=
    (headerRound_hang (reaches_inside sound_transport here path).1).mpr ⟨args, read, stuck⟩
  unfold parseIn
  rw [line, ok_bind]
  exact Loop.stuck_of_reaches approx path last fuel

theorem returns_of_ends (ends : ∀ x args, Head s (bufferOf q) size x → ReadsArguments x args → ¬ Stuck args) :
    ∃ fuel, parseIn fuel s (bufferOf q) size ≠ .error .hang := by
  obtain ⟨r, passed, inside⟩ := lineCursor_inside s q
  refine ⟨(bufferOf q).length + 1, ?_⟩
  unfold parseIn
  rw [passed, ok_bind]
  match r, inside with
  | none, _ => exact nofun
  | some cur, inside =>
    obtain ⟨here, short⟩ := inside cur rfl
    dsimp only
    rw [run_transportIn here (Nat.lt_succ_of_le short)]
    refine Loop.ends (μ := fun x => x.2.length) ?_ ?_ (Nat.lt_succ_of_le short)
    · intro y z path next
      exact (headerRound_next sound_transport (reaches_inside sound_transport here path).1 next).2
    · intro y path hang
      have head : Head s (bufferOf q) size y := ⟨cur, passed, path⟩
      obtain ⟨args, read, stuck⟩ := (headerRound_hang (head_inside head)).mp hang
      exact ends y args head read stuck

/-- A SETUP request of 54 bytes whose `Transport` header has a CR on its own. -/
def bareCRRequest : Bytes := ascii "SETUP rtsp://h/p/1 RTSP/1.0\r\nTransport: RTP/AVP;\rx\r\n\r\n"

theorem not_terminates_bareCR :
    ¬ Terminates ((CRtspSession.create 5).recognised (bufferOf bareCRRequest)) bareCRRequest bareCRRequest.length := by
  intro ends
  let s := (CRtspSession.create 5).recognised (bufferOf bareCRRequest)
  let cur := (bufferOf bareCRRequest).drop 27
  let l := (bufferOf bareCRRequest).drop 29
  let args := (bufferOf bareCRRequest).drop 47
  have line : lineCursor s (bufferOf bareCRRequest) = .ok (some cur) := ok_of_toOption (by decide +kernel)
  have started : lineStart cur = .ok (some l) := ok_of_toOption (by decide +kernel)
  have arguments : transportArguments l = .ok (some (false, args)) := ok_of_toOption (by decide +kernel)
  have setup : s.newCommandInit.m_RtspCmdType = .RTSP_SETUP := by decide +kernel
  have bare : args.dropWhile isText = CR :: 120 :: (bufferOf bareCRRequest).drop 50 := by decide +kernel
  have stuck : Stuck args := ⟨⟨120, _, bare, by decide⟩, by decide +kernel⟩
  obtain ⟨fuel, returned⟩ := ends.returns
  exact returned (never_returns ⟨cur, line, .refl⟩ ⟨setup, l, false, started, arguments⟩ stuck fuel)

/-- The parser ends unless it reads a `Transport` header that has no end. -/
theorem terminates_iff (s : CRtspSession) (q : Bytes) (size : Nat) :
    Terminates s q size ↔ ∀ x args, Head s (bufferOf q) size x → ReadsArguments x args → ¬ Stuck args := by
  constructor
  · intro ends x args head read stuck
    obtain ⟨fuel, returned⟩ := ends.returns
    exact returned (never_returns head read stuck fuel)
  · intro ends
    refine ⟨returns_of_ends ends, fun x y head next => (headerRound_next sound_transport (head_inside head) next).2, ?_⟩
    intro x args head read t y z path round
    obtain ⟨nul, going⟩ := reaches_going (read.nul (head_inside head)) (ends x args head read) path
    obtain ⟨-, -, shorter | stuck⟩ := subRound_next nul round
    · exact shorter
    · exact absurd stuck going

end

end RtspServer
