import RtspServer.Session.State

/-!
# ParseRtspRequest

The parser in the order of the source: the request line, then the loop over the
header lines. Fields written before a `return false` keep what was written.
-/

namespace RtspServer

/-- The session and the cursor so far; no cursor after `return false`. -/
abbrev Parse := Run (CRtspSession × Option Bytes)

def Parse.next (r : Parse) (f : CRtspSession → Bytes → Parse) : Parse := do
  match ← r with
  | (s, none) => return (s, none)
  | (s, some cur) => f s cur

/-! ### The request line -/

/-- The loop over the command name, which fills at most 19 characters of `CmdName`. -/
def skipCmdName : Nat → Bytes → Run Bytes
  | 0, cur => return cur
  | _ + 1, [] => .error .outOfBounds
  | n + 1, c :: rest => if c ≠ SP ∧ c ≠ TAB then skipCmdName n rest else return c :: rest

def scheme (s : CRtspSession) (aRequest : Bytes) : Parse := do
  let cur ← skip isspace (← skipCmdName 19 aRequest)
  if ¬ strncasecmp (ascii "rtsp://") cur then return (s, none)
  else return (s, some (cur.drop 7))

def isPart (c : UInt8) : Bool := c ≠ NUL ∧ ¬ isspace c ∧ c ≠ SLASH

/-- The copy loop of a part: at most `limit` characters go to the array, and one
more is a `return false`. -/
def copyPart (limit : Nat) (cur : Bytes) : Run (Bytes × Option Bytes) := do
  let part := cur.takeWhile isPart
  if part.length ≤ limit then return (part, some (← skip isPart cur))
  else return (part.take limit, none)

def terminate (limit dst_pos : Nat) : Run Unit :=
  if dst_pos < limit then return () else .error .outOfBounds

/-- What follows the host and the presentation part: at least one slash. -/
def nextPart (limit : Nat) (s : CRtspSession) (dst_pos : Nat) (cur : Bytes) : Parse := do
  if (← deref cur) ≠ SLASH then return (s, none)
  else do
    terminate limit dst_pos
    return (s, some (← skip (· = SLASH) cur))

def hostPort (s : CRtspSession) (cur : Bytes) : Parse := do
  let (part, rest) ← copyPart MAX_HOSTNAME_LEN cur
  Parse.next (return ({ s with m_CommandHostPort := part }, rest)) fun s =>
    nextPart MAX_HOSTNAME_LEN s part.length

def presentationPart (s : CRtspSession) (cur : Bytes) : Parse := do
  let (part, rest) ← copyPart RTSP_PARAM_STRING_MAX cur
  Parse.next (return ({ s with m_CommandPresentationPart := part }, rest)) fun s =>
    nextPart RTSP_PARAM_STRING_MAX s part.length

def streamPart (s : CRtspSession) (cur : Bytes) : Parse := do
  let (part, rest) ← copyPart RTSP_PARAM_STRING_MAX cur
  Parse.next (return ({ s with m_CommandStreamPart := part }, rest)) fun s cur => do
    terminate RTSP_PARAM_STRING_MAX part.length
    let cur ← skip (· = SLASH) cur
    let c ← deref cur
    if c ≠ SP ∧ c ≠ TAB then return (s, none) else return (s, some cur)

def version (s : CRtspSession) (cur : Bytes) : Parse := do
  let cur ← skip isspace cur
  if ¬ ascii "RTSP/" <+: cur then return (s, none)
  else do
    let cur := cur.drop 5
    if ¬ isdigit (← deref cur) then return (s, none)
    else if (← deref (cur.drop 1)) ≠ DOT then return (s, none)
    else if ¬ isdigit (← deref (cur.drop 2)) then return (s, none)
    else return (s, some (cur.drop 3))

def requestLine (s : CRtspSession) (aRequest : Bytes) : Parse :=
  (((scheme s aRequest).next hostPort).next presentationPart).next fun s cur =>
    (streamPart s cur).next version

/-! ### Numeric headers -/

/-- `while (*buf && p(*buf) && count > 0)` -/
def skipCounted (p : UInt8 → Bool) : Bytes → Int → Run (Bytes × Int)
  | [], _ => .error .outOfBounds
  | c :: rest, count =>
    if c ≠ NUL ∧ p c ∧ count > 0 then skipCounted p rest (count - 1) else return (c :: rest, count)

def isblank (c : UInt8) : Bool := c = SP ∨ c = TAB

def parse_numeric_header (buf : Bytes) (max_length : Int) : Run (Option (UInt32 × Bytes)) := do
  let (number_start, count) ← skipCounted isblank buf max_length
  if ¬ isdigit (← deref number_start) ∨ count = 0 then return none
  else do
    let (buf, count) ← skipCounted isdigit number_start count
    if count = 0 then return none
    else return some (UInt32.ofInt (atoi (number_start.take (number_start.length - buf.length))), buf)

/-! ### Header lines -/

/-- The loop that puts two blanks in place of each CRLF in front of a continuation line. -/
def glue : Bytes → Run Bytes
  | [] => .error .outOfBounds
  | c :: rest =>
    if c = NUL then return c :: rest
    else if c = CR ∧ rest.head? = some LF then
      match rest with
      | _ :: d :: more =>
        if d = SP ∨ d = TAB then do return SP :: SP :: (← glue (d :: more)) else return c :: rest
      | _ => .error .outOfBounds
    else do return c :: (← glue rest)

/-- `strpbrk(cur, ";\r")` -/
def strpbrk (cur : Bytes) : Run (Option Bytes) := do
  let rest ← skip (fun c => c ≠ NUL ∧ c ≠ SEMICOLON ∧ c ≠ CR) cur
  if (← deref rest) = NUL then return none else return some rest

/-- One sub-parameter. The NUL put behind a port number is overwritten or left
behind the cursor. -/
def subParameter (s : CRtspSession) (cur next_part : Bytes) : Parse :=
  if ascii "client_port=" <+: cur then
    let port := (cur.drop 12).takeWhile isdigit
    if port = [] then return (s, none)
    else
      let m_ClientRTPPort := UInt16.ofInt (atoi port)
      return ({ s with m_ClientRTPPort, m_ClientRTCPPort := m_ClientRTPPort + 1 }, some next_part)
  else return (s, some next_part)

/-- The loop over the sub-parameters. It may stay where it is for ever. -/
def subParameters : Nat → CRtspSession → Bytes → Parse
  | 0, _, _ => .error .hang
  | fuel + 1, s, cur => do
    let cur ← skip (fun c => c = SEMICOLON ∨ c = SP ∨ c = TAB) cur
    if (← deref cur) = NUL then return (s, none)
    else if ← atLineEnd cur then return (s, some cur)
    else
      match ← strpbrk cur with
      | none => return (s, none)
      | some next_part => (subParameter s cur next_part).next (subParameters fuel)

def transport (s : CRtspSession) (cur : Bytes) : Parse := do
  let cur ← skip isspace cur
  if ¬ ascii "RTP/AVP" <+: cur then return (s, none)
  else
    let cur := cur.drop 7
    if ascii "/TCP" <+: cur then
      subParameters (cur.length + 1) { s with m_TcpTransport := true, m_ClientRTPPort := 0 } (cur.drop 4)
    else subParameters (cur.length + 1) { s with m_TcpTransport := false, m_ClientRTPPort := 0 } cur

/-- A header that is neither `CSeq` nor `Content-Length`. -/
def otherHeader (s : CRtspSession) (cur : Bytes) : Parse := do
  let cur ← glue cur
  Parse.next
    (if s.m_RtspCmdType = .RTSP_SETUP ∧ ascii "Transport:" <+: cur then transport s (cur.drop 10)
      else return (s, some cur))
    fun s cur => do return (s, some (← skip (fun c => c ≠ NUL ∧ c ≠ CR) cur))

def headerLine (s : CRtspSession) (left : Int) (cur : Bytes) : Parse :=
  if ascii "CSeq:" <+: cur then do
    match ← parse_numeric_header (cur.drop 5) (left - 5) with
    | none => return (s, none)
    | some (new_cseq, cur) => return ({ s with m_CSeq := new_cseq }, some cur)
  else if ascii "Content-Length:" <+: cur then do
    match ← parse_numeric_header (cur.drop 15) (left - 15) with
    | none => return (s, none)
    | some (m_ContentLength, cur) => return ({ s with m_ContentLength }, some cur)
  else otherHeader s cur

/-- `while (*cur && *cur != '\r' && cur[1] != '\n') ++cur;` -/
def skipLeftovers : Bytes → Run Bytes
  | [] => .error .outOfBounds
  | c :: rest =>
    if c = NUL ∨ c = CR then return c :: rest
    else do if (← deref rest) = LF then return c :: rest else skipLeftovers rest

def headerLoop (aRequest : Bytes) (aRequestSize : Nat) : Nat → CRtspSession → Bytes → Run (CRtspSession × Bool)
  | 0, _, _ => .error .hang
  | fuel + 1, s, cur => do
    let cur ← skipLeftovers cur
    let c ← deref cur
    if c = NUL ∨ (c ≠ CR ∧ cur[1]? ≠ some LF) then return (s, false)
    else
      let cur := cur.drop 2
      if (← deref cur) = NUL then return (s, true)
      else
        let left : Int := aRequestSize - (aRequest.length - cur.length)
        match ← headerLine s left cur with
        | (s, none) => return (s, false)
        | (s, some cur) => headerLoop aRequest aRequestSize fuel s cur

/-- Every round of the loop moves the cursor by two characters at least. -/
def ParseRtspRequest (s : CRtspSession) (aRequest : Bytes) (aRequestSize : Nat) : Run (CRtspSession × Bool) := do
  match ← requestLine s.newCommandInit aRequest with
  | (s, none) => return (s, false)
  | (s, some cur) => headerLoop aRequest aRequestSize (aRequest.length + 1) s cur

/-! ### Steps in sequence -/

theorem Parse.next_ok {r : Parse} {f : CRtspSession → Bytes → Parse} {t : CRtspSession} {cur : Bytes}
    (h : r.next f = .ok (t, some cur)) : ∃ s cur', r = .ok (s, some cur') ∧ f s cur' = .ok (t, some cur) := by
  obtain ⟨⟨s, cur'⟩, first, rest⟩ := bind_ok h
  cases cur' with
  | none => cases pure_ok rest
  | some cur' => exact ⟨s, cur', first, rest⟩

theorem skipCmdName_suffix {n : Nat} {cur rest : Bytes} (h : skipCmdName n cur = .ok rest) : rest <:+ cur := by
  induction n generalizing cur with
  | zero =>
    rw [← pure_ok h]
  | succ n ih =>
    cases cur with
    | nil => cases h
    | cons c cur =>
      rw [skipCmdName] at h
      split at h
      · exact (ih h).trans (List.suffix_cons c cur)
      · rw [← pure_ok h]

theorem skip_suffix {p : UInt8 → Bool} {cur rest : Bytes} (h : skip p cur = .ok rest) : rest <:+ cur := by
  obtain ⟨front, c, tail, whole, -⟩ := skip_ok h
  exact ⟨front, whole.symm⟩

theorem scheme_ok {s t : CRtspSession} {aRequest cur : Bytes} (h : scheme s aRequest = .ok (t, some cur)) :
    t = s ∧ ∃ front, front <:+ aRequest ∧ strncasecmp (ascii "rtsp://") front ∧ cur = front.drop 7 := by
  obtain ⟨name, skipped, h⟩ := bind_ok h
  obtain ⟨front, blanks, h⟩ := bind_ok h
  split at h
  · cases pure_ok h
  · rename_i found
    have same := pure_ok h
    simp only [Prod.mk.injEq, Option.some.injEq] at same
    exact ⟨same.1.symm, front, (skip_suffix blanks).trans (skipCmdName_suffix skipped), not_not.mp found,
      same.2.symm⟩

theorem tolower_eq {c d : UInt8} (mark : d < 97 ∨ 122 < d) (h : tolower c = d) : c = d := by
  unfold tolower at h
  split at h
  · rename_i upper
    rw [UInt8.le_iff_toNat_le, UInt8.le_iff_toNat_le] at upper
    rw [UInt8.lt_iff_toNat_lt, UInt8.lt_iff_toNat_lt] at mark
    rw [← h, UInt8.toNat_add] at mark
    simp at mark upper
    omega
  · exact h

theorem mem_of_strncasecmp {word cur : Bytes} {d : UInt8} (mark : d < 97 ∨ 122 < d) (h : strncasecmp word cur)
    (member : d ∈ word) : d ∈ cur := by
  unfold strncasecmp at h
  rw [← h] at member
  obtain ⟨c, inside, lower⟩ := List.mem_map.mp member
  rw [tolower_eq mark lower] at inside
  exact List.mem_of_mem_take inside

end RtspServer
