import RtspServer.Session.SubParameters
import RtspServer.Session.UriStores
import RtspServer.Session.ParserRelation

/-!
# The rounds of the header loop

The parser with fuel for its loops, gone on with after a store outside an array,
and the cursors at the heads of its rounds. No round but one loses the NUL behind
the received bytes.
-/

namespace RtspServer

/-! ### The parser with fuel -/

/-- The cursor behind the request line. -/
def lineCursor (s : CRtspSession) (aRequest : Bytes) : Run (Option Bytes) := do
  let (_, cur) ← uriStores s aRequest
  match cur with
  | none => return none
  | some cur => do
    let (_, cur) ← version s cur
    return cur

/-- The start of the next header line; none is the `return false` before it. -/
def lineStart (cur : Bytes) : Run (Option Bytes) := do
  let cur ← skipLeftovers cur
  let c ← deref cur
  if c = NUL ∨ (c ≠ CR ∧ cur[1]? ≠ some LF) then return none
  else return some (cur.drop 2)

/-- The protocol of a `Transport` header, TCP or not, and what follows it. -/
def transportStart (cur : Bytes) : Run (Option (Bool × Bytes)) := do
  let cur ← skip isspace cur
  if ¬ ascii "RTP/AVP" <+: cur then return none
  else
    let cur := cur.drop 7
    if ascii "/TCP" <+: cur then return some (true, cur.drop 4) else return some (false, cur)

def transportIn (fuel : Nat) (s : CRtspSession) (cur : Bytes) : Parse := do
  match ← transportStart cur with
  | none => return (s, none)
  | some (m_TcpTransport, cur) => subParameters fuel { s with m_TcpTransport, m_ClientRTPPort := 0 } cur

section

variable (transport : CRtspSession → Bytes → Parse)

def otherHeaderWith (s : CRtspSession) (cur : Bytes) : Parse := do
  let cur ← glue cur
  Parse.next
    (if s.m_RtspCmdType = .RTSP_SETUP ∧ ascii "Transport:" <+: cur then transport s (cur.drop 10)
      else return (s, some cur))
    fun s cur => do return (s, some (← skip (fun c => c ≠ NUL ∧ c ≠ CR) cur))

def headerLineWith (s : CRtspSession) (left : Int) (cur : Bytes) : Parse :=
  if ascii "CSeq:" <+: cur ∨ ascii "Content-Length:" <+: cur then headerLine s left cur
  else otherHeaderWith transport s cur

/-- One round of the loop over the header lines. -/
def headerRound (aRequest : Bytes) (aRequestSize : Nat) (x : CRtspSession × Bytes) :
    Run ((CRtspSession × Bytes) ⊕ (CRtspSession × Bool)) := do
  match ← lineStart x.2 with
  | none => return .inr (x.1, false)
  | some cur =>
    if (← deref cur) = NUL then return .inr (x.1, true)
    else
      match ← headerLineWith transport x.1 (aRequestSize - (aRequest.length - cur.length)) cur with
      | (s, none) => return .inr (s, false)
      | (s, some cur) => return .inl (s, cur)

end

/-- The parser where each loop has `fuel` rounds at most. -/
def parseIn (fuel : Nat) (s : CRtspSession) (aRequest : Bytes) (aRequestSize : Nat) : Run (CRtspSession × Bool) := do
  match ← lineCursor s aRequest with
  | none => return (s.newCommandInit, false)
  | some cur => Loop.run (headerRound (transportIn fuel) aRequest aRequestSize) .hang fuel (s.newCommandInit, cur)

/-- The session and the cursor at the head of a round of the header loop. -/
def Head (s : CRtspSession) (aRequest : Bytes) (aRequestSize : Nat) (x : CRtspSession × Bytes) : Prop :=
  ∃ cur, lineCursor s aRequest = .ok (some cur) ∧
    Loop.Reaches (headerRound transport aRequest aRequestSize) (s.newCommandInit, cur) x

/-! ### The parser without -/

theorem headerLineWith_transport (s : CRtspSession) (left : Int) (cur : Bytes) :
    headerLineWith transport s left cur = headerLine s left cur := by
  unfold headerLineWith
  split
  · rfl
  · rename_i other
    obtain ⟨first, second⟩ := not_or.mp other
    unfold headerLine
    rw [if_neg first, if_neg second]
    rfl

theorem headerLoop_eq_loop (a : Bytes) (size fuel : Nat) (s : CRtspSession) (cur : Bytes) :
    headerLoop a size fuel s cur = Loop.run (headerRound transport a size) .hang fuel (s, cur) := by
  induction fuel generalizing s cur with
  | zero => rfl
  | succ fuel ih =>
    rw [headerLoop, Loop.run, headerRound, lineStart]
    cases skipLeftovers cur with
    | error e => rfl
    | ok w =>
      rw [ok_bind, ok_bind]
      cases deref w with
      | error e => rfl
      | ok c =>
        rw [ok_bind, ok_bind]
        by_cases stop : c = NUL ∨ (c ≠ CR ∧ w[1]? ≠ some LF)
        · rw [if_pos stop, if_pos stop]
          rfl
        rw [if_neg stop, if_neg stop]
        dsimp only
        rw [pure_bind]
        dsimp only
        cases deref (w.drop 2) with
        | error e => rfl
        | ok d =>
          rw [ok_bind, ok_bind]
          by_cases nul : d = NUL
          · rw [if_pos nul, if_pos nul]
            rfl
          rw [if_neg nul, if_neg nul, headerLineWith_transport]
          cases headerLine s (size - (a.length - (w.drop 2).length)) (w.drop 2) with
          | error e => rfl
          | ok line =>
            obtain ⟨s, r⟩ := line
            cases r with
            | none => rfl
            | some cur => exact ih s cur

end RtspServer
