import RtspServer.Session.Sentinel
import RtspServer.Session.Server

/-!
# Reads inside the receive buffer

The step over a line end is two characters wide, also where the buffer ends in a
CR. No other step of the parser gets past the NUL behind the received bytes.
-/

namespace RtspServer

/-- `cur - aRequest` -/
def index (aRequest cur : Bytes) : Nat := aRequest.length - cur.length

/-- The parser reads nothing outside `RecvBuf`, and the cursor of its header loop does not
step past the NUL behind the text `q`. -/
structure ReadsInside (s : CRtspSession) (q : Bytes) (size : Nat) : Prop where
  inside : ∀ fuel, parseIn fuel s (bufferOf q) size ≠ .error .outOfBounds
  mark : ∀ x, Head s (bufferOf q) size x → index (bufferOf q) x.2 ≤ q.length ∧
    ∀ l, lineStart x.2 = .ok (some l) → index (bufferOf q) l ≤ q.length

/-- The header loop comes to no CR that is the last byte received. -/
def NoLastCR (s : CRtspSession) (q : Bytes) (size : Nat) : Prop :=
  ∀ x, Head s (bufferOf q) size x → ¬ AtLastCR q x.2

section

variable {s : CRtspSession} {q : Bytes} {size : Nat}

theorem index_inside {cur : Bytes} (h : Inside (padding q) cur) : index (bufferOf q) cur ≤ q.length := by
  have behind := h.length_le
  unfold index bufferOf
  rw [List.length_append]
  change (NUL :: padding q).length ≤ cur.length at behind
  change q.length + (NUL :: padding q).length - cur.length ≤ q.length
  omega

theorem index_padding (q : Bytes) : index (bufferOf q) (padding q) = q.length + 1 := by
  unfold index bufferOf
  rw [List.length_append, List.length_cons]
  change q.length + ((padding q).length + 1) - (padding q).length = q.length + 1
  omega

theorem readsInside_iff : ReadsInside s q size ↔ NoLastCR s q size := by
  constructor
  · intro reads x head last
    have started := (headerRound_atLast (bufferOf q) size transport last (head_inside head)).1
    have bound := (reads.mark x head).2 _ started
    rw [index_padding] at bound
    omega
  · intro none
    refine ⟨fun fuel => ?_, fun x head => ⟨index_inside (head_inside head), fun l started => ?_⟩⟩
    · obtain ⟨r, passed, inside⟩ := lineCursor_inside s q
      unfold parseIn
      rw [passed, ok_bind]
      match r, inside with
      | Option.none, _ => exact nofun
      | some cur, inside =>
        have here := (inside cur rfl).1
        refine Loop.run_sound (fun y path => ?_) (by decide) fuel
        have reached : Head s (bufferOf q) size y :=
          ⟨cur, passed, Loop.reaches_of_approx
            (fun u path => round_approx fuel (reaches_inside sound_transport here path).1) path⟩
        exact (headerRound_inside (sound_transportIn fuel) (head_inside reached) (none y reached)).1
    · rcases lineStart_inside (head_inside head) with stop | ⟨last, -⟩ | ⟨-, l', started', inside, -⟩
      · exact nomatch stop.symm.trans started
      · exact absurd last (none x head)
      · cases Except.ok.inj (started'.symm.trans started)
        exact index_inside inside

end

/-! ### Over the calls of the server -/

/-- `P` holds of the call of the parser in a step, if there is one. -/
def History.EachParse (P : ParseCall → Prop) (h : History) : Event → Prop
  | .addSession _ => True
  | .read i read => i ∈ h.server.m_Clients → ∀ c, (h.server.session i).parseCall h.server.receiver read = some c → P c

theorem History.eachParse_congr {P Q : ParseCall → Prop} (same : ∀ c, P c ↔ Q c) (h : History) (e : Event) :
    h.EachParse P e ↔ h.EachParse Q e := by
  cases e with
  | addSession random => exact Iff.rfl
  | read i read => exact forall_congr' fun _ => forall_congr' fun c => forall_congr' fun _ => same c

def ParseCall.ReadsInside (c : ParseCall) : Prop := RtspServer.ReadsInside c.session c.text c.size

def ParseCall.NoLastCR (c : ParseCall) : Prop := RtspServer.NoLastCR c.session c.text c.size

/-- A text of 499 bytes with no CRLF, whose last byte is a CR. -/
def lastCRRequest : Bytes := ascii "OPTIONS rtsp://h/p/1 RTSP/1.0" ++ List.replicate 469 SP ++ [CR]

theorem not_readsInside_lastCR : ¬ ReadsInside (CRtspSession.create 5) lastCRRequest 499 := by
  intro reads
  let cur := (bufferOf lastCRRequest).drop 29
  have line : lineCursor (CRtspSession.create 5) (bufferOf lastCRRequest) = .ok (some cur) := ok_of_toOption (by decide +kernel)
  have last : AtLastCR lastCRRequest cur := ok_of_toOption (by decide +kernel)
  have head : Head (CRtspSession.create 5) (bufferOf lastCRRequest) 499 ((CRtspSession.create 5).newCommandInit, cur) :=
    ⟨cur, line, .refl⟩
  exact readsInside_iff.mp reads _ head last

theorem not_each_readsInside :
    ¬ Runs.EachTry History.step (History.EachParse ParseCall.ReadsInside) [.addSession 5, .read 0 (.data lastCRRequest)]
      (History.start ⟨fun _ => true, 2, []⟩ (ascii "live") (ascii "1")) := by
  rintro ⟨-, rest⟩
  obtain ⟨reads, -⟩ := rest _ rfl
  refine not_readsInside_lastCR (reads (List.mem_singleton_self 0) ⟨_, _, _, .hdrStateUnknown⟩ ?_)
  decide +kernel

/-- In every run of the server, the parser's reads are inside the buffer exactly in the calls in which its
header loop comes to no CR that is the last byte received. -/
theorem each_readsInside_iff (udp : UdpSockets) (pres stream : Bytes) (events : List Event) :
    Runs.EachTry History.step (History.EachParse ParseCall.ReadsInside) events (History.start udp pres stream) ↔
      Runs.EachTry History.step (History.EachParse ParseCall.NoLastCR) events (History.start udp pres stream) :=
  Runs.eachTry_congr (History.eachParse_congr fun _ => readsInside_iff)

end RtspServer
