import RtspServer.Media.Aggregation
import RtspServer.Media.H264Stream
import RtspServer.Media.HevcSender

/-!
# The two H.265 senders

`CStreamer::rtpSendNALH265` and the static `rtpSendNALH265` of RTPEnc.cpp on the
same calls. They send the same without aggregation. With it they put different
headers in front of the units they collect, so they agree only as long as none of
these are sent.
-/

namespace RtspServer.RTPEnc

/-- The payloads of a run of packets with their sequence numbers. -/
def numbered (packets : List Rtp.Packet) : List (Bytes × Nat) := packets.map fun p => (p.payload, p.seq.toNat)

/-- Both senders get through the calls, and send the same payloads under the same numbers. -/
def PacketizersAgree (ctx : RTPMuxContext) (aggregation : Int) (calls : List (Bytes × Int)) : Prop :=
  let start : RTPMuxContext := { initRTPMuxContext ctx with aggregation }
  ∃ x ds y fs ps qs, sendAll rtpSendNALH265 start calls = some (x, ds) ∧
    sendAll RtspServer.rtpSendNALH265 start calls = some (y, fs) ∧
    ds.mapM Rtp.parse = some ps ∧ packetsOf fs = some qs ∧ numbered ps = numbered qs

/-! ### The payloads of both -/

/-- What `CStreamer` sends in a run of calls. -/
def streamerPayloads (aggregation : Int) : List Bytes → List (Bytes × Int) → List Bytes
  | _, [] => []
  | waiting, c :: calls =>
    (nalPayloads aggregation waiting c.1 c.2).1 ++
      streamerPayloads aggregation (nalPayloads aggregation waiting c.1 c.2).2 calls

theorem sendAll_streamer {ctx : RTPMuxContext} {waiting : List Bytes} (held : Waiting ctx waiting) (calls : List (Bytes × Int)) :
    ∃ ctx' fs, sendAll RtspServer.rtpSendNALH265 ctx calls = some (ctx', fs) ∧
      Sent ctx ctx' (streamerPayloads ctx.aggregation waiting calls) fs := by
  induction calls generalizing ctx waiting with
  | nil => exact ⟨ctx, [], rfl, Sent.refl ctx⟩
  | cons c calls ih =>
    obtain ⟨ctx1, fs, step, sent, held1⟩ := rtpSendNALH265_sent held c.1 c.2
    obtain ⟨ctx2, more, go, sent'⟩ := ih held1
    rw [sent.aggregation] at sent'
    exact ⟨ctx2, fs ++ more, by rw [sendAll_cons calls step, go]; rfl, sent.append sent'⟩

/-- From the units of `waiting` on, both senders send the same payloads. -/
def Alike (aggregation : Int) (waiting : List Bytes) (calls : List (Bytes × Int)) : Prop :=
  ∃ out kept, runPayloads 4 fragmentsOf aggregation waiting calls = some (out, kept) ∧
    out.map Prod.fst = streamerPayloads aggregation waiting calls

/-- Runs of packets under consecutive numbers differ in their payloads only. -/
theorem numbered_eq_iff {ps qs : List Rtp.Packet} {s : Nat}
    (numbers : ps.map (fun p => p.seq.toNat) = (List.range' s ps.length).map (· % 65536))
    (numbers' : qs.map (fun p => p.seq.toNat) = (List.range' s qs.length).map (· % 65536)) :
    numbered ps = numbered qs ↔ ps.map Rtp.Packet.payload = qs.map Rtp.Packet.payload := by
  unfold numbered
  constructor
  · intro same
    have first := congrArg (List.map Prod.fst) same
    rwa [List.map_map, List.map_map] at first
  · intro payloads
    have length : ps.length = qs.length := by rw [← List.length_map Rtp.Packet.payload, payloads, List.length_map]
    rw [← List.zip_map', ← List.zip_map', payloads, numbers, numbers', length]

theorem packetizersAgree_iff_alike (ctx : RTPMuxContext) (aggregation : Int) {calls : List (Bytes × Int)}
    (some : ∀ c ∈ calls, c.1 ≠ []) : PacketizersAgree ctx aggregation calls ↔ Alike aggregation [] calls := by
  unfold PacketizersAgree Alike
  dsimp only
  have held : Waiting { initRTPMuxContext ctx with aggregation } [] := waiting_nil rfl
  have pending : Pending { initRTPMuxContext ctx with aggregation } [] := pending_nil rfl
  obtain ⟨y, fs, streamed, sent⟩ := sendAll_streamer held calls
  obtain ⟨qs, received, payloads, numbers, -⟩ := sent.packets (s := 0) rfl
  cases run : runPayloads 4 fragmentsOf aggregation [] calls with
  | none =>
    have overflow := sendAll_overflow rtpSendNALH265_sends pending some run
    rw [overflow]
    constructor
    · intro agree
      obtain ⟨_, _, _, _, _, _, sends, -⟩ := agree
      cases sends
    · intro alike
      obtain ⟨_, _, runs, -⟩ := alike
      cases runs
  | some r =>
    obtain ⟨out, kept⟩ := r
    obtain ⟨x, ds, sends, emitted, -⟩ := sendAll_emitted rtpSendNALH265_sends pending some run
    obtain ⟨ps, parsed, payloads', -, numbers', -⟩ :=
      datagrams_packets 0 0x12345678 out (show (0 : UInt32).toNat = 0 % 65536 from rfl)
    have parsed' : ds.mapM Rtp.parse = Option.some ps := by
      rw [emitted.datagrams]
      exact parsed
    have length : ps.length = out.length := by rw [← List.length_map Rtp.Packet.payload, payloads', List.length_map]
    have same := numbered_eq_iff (by rw [length]; exact numbers') numbers
    rw [payloads', payloads] at same
    constructor
    · intro agree
      obtain ⟨_, _, _, _, _, _, sends', streamed', parses, receives, equal⟩ := agree
      cases sends.symm.trans sends'
      cases streamed.symm.trans streamed'
      cases parsed'.symm.trans parses
      cases received.symm.trans receives
      exact ⟨out, kept, rfl, same.mp equal⟩
    · intro alike
      obtain ⟨_, _, whole, equal⟩ := alike
      cases whole
      exact ⟨x, ds, y, fs, ps, qs, sends, streamed, parsed', received, same.mpr equal⟩

/-! ### Payloads that cannot be the same -/

theorem stapOf_ne {b : UInt8} {p : Bytes} (waiting : List Bytes) (head : p.head? = some b) (other : H264.nalType b ≠ 24) :
    stapOf waiting ≠ p := by
  intro same
  rw [← same, stapOf] at head
  split at head
  · cases head
  · cases head
    exact other (H264.stapHeader_type waiting)

theorem apOf_head {units : List Bytes} (some : units ≠ []) : (apOf units).head? = Option.some 96 := by
  rw [apOf, if_neg some]
  rfl

theorem stapOf_ne_apOf (waiting : List Bytes) {units : List Bytes} (some : units ≠ []) : stapOf waiting ≠ apOf units :=
  stapOf_ne waiting (apOf_head some) (by decide)

theorem apOf_length {units : List Bytes} (some : units ≠ []) : (apOf units).length = (stapOf units).length + 1 := by
  rw [apOf, if_neg some, stapOf, if_neg some, Hevc.apPayload, H264.stapPayload, List.length_append, List.length_cons]
  exact Nat.add_comm 2 _

theorem fuPieces_head {front p : Bytes} {c : UInt8} {fs : List Bytes} (some : front ≠ []) (member : p ∈ fuPieces front c fs) :
    p.head? = front.head? := by
  obtain ⟨b, front, rfl⟩ := List.exists_cons_of_ne_nil some
  induction fs generalizing c with
  | nil => cases member
  | cons f fs ih =>
    cases fs with
    | nil => rw [List.mem_singleton.mp member]; rfl
    | cons g fs =>
      rcases List.mem_cons.mp member with rfl | later
      · rfl
      · exact ih later

theorem fragmentsOf_head {nal p : Bytes} (member : p ∈ fragmentsOf nal) : p.head? = some 98 := by
  unfold fragmentsOf at member
  split at member
  · rename_i h0 h1 data
    obtain ⟨-, -, -, -, -, -, -, clear, -⟩ := Hevc.typeField_bits h0
    rcases List.mem_cons.mp member with rfl | later
    · rfl
    · rw [fuRest_eq_fuPieces clear] at later
      exact fuPieces_head (List.cons_ne_nil _ _) later
  · cases member

section

variable {aggregation : Int} {waiting units kept kept' : List Bytes} {nal p : Bytes} {last : Int} {calls out : List (Bytes × Int)}

theorem nalPayloads_long (long : RTP_PAYLOAD_MAX < nal.length) : nalPayloads aggregation waiting nal last =
    ((if waiting = [] then [] else [apOf waiting]) ++ fragmentsOf nal, []) :=
  if_neg (Nat.not_le_of_lt long)

theorem nalPayloads_gap (gap : Stranding nal) : nalPayloads aggregation waiting nal last = ([nal], []) := by
  obtain ⟨above, small⟩ := gap
  unfold nalPayloads
  rw [if_pos (show nal.length ≤ RTP_PAYLOAD_MAX from small), if_neg]
  intro both
  have fits := both.2
  unfold RTP_PAYLOAD_MAX at fits
  omega

theorem nalPayloads_short (on : aggregation ≠ 0) (short : nal.length ≤ 1396) : nalPayloads aggregation waiting nal last =
    if last = 1 then ((if Full waiting nal then [apOf waiting] else []) ++
        [apOf ((if Full waiting nal then [] else waiting) ++ [nal])], [])
    else (if Full waiting nal then [apOf waiting] else [], (if Full waiting nal then [] else waiting) ++ [nal]) := by
  unfold nalPayloads
  rw [if_pos (by unfold RTP_PAYLOAD_MAX; omega), if_pos ⟨on, by unfold RTP_PAYLOAD_MAX; omega⟩]
  rfl

/-- `CStreamer` sends aggregation packets, fragments and, with aggregation, single units of the gap only. -/
theorem nalPayloads_forms (on : aggregation ≠ 0) (member : p ∈ (nalPayloads aggregation waiting nal last).1) :
    (∀ units, stapOf units ≠ p) ∨ p = nal ∧ Stranding nal := by
  have packed : ∀ {kept : List Bytes}, kept ≠ [] → p ∈ [apOf kept] → ∀ units, stapOf units ≠ p := by
    intro kept some inside units
    rw [List.mem_singleton.mp inside]
    exact stapOf_ne_apOf units some
  by_cases long : RTP_PAYLOAD_MAX < nal.length
  · rw [nalPayloads_long long] at member
    rcases List.mem_append.mp member with first | fragment
    · split at first
      · cases first
      · rename_i some
        exact .inl (packed some first)
    · exact .inl fun units => stapOf_ne units (fragmentsOf_head fragment) (by decide)
  by_cases short : nal.length ≤ 1396
  · rw [nalPayloads_short on short] at member
    have flushed : p ∈ (if Full waiting nal then [apOf waiting] else []) → ∀ units, stapOf units ≠ p := by
      intro inside
      split at inside
      · rename_i full
        exact packed full.1 inside
      · cases inside
    split at member
    · rcases List.mem_append.mp member with first | final
      · exact .inl (flushed first)
      · exact .inl (packed (List.append_ne_nil_of_right_ne_nil _ (List.cons_ne_nil _ _)) final)
    · exact .inl (flushed member)
  · have gap : Stranding nal := ⟨Nat.lt_of_not_le short, Nat.le_of_not_lt long⟩
    rw [nalPayloads_gap gap] at member
    exact .inr ⟨List.mem_singleton.mp member, gap⟩

theorem streamerPayloads_forms (on : aggregation ≠ 0) (member : p ∈ streamerPayloads aggregation waiting calls) :
    (∀ units, stapOf units ≠ p) ∨ ∃ c ∈ calls, p = c.1 ∧ Stranding c.1 := by
  induction calls generalizing waiting with
  | nil => cases member
  | cons c calls ih =>
    rcases List.mem_append.mp member with here | later
    · exact (nalPayloads_forms on here).imp_right fun unit => ⟨c, List.mem_cons_self, unit⟩
    · rcases ih later with other | ⟨c', inside, unit⟩
      · exact .inl other
      · exact .inr ⟨c', List.mem_cons_of_mem _ inside, unit⟩

/-- The sender of RTPEnc.cpp gets through no unit of 1398, 1399 or 1400 bytes. -/
theorem callPayloads_gap (on : aggregation ≠ 0) (waiting : List Bytes) (last : Int) (gap : 1397 < nal.length ∧ nal.length ≤ 1400) :
    callPayloads 4 fragmentsOf aggregation waiting nal last = none := by
  obtain ⟨above, below⟩ := gap
  have full : NoRoom 4 waiting nal := by
    unfold NoRoom RTP_PAYLOAD_MAX
    omega
  apply callPayloads_beyond below on
  rw [joined_length, if_pos (.inl full)]
  unfold RTP_PAYLOAD_MAX
  omega

theorem runPayloads_gap (on : aggregation ≠ 0) (run : runPayloads 4 fragmentsOf aggregation waiting calls = some (out, kept)) :
    ∀ c ∈ calls, ¬ (1397 < c.1.length ∧ c.1.length ≤ 1400) := by
  induction calls generalizing waiting out with
  | nil => exact fun _ member => absurd member List.not_mem_nil
  | cons c calls ih =>
    rw [runPayloads, Option.bind_eq_some_iff] at run
    obtain ⟨r, call, rest⟩ := run
    rw [Option.map_eq_some_iff] at rest
    obtain ⟨⟨out', kept'⟩, later, same⟩ := rest
    cases same
    refine List.forall_mem_cons.mpr ⟨fun gap => ?_, ih later⟩
    rw [callPayloads_gap on waiting c.2 gap] at call
    cases call

/-- If `CStreamer` sends a STAP-A of RTPEnc.cpp at all, it is a single unit of 1397 bytes. -/
theorem stapOf_sent (on : aggregation ≠ 0) (run : runPayloads 4 fragmentsOf aggregation kept calls = some (out, kept'))
    (member : stapOf units ∈ streamerPayloads aggregation waiting calls) : (stapOf units).length = 1397 := by
  rcases streamerPayloads_forms on member with other | ⟨c, inside, same, stranding⟩
  · exact absurd rfl (other units)
  · have free := runPayloads_gap on run c inside
    obtain ⟨above, small⟩ := stranding
    rw [same]
    omega

end

/-! ### The forms of a call -/

/-- The units all stay in the buffer of RTPEnc.cpp. The last of several leaves two bytes free, a single one leaves one. -/
def Waits (units : List Bytes) : Prop := (stapOf units).length ≤ if units.length ≤ 1 then 1399 else 1398

instance (units : List Bytes) : Decidable (Waits units) := inferInstanceAs (Decidable (_ ≤ _))

theorem waits_append (waiting : List Bytes) (nal : Bytes) : Waits (waiting ++ [nal]) ↔ ¬ NoRoom 4 waiting nal := by
  unfold Waits NoRoom RTP_PAYLOAD_MAX
  rw [stapOf_append_length, List.length_append, List.length_singleton]
  by_cases none : waiting = []
  · rw [none, if_pos (show ([] : List Bytes).length + 1 ≤ 1 from Nat.le_refl 1)]
    show 1 + 0 + 2 + nal.length ≤ 1399 ↔ ¬ 0 + 4 + nal.length > 1400
    omega
  · have some := List.length_pos_of_ne_nil none
    rw [if_neg (by omega), stapOf, if_neg none, H264.stapPayload, List.length_cons]
    omega

theorem Waits.front {xs ys : List Bytes} (waits : Waits (xs ++ ys)) : Waits xs := by
  unfold Waits at *
  by_cases none : xs = []
  · rw [none]
    decide
  have length : (stapOf xs).length ≤ (stapOf (xs ++ ys)).length := by
    rw [stapOf, if_neg none, stapOf, if_neg (List.append_ne_nil_of_left_ne_nil none _), H264.stapPayload, H264.stapPayload,
      Hevc.apBody_append, List.length_cons, List.length_cons, List.length_append]
    omega
  rw [List.length_append] at waits
  split at waits <;> split <;> omega

section

variable {aggregation : Int} {waiting : List Bytes} {nal : Bytes} {last : Int}

theorem callPayloads_room (on : aggregation ≠ 0) (room : ¬ NoRoom 4 waiting nal) :
    callPayloads 4 fragmentsOf aggregation waiting nal last =
      some (if last = 1 then [(stapOf (waiting ++ [nal]), 1)] else [], if last = 1 then [] else waiting ++ [nal]) := by
  have small : nal.length ≤ RTP_PAYLOAD_MAX := by
    unfold NoRoom at room
    omega
  have units : joined 4 waiting nal = waiting ++ [nal] := by rw [joined, if_neg room]
  have fits : (stapOf (waiting ++ [nal])).length ≤ RTP_PAYLOAD_MAX := by
    have waits := (waits_append waiting nal).mpr room
    unfold Waits at waits
    unfold RTP_PAYLOAD_MAX
    split at waits <;> omega
  rw [callPayloads_fits small on (by rwa [units]), units, if_neg room]
  rfl

theorem callPayloads_full (on : aggregation ≠ 0) (small : nal.length ≤ 1397) (full : NoRoom 4 waiting nal) :
    callPayloads 4 fragmentsOf aggregation waiting nal last =
      some ((stapOf waiting, 0) :: (if last = 1 then [(stapOf [nal], 1)] else []), if last = 1 then [] else [nal]) := by
  have units : joined 4 waiting nal = [nal] := by
    rw [joined, if_pos full]
    rfl
  have fits : (stapOf [nal]).length ≤ RTP_PAYLOAD_MAX := by
    rw [← units, joined_length, if_pos (.inl full)]
    unfold RTP_PAYLOAD_MAX
    omega
  rw [callPayloads_fits (by unfold RTP_PAYLOAD_MAX; omega) on (by rwa [units]), units, if_pos full]
  rfl

theorem not_full (room : ¬ NoRoom 4 waiting nal) : nal.length ≤ 1396 ∧ ¬ Full waiting nal := by
  unfold NoRoom RTP_PAYLOAD_MAX at room
  refine ⟨by omega, fun full => ?_⟩
  obtain ⟨some, beyond⟩ := full
  rw [apOf_length some] at beyond
  unfold RTP_PAYLOAD_MAX at beyond
  omega

theorem nalPayloads_room (on : aggregation ≠ 0) (room : ¬ NoRoom 4 waiting nal) : nalPayloads aggregation waiting nal last =
    (if last = 1 then [apOf (waiting ++ [nal])] else [], if last = 1 then [] else waiting ++ [nal]) := by
  obtain ⟨short, free⟩ := not_full room
  rw [nalPayloads_short on short]
  simp only [if_neg free]
  split <;> rfl

end

/-! ### Runs in step -/

/-- The calls in which nothing is sent that differs, with the units of `waiting` in both buffers. -/
inductive InStep : List Bytes → List (Bytes × Int) → Prop
  | done {waiting} : InStep waiting []
  | long {nal last calls} (long : RTP_PAYLOAD_MAX < nal.length) (rest : InStep [] calls) : InStep [] ((nal, last) :: calls)
  | waits {waiting nal last calls} (inner : last ≠ 1) (waits : Waits (waiting ++ [nal]))
      (rest : InStep (waiting ++ [nal]) calls) : InStep waiting ((nal, last) :: calls)
  -- `CStreamer` loses the units waiting, and its single unit happens to be the packet of them.
  | same {waiting nal last} (inner : last ≠ 1) (length : nal.length = 1397) (same : nal = stapOf waiting) :
      InStep waiting [(nal, last)]

section

variable {aggregation last : Int} {waiting : List Bytes} {nal : Bytes} {calls : List (Bytes × Int)}

theorem alike_cons {out1 : List (Bytes × Int)} {kept1 : List Bytes}
    (call : callPayloads 4 fragmentsOf aggregation waiting nal last = some (out1, kept1)) :
    Alike aggregation waiting ((nal, last) :: calls) ↔ ∃ out2 kept2,
      runPayloads 4 fragmentsOf aggregation kept1 calls = some (out2, kept2) ∧
      out1.map Prod.fst ++ out2.map Prod.fst = (nalPayloads aggregation waiting nal last).1 ++
        streamerPayloads aggregation (nalPayloads aggregation waiting nal last).2 calls := by
  unfold Alike
  rw [runPayloads, call, Option.bind_some]
  constructor
  · intro alike
    obtain ⟨out, kept, run, same⟩ := alike
    rw [Option.map_eq_some_iff] at run
    obtain ⟨⟨out2, kept2⟩, run, both⟩ := run
    cases both
    rw [List.map_append] at same
    exact ⟨out2, kept2, run, same⟩
  · intro alike
    obtain ⟨out2, kept2, run, same⟩ := alike
    refine ⟨out1 ++ out2, kept2, by rw [run]; rfl, ?_⟩
    rw [List.map_append]
    exact same

theorem alike_of_inStep (on : aggregation ≠ 0) (steps : InStep waiting calls) : Alike aggregation waiting calls := by
  induction steps with
  | done => exact ⟨[], _, rfl, rfl⟩
  | long long _ ih =>
    obtain ⟨out2, kept2, run, same⟩ := ih
    rw [alike_cons (callPayloads_long long), nalPayloads_long long]
    refine ⟨out2, kept2, run, ?_⟩
    rw [List.map_append, marked_fst, same]
    rfl
  | waits inner waits _ ih =>
    have room := (waits_append _ _).mp waits
    obtain ⟨out2, kept2, run, same⟩ := ih
    rw [alike_cons (callPayloads_room on room), nalPayloads_room on room]
    simp only [if_neg inner]
    exact ⟨out2, kept2, run, same⟩
  | @same waiting nal last inner length same =>
    have full : NoRoom 4 waiting nal := by
      unfold NoRoom RTP_PAYLOAD_MAX
      rw [← same]
      omega
    rw [alike_cons (callPayloads_full on (Nat.le_of_eq length) full), nalPayloads_gap ⟨by omega, by omega⟩]
    refine ⟨[], _, rfl, ?_⟩
    rw [if_neg inner, ← same]
    rfl

/-- A full buffer is the first thing that RTPEnc.cpp sends. -/
theorem runPayloads_first (on : aggregation ≠ 0) {out : List (Bytes × Int)} {kept : List Bytes}
    (full : RTP_PAYLOAD_MAX ≤ (stapOf waiting).length) (some : calls ≠ [])
    (run : runPayloads 4 fragmentsOf aggregation waiting calls = Option.some (out, kept)) : stapOf waiting ∈ out.map Prod.fst := by
  obtain ⟨c, calls, rfl⟩ := List.exists_cons_of_ne_nil some
  rw [runPayloads, Option.bind_eq_some_iff] at run
  obtain ⟨⟨out1, kept1⟩, call, rest⟩ := run
  rw [Option.map_eq_some_iff] at rest
  obtain ⟨⟨out2, kept2⟩, -, same⟩ := rest
  cases same
  rw [List.map_append]
  apply List.mem_append_left
  by_cases small : c.1.length ≤ RTP_PAYLOAD_MAX
  · have noRoom : NoRoom 4 waiting c.1 := by
      unfold NoRoom
      omega
    by_cases free : c.1.length ≤ 1397
    · rw [callPayloads_full on free noRoom] at call
      cases call
      exact List.mem_cons_self
    · rw [callPayloads_gap on waiting c.2 ⟨by omega, small⟩] at call
      cases call
  · have some : waiting ≠ [] := by
      intro none
      rw [none] at full
      cases full
    rw [callPayloads_long (Nat.lt_of_not_le small), if_neg some] at call
    cases call
    exact List.mem_cons_self

/-- What waits would be sent first, behind different headers. -/
theorem alike_long (long : RTP_PAYLOAD_MAX < nal.length) (alike : Alike aggregation waiting ((nal, last) :: calls)) :
    waiting = [] ∧ Alike aggregation [] calls := by
  rw [alike_cons (callPayloads_long long), nalPayloads_long long] at alike
  obtain ⟨out2, kept2, run, same⟩ := alike
  by_cases none : waiting = []
  · rw [List.map_append, marked_fst, none] at same
    exact ⟨none, out2, kept2, run, List.append_cancel_left same⟩
  · rw [if_neg none, if_neg none] at same
    exact absurd (List.cons.inj same).1 (stapOf_ne_apOf waiting none)

theorem alike_room (on : aggregation ≠ 0) (room : ¬ NoRoom 4 waiting nal)
    (alike : Alike aggregation waiting ((nal, last) :: calls)) : last ≠ 1 ∧ Alike aggregation (waiting ++ [nal]) calls := by
  rw [alike_cons (callPayloads_room on room), nalPayloads_room on room] at alike
  obtain ⟨out2, kept2, run, same⟩ := alike
  have joins : waiting ++ [nal] ≠ [] := List.append_ne_nil_of_right_ne_nil _ (List.cons_ne_nil _ _)
  by_cases final : last = 1
  · rw [if_pos final, if_pos final] at same
    exact absurd (List.cons.inj same).1 (stapOf_ne_apOf _ joins)
  · simp only [if_neg final] at run same
    exact ⟨final, out2, kept2, run, same⟩

/-- RTPEnc.cpp sends its buffer for a unit that `CStreamer` still has room for. -/
theorem not_alike_short (on : aggregation ≠ 0) (nonempty : nal ≠ []) (short : nal.length ≤ 1396) (full : NoRoom 4 waiting nal) :
    ¬ Alike aggregation waiting ((nal, last) :: calls) := by
  have positive : 0 < nal.length := List.length_pos_of_ne_nil nonempty
  rw [alike_cons (callPayloads_full on (Nat.le_succ_of_le short) full), nalPayloads_short on short]
  intro alike
  obtain ⟨out2, kept2, run, same⟩ := alike
  by_cases crowded : Full waiting nal
  · simp only [if_pos crowded] at same
    split at same <;> exact absurd (List.cons.inj same).1 (stapOf_ne_apOf waiting crowded.1)
  simp only [if_neg crowded] at same
  by_cases final : last = 1
  · rw [if_pos final, if_pos final] at same
    have joins : waiting ++ [nal] ≠ [] := List.append_ne_nil_of_right_ne_nil _ (List.cons_ne_nil _ _)
    exact absurd (List.cons.inj same).1 (stapOf_ne_apOf waiting joins)
  rw [if_neg final, if_neg final] at same
  rw [if_neg final] at run
  have first : stapOf waiting :: out2.map Prod.fst = streamerPayloads aggregation (waiting ++ [nal]) calls := same
  have length := stapOf_sent on run (first ▸ List.mem_cons_self)
  have some : waiting ≠ [] := by
    intro none
    rw [none] at length
    cases length
  have free : ¬ (apOf waiting).length + 2 + nal.length > RTP_PAYLOAD_MAX := fun beyond => crowded ⟨some, beyond⟩
  rw [apOf_length some] at free
  unfold RTP_PAYLOAD_MAX at free
  omega

/-- `CStreamer` sends the unit, which has to be the packet of those waiting. With it the buffer of RTPEnc.cpp is full. -/
theorem alike_unit (on : aggregation ≠ 0) (length : nal.length = 1397) (alike : Alike aggregation waiting ((nal, last) :: calls)) :
    last ≠ 1 ∧ nal = stapOf waiting ∧ calls = [] := by
  have full : NoRoom 4 waiting nal := by
    unfold NoRoom RTP_PAYLOAD_MAX
    omega
  rw [alike_cons (callPayloads_full on (Nat.le_of_eq length) full), nalPayloads_gap ⟨by omega, by omega⟩] at alike
  obtain ⟨out2, kept2, run, same⟩ := alike
  obtain ⟨here, rest⟩ := List.cons.inj same
  have second : (stapOf [nal]).length = 1400 := by
    rw [show [nal] = [] ++ [nal] from rfl, stapOf_append_length, length]
    rfl
  by_cases final : last = 1
  · rw [if_pos final] at rest run
    have later : stapOf [nal] :: out2.map Prod.fst = streamerPayloads aggregation [] calls := rest
    have other := stapOf_sent on run (later ▸ List.mem_cons_self)
    omega
  · rw [if_neg final] at rest run
    refine ⟨final, here.symm, ?_⟩
    by_contra more
    have later : out2.map Prod.fst = streamerPayloads aggregation [] calls := rest
    have sent := runPayloads_first on (Nat.le_of_eq second.symm) more run
    have other := stapOf_sent on run (later ▸ sent)
    omega

theorem inStep_of_alike (on : aggregation ≠ 0) (units : ∀ c ∈ calls, c.1 ≠ []) (alike : Alike aggregation waiting calls) :
    InStep waiting calls := by
  induction calls generalizing waiting with
  | nil => exact .done
  | cons c calls ih =>
    obtain ⟨nal, last⟩ := c
    obtain ⟨nonempty, units⟩ := List.forall_mem_cons.mp units
    by_cases long : RTP_PAYLOAD_MAX < nal.length
    · obtain ⟨rfl, rest⟩ := alike_long long alike
      exact .long long (ih units rest)
    by_cases room : NoRoom 4 waiting nal
    · by_cases gap : 1397 < nal.length
      · obtain ⟨_, _, run, -⟩ := alike
        exact absurd ⟨gap, Nat.le_of_not_lt long⟩ (runPayloads_gap on run _ List.mem_cons_self)
      by_cases short : nal.length ≤ 1396
      · exact absurd alike (not_alike_short on nonempty short room)
      · have length : nal.length = 1397 := by omega
        obtain ⟨inner, same, rfl⟩ := alike_unit on length alike
        exact .same inner length same
    · obtain ⟨inner, rest⟩ := alike_room on room alike
      exact .waits inner ((waits_append waiting nal).mpr room) (ih units rest)

end

/-! ### The lists of calls in step -/

/-- Units of more than a payload, then units that all wait, and with them at most one unit of `CStreamer` that happens
to be the packet of those waiting. -/
def StaysInStep (calls : List (Bytes × Int)) : Prop :=
  ∃ longs rest, (∀ c ∈ longs, RTP_PAYLOAD_MAX < c.1.length) ∧ (∀ c ∈ rest, c.2 ≠ 1) ∧ Waits (rest.map Prod.fst) ∧
    (calls = longs ++ rest ∨ ∃ nal last, last ≠ 1 ∧ nal.length = 1397 ∧ nal = stapOf (rest.map Prod.fst) ∧
      calls = longs ++ (rest ++ [(nal, last)]))

section

variable {waiting : List Bytes} {calls rest : List (Bytes × Int)}

theorem inStep_longs {longs : List (Bytes × Int)} (long : ∀ c ∈ longs, RTP_PAYLOAD_MAX < c.1.length)
    (steps : InStep [] calls) : InStep [] (longs ++ calls) := by
  induction longs with
  | nil => exact steps
  | cons c longs ih =>
    rw [List.forall_mem_cons] at long
    exact .long long.1 (ih long.2)

theorem inStep_rest (inner : ∀ c ∈ rest, c.2 ≠ 1) (waits : Waits (waiting ++ rest.map Prod.fst))
    (later : InStep (waiting ++ rest.map Prod.fst) calls) : InStep waiting (rest ++ calls) := by
  induction rest generalizing waiting with
  | nil => rwa [List.map_nil, List.append_nil] at later
  | cons c rest ih =>
    rw [List.forall_mem_cons] at inner
    rw [List.map_cons, List.append_cons] at waits later
    exact .waits inner.1 waits.front (ih inner.2 waits later)

theorem inStep_of_stays (stays : StaysInStep calls) : InStep [] calls := by
  obtain ⟨longs, rest, long, inner, waits, forms⟩ := stays
  rcases forms with same | ⟨nal, last, other, length, packet, same⟩
  · rw [same, ← List.append_nil rest]
    exact inStep_longs long (inStep_rest inner waits .done)
  · rw [same]
    exact inStep_longs long (inStep_rest inner waits (.same other length packet))

/-- Once units wait, no unit of more than a payload comes. -/
theorem forms_of_inStep (steps : InStep waiting calls) :
    ∃ longs rest, (waiting ≠ [] → longs = []) ∧ (∀ c ∈ longs, RTP_PAYLOAD_MAX < c.1.length) ∧ (∀ c ∈ rest, c.2 ≠ 1) ∧
      (rest ≠ [] → Waits (waiting ++ rest.map Prod.fst)) ∧
      (calls = longs ++ rest ∨ ∃ nal last, last ≠ 1 ∧ nal.length = 1397 ∧ nal = stapOf (waiting ++ rest.map Prod.fst) ∧
        calls = longs ++ (rest ++ [(nal, last)])) := by
  induction steps with
  | done =>
    exact ⟨[], [], fun _ => rfl, List.forall_mem_nil _, List.forall_mem_nil _, fun some => absurd rfl some, .inl rfl⟩
  | @long nal last calls long _ ih =>
    obtain ⟨longs, rest, -, longer, inner, waits, forms⟩ := ih
    refine ⟨(nal, last) :: longs, rest, fun some => absurd rfl some, List.forall_mem_cons.mpr ⟨long, longer⟩, inner, waits, ?_⟩
    rcases forms with same | ⟨unit, final, other, length, packet, same⟩
    · exact .inl (by rw [same, List.cons_append])
    · exact .inr ⟨unit, final, other, length, packet, by rw [same, List.cons_append]⟩
  | @waits waiting nal last calls inner here _ ih =>
    obtain ⟨longs, rest, none, -, others, waits, forms⟩ := ih
    obtain rfl := none (List.append_ne_nil_of_right_ne_nil _ (List.cons_ne_nil _ _))
    rw [← List.append_cons] at waits forms
    refine ⟨[], (nal, last) :: rest, fun _ => rfl, List.forall_mem_nil _, List.forall_mem_cons.mpr ⟨inner, others⟩, fun _ => ?_, ?_⟩
    · by_cases some : rest = []
      · rw [some]
        exact here
      · exact waits some
    · rcases forms with same | ⟨unit, final, other, length, packet, same⟩
      · exact .inl (by rw [same]; rfl)
      · exact .inr ⟨unit, final, other, length, packet, by rw [same]; rfl⟩
  | @same waiting nal last inner length packet =>
    refine ⟨[], [], fun _ => rfl, List.forall_mem_nil _, List.forall_mem_nil _, fun some => absurd rfl some, .inr ?_⟩
    exact ⟨nal, last, inner, length, by rw [List.map_nil, List.append_nil]; exact packet, rfl⟩

theorem stays_of_inStep (steps : InStep [] calls) : StaysInStep calls := by
  obtain ⟨longs, rest, -, long, inner, waits, forms⟩ := forms_of_inStep steps
  refine ⟨longs, rest, long, inner, ?_, forms⟩
  by_cases none : rest = []
  · rw [none]
    decide
  · exact waits none

end

/-! ### Without aggregation -/

theorem alike_off (calls : List (Bytes × Int)) : Alike 0 [] calls := by
  induction calls with
  | nil => exact ⟨[], [], rfl, rfl⟩
  | cons c calls ih =>
    obtain ⟨nal, last⟩ := c
    obtain ⟨out, kept, run, same⟩ := ih
    by_cases small : nal.length ≤ RTP_PAYLOAD_MAX
    · have call : callPayloads 4 fragmentsOf 0 [] nal last = some ([(nal, last)], []) :=
        callPayloads_single small fun on => on rfl
      have single : nalPayloads 0 [] nal last = ([nal], []) := by
        unfold nalPayloads
        rw [if_pos small, if_neg (fun on => on.1 rfl)]
      rw [alike_cons call, single]
      exact ⟨out, kept, run, congrArg (nal :: ·) same⟩
    · have long := Nat.lt_of_not_le small
      rw [alike_cons (callPayloads_long long), nalPayloads_long long]
      refine ⟨out, kept, run, ?_⟩
      rw [List.map_append, marked_fst, same]
      rfl

/-! ### The agreement -/

section

variable {calls : List (Bytes × Int)}

theorem ne_nil_of_units (units : ∀ c ∈ calls, 2 ≤ c.1.length) : ∀ c ∈ calls, c.1 ≠ [] :=
  fun c member => List.ne_nil_of_length_pos (Nat.lt_of_lt_of_le Nat.zero_lt_two (units c member))

/-- The two H.265 senders agree without aggregation, and else on the lists of calls in step only. -/
theorem packetizersAgree_iff (ctx : RTPMuxContext) (aggregation : Int) (units : ∀ c ∈ calls, 2 ≤ c.1.length) :
    PacketizersAgree ctx aggregation calls ↔ aggregation = 0 ∨ StaysInStep calls := by
  have nonempty := ne_nil_of_units units
  rw [packetizersAgree_iff_alike ctx aggregation nonempty]
  by_cases off : aggregation = 0
  · rw [off]
    exact iff_of_true (alike_off calls) (.inl rfl)
  · constructor
    · intro alike
      exact .inr (stays_of_inStep (inStep_of_alike off nonempty alike))
    · intro either
      rcases either with none | stays
      · exact absurd none off
      · exact alike_of_inStep off (inStep_of_stays stays)

end

theorem packetizersAgree_iff_two :
    let calls : List (Bytes × Int) := [([0x40, 1], 0), ([0x42, 1], 1)]
    (∀ c ∈ calls, 2 ≤ c.1.length) ∧
      (PacketizersAgree ⟨.zero _, .zero _, 0, 0, 0, 0, 0, 0⟩ 1 calls ↔ (1 : Int) = 0 ∨ StaysInStep calls) :=
  have units : ∀ c ∈ ([([0x40, 1], 0), ([0x42, 1], 1)] : List (Bytes × Int)), 2 ≤ c.1.length := by decide
  ⟨units, packetizersAgree_iff ⟨.zero _, .zero _, 0, 0, 0, 0, 0, 0⟩ 1 units⟩

/-- RTPEnc.cpp puts the header of a STAP-A in front of the parameter set, `CStreamer` that of an aggregation packet. -/
theorem not_packetizersAgree_one :
    (∀ c ∈ [(([0x40, 1] : Bytes), (1 : Int))], 2 ≤ c.1.length) ∧
      ¬ PacketizersAgree ⟨.zero _, .zero _, 0, 0, 0, 0, 0, 0⟩ 1 [([0x40, 1], 1)] := by
  have units : ∀ c ∈ [(([0x40, 1] : Bytes), (1 : Int))], 2 ≤ c.1.length := by decide
  refine ⟨units, fun agree => ?_⟩
  rw [packetizersAgree_iff_alike _ _ (ne_nil_of_units units)] at agree
  have steps := inStep_of_alike Int.one_ne_zero (ne_nil_of_units units) agree
  cases steps with
  | long long => exact absurd long (by decide)
  | waits inner => exact inner rfl
  | same inner => exact inner rfl

end RtspServer.RTPEnc
