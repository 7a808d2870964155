import RtspServer.Media.H264Stream
import RtspServer.Media.HevcSender
import RtspServer.Media.SafeSplitting

/-!
# The loop over the units of a buffer

`rtpSendH264AVC` and `rtpSendH265HEVC` are one loop with their own sender and
clock. On every buffer the loop sends the units of one decomposition of it, and
it reads nothing outside the buffer.
-/

namespace RtspServer

/-! ### The units of a byte string -/

/-- The units of a text that begins with a start code. A unit goes up to the next boundary. -/
def unitsFrom : Nat → Bytes → List NalUnit
  | 0, _ => []
  | fuel + 1, t =>
    if t = [] then []
    else
      let code : StartCode := if CodeAt t 0 then .three else .four
      let rest := t.drop code.bytes.length
      ⟨code, rest.take (boundary rest)⟩ :: unitsFrom fuel (rest.drop (boundary rest))

/-- The units of a byte string. What stands in front of the first start code belongs to none. -/
def unitsIn (t : Bytes) : List NalUnit := unitsFrom t.length (t.drop (boundary t))

/-- `us` are the units of `t`, which begins with a start code or is empty. -/
inductive Splits : Bytes → List NalUnit → Prop
  | done : Splits [] []
  | unit (code : StartCode) {rest : Bytes} {us : List NalUnit} (room : rest ≠ [])
      (more : Splits (rest.drop (boundary rest)) us) : Splits (code.bytes ++ rest) (⟨code, rest.take (boundary rest)⟩ :: us)

theorem StartCode.bytes_pos (code : StartCode) : 3 ≤ code.bytes.length := by
  cases code <;> decide

/-- At its boundary a text ends, or has its first start code that has a byte behind it. -/
theorem drop_boundary (t : Bytes) :
    (∀ i, i + 3 < t.length → ¬ CodeAt t i) ∧ t.drop (boundary t) = [] ∨
      ∃ (i : Nat) (code : StartCode), i + 3 < t.length ∧ CodeAt t i ∧ (∀ j < i, ¬ CodeAt t j) ∧
        t.drop (boundary t) = code.bytes ++ t.drop (i + 3) := by
  rcases boundary_cases t with ⟨none, same⟩ | ⟨i, room, hit, first, same⟩
  · rw [same, List.drop_length]
    exact .inl ⟨none, rfl⟩
  · rw [same]
    split
    · rename_i zero
      obtain ⟨positive, zero⟩ := zero
      refine .inr ⟨i, .four, room, hit, first, ?_⟩
      rw [List.drop_eq_getElem?_toList_append, zero, Nat.sub_add_cancel positive, hit.drop]
      rfl
    · exact .inr ⟨i, .three, room, hit, first, hit.drop⟩

theorem boundary_front (t : Bytes) :
    t.drop (boundary t) = [] ∨ ∃ (code : StartCode) (rest : Bytes), t.drop (boundary t) = code.bytes ++ rest ∧ rest ≠ [] := by
  rcases drop_boundary t with ⟨-, none⟩ | ⟨i, code, room, -, -, found⟩
  · exact .inl none
  · refine .inr ⟨code, t.drop (i + 3), found, List.ne_nil_of_length_pos ?_⟩
    rw [List.length_drop]
    omega

theorem codeAt_code (code : StartCode) (rest : Bytes) :
    (if CodeAt (code.bytes ++ rest) 0 then StartCode.three else .four) = code := by
  cases code with
  | three => exact if_pos (codeAt_three rest)
  | four => exact if_neg (not_codeAt_four rest)

theorem unitsFrom_splits {fuel : Nat} {t : Bytes}
    (front : t = [] ∨ ∃ (code : StartCode) (rest : Bytes), t = code.bytes ++ rest ∧ rest ≠ []) (enough : t.length ≤ fuel) :
    Splits t (unitsFrom fuel t) := by
  induction fuel generalizing t with
  | zero =>
    rw [List.eq_nil_of_length_eq_zero (Nat.le_zero.mp enough)]
    exact .done
  | succ fuel ih =>
    rcases front with rfl | ⟨code, rest, rfl, room⟩
    · exact .done
    · have positive := code.bytes_pos
      rw [List.length_append] at enough
      have some : code.bytes ++ rest ≠ [] := List.append_ne_nil_of_right_ne_nil _ room
      rw [unitsFrom, if_neg some]
      simp only [codeAt_code, List.drop_left]
      apply Splits.unit code room
      apply ih (boundary_front rest)
      rw [List.length_drop]
      omega

theorem unitsIn_splits (t : Bytes) : Splits (t.drop (boundary t)) (unitsIn t) := by
  apply unitsFrom_splits (boundary_front t)
  rw [List.length_drop]
  exact Nat.sub_le _ _

theorem Splits.bytes {t : Bytes} {us : List NalUnit} (h : Splits t us) : annexB us = t := by
  induction h with
  | done => rfl
  | unit code room more ih => rw [annexB_cons, ih, NalUnit.bytes, List.append_assoc, List.take_append_drop]

/-- Nothing is lost of a buffer but what stands in front of its first start code. -/
theorem unitsIn_bytes (t : Bytes) : t.take (boundary t) ++ annexB (unitsIn t) = t := by
  rw [(unitsIn_splits t).bytes, List.take_append_drop]

theorem Splits.nonempty {t : Bytes} {us : List NalUnit} (h : Splits t us) : us = [] ↔ t = [] := by
  cases h with
  | done => exact iff_of_true rfl rfl
  | unit code room more =>
    exact iff_of_false (List.cons_ne_nil _ _) (List.append_ne_nil_of_right_ne_nil _ room)

theorem codeless_of_boundary {t : Bytes} (inner : boundary t < t.length) : ¬ [0, 0, 1] <:+: t.take (boundary t) := by
  rintro ⟨front, back, same⟩
  have hit : CodeAt (t.take (boundary t)) front.length := by
    rw [← same, List.append_assoc]
    exact codeAt_append_right (codeAt_three back)
  have length := congrArg List.length same
  simp only [List.length_append, List.length_take, List.length_cons, List.length_nil] at length
  have inside : CodeAt t front.length := by
    rw [← List.take_append_drop (boundary t) t]
    exact (codeAt_append_left (by rw [List.length_take]; omega)).mpr hit
  rcases boundary_cases t with ⟨-, end_⟩ | ⟨i, room, -, first, found⟩
  · omega
  · have below : boundary t ≤ i := by rw [found]; split <;> omega
    exact first front.length (by omega) inside

/-- Every unit but the last one is free of start codes. -/
theorem Splits.codeless {t : Bytes} {us : List NalUnit} (h : Splits t us) : ∀ u ∈ us.dropLast, ¬ [0, 0, 1] <:+: u.nal := by
  induction h with
  | done => exact fun u member => absurd member List.not_mem_nil
  | @unit code rest us room more ih =>
    by_cases last : us = []
    · rw [last]
      exact fun u member => absurd member List.not_mem_nil
    · rw [List.dropLast_cons_of_ne_nil last, List.forall_mem_cons]
      refine ⟨codeless_of_boundary ?_, ih⟩
      have behind := mt more.nonempty.mpr last
      have positive := List.length_pos_of_ne_nil behind
      rw [List.length_drop] at positive
      omega

/-- A start code stands at the very end, if at all. -/
def CodeAtEnd (t : Bytes) : Prop := ∀ i, CodeAt t i → i + 3 = t.length

/-- What stands in front of the first start code, and the units behind it. -/
def piecesOf (t : Bytes) : List Bytes := t.take (boundary t) :: (unitsIn t).map NalUnit.nal

theorem codeAtEnd_boundary (t : Bytes) : CodeAtEnd (t.take (boundary t)) := by
  intro i hit
  rcases boundary_cases t with ⟨none, same⟩ | ⟨k, room, -, -, same⟩
  · rw [same, List.take_length] at hit ⊢
    have inside := (List.getElem?_eq_some_iff.mp hit.2.2).1
    have last := mt (none i) (not_not.mpr hit)
    omega
  · have inner : boundary t < t.length := by rw [same]; split <;> omega
    exact absurd (infix_of_codeAt hit) (codeless_of_boundary inner)

theorem Splits.codeAtEnd {t : Bytes} {us : List NalUnit} (h : Splits t us) : ∀ u ∈ us, CodeAtEnd u.nal := by
  induction h with
  | done => exact fun u member => absurd member List.not_mem_nil
  | unit code room more ih => exact List.forall_mem_cons.mpr ⟨codeAtEnd_boundary _, ih⟩

/-- No start code is left in the pieces, but at the end of the last one. -/
theorem piecesOf_codes (t : Bytes) :
    (∀ x ∈ (piecesOf t).dropLast, ¬ [0, 0, 1] <:+: x) ∧ ∀ x ∈ piecesOf t, CodeAtEnd x := by
  have splits := unitsIn_splits t
  have ends : ∀ x ∈ piecesOf t, CodeAtEnd x :=
    List.forall_mem_cons.mpr ⟨codeAtEnd_boundary t, List.forall_mem_map.mpr splits.codeAtEnd⟩
  refine ⟨?_, ends⟩
  unfold piecesOf
  by_cases none : unitsIn t = []
  · rw [none]
    exact fun x member => absurd member List.not_mem_nil
  · have inner : boundary t < t.length := by
      have behind := List.length_pos_of_ne_nil (mt splits.nonempty.mpr none)
      rw [List.length_drop] at behind
      omega
    rw [List.dropLast_cons_of_ne_nil (by simpa using none), ← List.map_dropLast]
    exact List.forall_mem_cons.mpr ⟨codeless_of_boundary inner, List.forall_mem_map.mpr splits.codeless⟩

theorem Splits.unique {t : Bytes} {us vs : List NalUnit} (h : Splits t us) (other : Splits t vs) : us = vs := by
  have front {code code' : StartCode} {rest rest' : Bytes} (same : code.bytes ++ rest = code'.bytes ++ rest') :
      code = code' ∧ rest = rest' := by
    have codes := codeAt_code code rest
    rw [same, codeAt_code] at codes
    subst codes
    exact ⟨rfl, List.append_cancel_left same⟩
  induction h generalizing vs with
  | done =>
    generalize none : ([] : Bytes) = t at other
    cases other with
    | done => rfl
    | unit code room more => exact absurd none.symm (List.append_ne_nil_of_right_ne_nil _ room)
  | @unit code rest us room more ih =>
    generalize text : code.bytes ++ rest = t at other
    cases other with
    | done => exact absurd text (List.append_ne_nil_of_right_ne_nil _ room)
    | unit code' room' more' =>
      obtain ⟨rfl, rfl⟩ := front text
      rw [ih more']

/-- A unit ends where the next start code begins. -/
theorem boundary_unit {nal : Bytes} {us : List NalUnit} (unit : IsUnit nal) (units : ∀ u ∈ us, IsUnit u.nal) :
    boundary (nal ++ annexB us) = nal.length := by
  have held := Segment.holds_base ⟨0, nal ++ annexB us⟩
  have found := find_startcode_boundary held held.limit.symm
  have next := RTPEnc.find_boundary (u := ⟨.three, nal⟩) (List.forall_mem_cons.mpr ⟨unit, units⟩) held
  rw [found] at next
  exact Nat.add_left_cancel (Option.some.inj next)

theorem splits_annexB {us : List NalUnit} (units : ∀ u ∈ us, IsUnit u.nal) : Splits (annexB us) us := by
  induction us with
  | nil => exact .done
  | cons u us ih =>
    rw [List.forall_mem_cons] at units
    have length := boundary_unit units.1 units.2
    have room : u.nal ++ annexB us ≠ [] := List.append_ne_nil_of_left_ne_nil units.1.nonempty _
    have more : Splits ((u.nal ++ annexB us).drop (boundary (u.nal ++ annexB us))) us := by
      rw [length, List.drop_left]
      exact ih units.2
    have split := Splits.unit u.code room more
    rw [length, List.take_left] at split
    rw [annexB_cons, NalUnit.bytes, List.append_assoc]
    exact split

theorem not_codeAt_front {front rest : Bytes} (codeless : ¬ [0, 0, 1] <:+: front) (code : StartCode) {i : Nat}
    (lt : i + 3 < front.length + code.bytes.length) : ¬ CodeAt (front ++ (code.bytes ++ rest)) i := by
  intro hit
  by_cases inner : i + 2 < front.length
  · exact codeless (infix_of_codeAt ((codeAt_append_left inner).mp hit))
  · -- The third byte is one of the zeros of the code.
    obtain ⟨-, -, one⟩ := hit
    rw [List.getElem?_append_right (Nat.le_of_not_lt inner)] at one
    have zeros : ∀ k, k + 1 < code.bytes.length → (code.bytes ++ rest)[k]? = some 0 := by
      intro k inside
      rw [List.getElem?_append_left (by omega)]
      cases code with
      | three => match k, inside with | 0, _ | 1, _ => rfl
      | four => match k, inside with | 0, _ | 1, _ | 2, _ => rfl
    rw [zeros _ (by omega)] at one
    cases one

/-- The first start code is the one behind the front; it may take a zero from there. -/
theorem drop_boundary_code {front rest : Bytes} (codeless : ¬ [0, 0, 1] <:+: front) (code : StartCode) (some : rest ≠ []) :
    ∃ code' : StartCode, (front ++ (code.bytes ++ rest)).drop (boundary (front ++ (code.bytes ++ rest))) = code'.bytes ++ rest := by
  have positive := code.bytes_pos
  have room := List.length_pos_of_ne_nil some
  let k := front.length + (code.bytes.length - 3)
  have hit : CodeAt (front ++ (code.bytes ++ rest)) k := by
    apply codeAt_append_right
    cases code with
    | three => exact codeAt_three _
    | four => exact codeAt_four _
  have length : (front ++ (code.bytes ++ rest)).length = k + 3 + rest.length := by
    simp only [List.length_append, k]
    omega
  rcases drop_boundary (front ++ (code.bytes ++ rest)) with ⟨none, -⟩ | ⟨i, code', -, found, first, behind⟩
  · exact absurd hit (none k (by omega))
  · have here : i = k := by
      have late : ¬ k < i := fun early => first k early hit
      have early : ¬ i < k := fun lt => not_codeAt_front codeless code (by omega) found
      omega
    have rest' : (front ++ (code.bytes ++ rest)).drop (i + 3) = rest := by
      rw [here, ← List.append_assoc]
      exact List.drop_left' (by rw [List.length_append]; omega)
    exact ⟨code', by rw [behind, rest']⟩

/-- The units of a byte stream come back, also behind bytes that belong to none. -/
theorem unitsIn_annexB {front : Bytes} {us : List NalUnit} (codeless : ¬ [0, 0, 1] <:+: front) (units : ∀ u ∈ us, IsUnit u.nal) :
    (unitsIn (front ++ annexB us)).map NalUnit.nal = us.map NalUnit.nal := by
  have whole := unitsIn_splits (front ++ annexB us)
  cases us with
  | nil =>
    rcases drop_boundary (front ++ annexB []) with ⟨-, none⟩ | ⟨i, code, -, hit, -⟩
    · rw [whole.nonempty.mpr none]
    · rw [show front ++ annexB [] = front from List.append_nil front] at hit
      exact absurd (infix_of_codeAt hit) codeless
  | cons u us =>
    have text : annexB (u :: us) = u.code.bytes ++ (u.nal ++ annexB us) := by
      rw [annexB_cons, NalUnit.bytes, List.append_assoc]
    have some : u.nal ++ annexB us ≠ [] := List.append_ne_nil_of_left_ne_nil (units u List.mem_cons_self).nonempty _
    obtain ⟨code, behind⟩ := drop_boundary_code codeless u.code some
    rw [text, behind, ← List.append_assoc] at whole
    have units' : ∀ w ∈ (⟨code, u.nal⟩ :: us : List NalUnit), IsUnit w.nal :=
      List.forall_mem_cons.mpr (List.forall_mem_cons.mp units)
    rw [text, whole.unique (splits_annexB units')]
    rfl

/-! ### The loop -/

namespace RTPEnc

/-- The loop of both senders, with the sender of a unit and the ticks between two units. -/
def sendUnitsBy (send : RTPMuxContext → Bytes → Int → Option (RTPMuxContext × List Bytes)) (ticks : UInt32) (m : Segment)
    (last : Nat) : Nat → RTPMuxContext → Nat → Option (RTPMuxContext × List Bytes)
  | 0, ctx, r => if r < last then none else some (ctx, [])
  | fuel + 1, ctx, r =>
    if r < last then do
      let r ← skipStartcode m r
      let r1 ← ff_avc_find_startcode m r last
      if r1 < r then none
      let (ctx, ds) ← send ctx (← m.slice r (r1 - r)) (if r1 = last then 1 else 0)
      let (ctx, more) ← sendUnitsBy send ticks m last fuel { ctx with timestamp := ctx.timestamp + ticks } r1
      return (ctx, ds ++ more)
    else some (ctx, [])

def sendBufferBy (send : RTPMuxContext → Bytes → Int → Option (RTPMuxContext × List Bytes)) (ticks : UInt32) (m : Segment)
    (ctx : RTPMuxContext) (buf : Nat) (size : Int) : Option (RTPMuxContext × List Bytes) :=
  if buf = 0 ∨ size ≤ 0 then some (ctx, [])
  else do
    let last := buf + size.toNat
    let r ← ff_avc_find_startcode m buf last
    sendUnitsBy send ticks m last size.toNat ctx r

/-- `timestamp += 90000.0 / 30`. -/
def rtpSendH265HEVC (m : Segment) (ctx : RTPMuxContext) (buf : Nat) (size : Int) : Option (RTPMuxContext × List Bytes) :=
  sendBufferBy rtpSendNALH265 3000 m ctx buf size

theorem sendUnits_eq (m : Segment) (last fuel : Nat) (ctx : RTPMuxContext) (r : Nat) :
    sendUnits m last fuel ctx r = sendUnitsBy rtpSendNALH264AVC 3600 m last fuel ctx r := by
  induction fuel generalizing ctx r with
  | zero => rfl
  | succ fuel ih =>
    rw [sendUnits, sendUnitsBy]
    simp only [ih]

theorem rtpSendH264AVC_eq (m : Segment) (ctx : RTPMuxContext) (buf : Nat) (size : Int) :
    rtpSendH264AVC m ctx buf size = sendBufferBy rtpSendNALH264AVC 3600 m ctx buf size := by
  unfold rtpSendH264AVC sendBufferBy
  simp only [sendUnits_eq]

/-- One call of the sender for each unit, the last of them with `last`, and the ticks after each. -/
def sendEach (send : RTPMuxContext → Bytes → Int → Option (RTPMuxContext × List Bytes)) (ticks : UInt32) :
    RTPMuxContext → List NalUnit → Option (RTPMuxContext × List Bytes)
  | ctx, [] => some (ctx, [])
  | ctx, u :: us => do
    let (ctx, ds) ← send ctx u.nal (if us = [] then 1 else 0)
    let (ctx, more) ← sendEach send ticks { ctx with timestamp := ctx.timestamp + ticks } us
    return (ctx, ds ++ more)

/-- The calls of `sendEach`, the datagrams of each in a list of their own. -/
def sendCalls (send : RTPMuxContext → Bytes → Int → Option (RTPMuxContext × List Bytes)) (ticks : UInt32) :
    RTPMuxContext → List NalUnit → Option (RTPMuxContext × List (List Bytes))
  | ctx, [] => some (ctx, [])
  | ctx, u :: us => do
    let (ctx, ds) ← send ctx u.nal (if us = [] then 1 else 0)
    let (ctx, more) ← sendCalls send ticks { ctx with timestamp := ctx.timestamp + ticks } us
    return (ctx, ds :: more)

section

variable {send : RTPMuxContext → Bytes → Int → Option (RTPMuxContext × List Bytes)} {ticks : UInt32} {m : Segment}

theorem sendEach_calls (ctx : RTPMuxContext) (us : List NalUnit) :
    sendEach send ticks ctx us = (sendCalls send ticks ctx us).map fun r => (r.1, r.2.flatten) := by
  induction us generalizing ctx with
  | nil => rfl
  | cons u us ih =>
    rw [sendEach, sendCalls]
    cases send ctx u.nal (if us = [] then 1 else 0) with
    | none => rfl
    | some r =>
      simp only [Option.bind_eq_bind, Option.bind_some, ih]
      cases sendCalls send ticks { r.1 with timestamp := r.1.timestamp + ticks } us <;> rfl

/-- The start codes of the units do not matter. -/
theorem sendEach_nals {us vs : List NalUnit} (same : us.map NalUnit.nal = vs.map NalUnit.nal) (ctx : RTPMuxContext) :
    sendEach send ticks ctx us = sendEach send ticks ctx vs := by
  induction us generalizing ctx vs with
  | nil => rw [List.map_eq_nil_iff.mp same.symm]
  | cons u us ih =>
    cases vs with
    | nil => cases same
    | cons v vs =>
      obtain ⟨nal, rest⟩ := List.cons.inj same
      have last : us = [] ↔ vs = [] := by
        rw [← List.map_eq_nil_iff, rest, List.map_eq_nil_iff]
      unfold sendEach
      simp only [nal, last, ih rest]

theorem skipStartcode_front (code : StartCode) {r : Nat} {rest behind : Bytes} (h : m.Holds r (code.bytes ++ rest ++ behind)) :
    skipStartcode m r = some (r + code.bytes.length) := by
  rw [List.append_assoc] at h
  exact skipStartcode_code code h

/-- In every round `r` stands at a start code or at the end, and the units to come are those behind it. -/
theorem sendUnitsBy_each {t behind : Bytes} {us : List NalUnit} (splits : Splits t us) {ctx : RTPMuxContext} {r fuel : Nat}
    (h : m.Holds r (t ++ behind)) (enough : t.length ≤ fuel) :
    sendUnitsBy send ticks m (r + t.length) fuel ctx r = sendEach send ticks ctx us := by
  induction splits generalizing ctx r fuel with
  | done => cases fuel <;> exact if_neg (Nat.lt_irrefl r)
  | @unit code rest us room more ih =>
    have positive := code.bytes_pos
    have inside := boundary_le rest
    have skip := skipStartcode_front code h
    rw [List.append_assoc] at h
    rw [List.length_append] at enough ⊢
    have behindCode := h.advance
    have found := find_startcode_range behindCode
    have parts : rest ++ behind = rest.take (boundary rest) ++ (rest.drop (boundary rest) ++ behind) := by
      rw [← List.append_assoc, List.take_append_drop]
    rw [parts] at behindCode
    have slice := behindCode.slice
    have later := behindCode.advance
    rw [List.length_take_of_le inside] at slice later
    have last : (if r + code.bytes.length + boundary rest = r + (code.bytes.length + rest.length) then (1 : Int) else 0) =
        if us = [] then 1 else 0 := by
      have ends : rest.drop (boundary rest) = [] ↔ rest.length ≤ boundary rest := List.drop_eq_nil_iff
      by_cases none : us = []
      · have := ends.mp (more.nonempty.mp none)
        rw [if_pos none, if_pos (by omega)]
      · have := mt ends.mpr (mt more.nonempty.mpr none)
        rw [if_neg none, if_neg (by omega)]
    have rest_length : (rest.drop (boundary rest)).length = rest.length - boundary rest := List.length_drop
    obtain ⟨fuel, rfl⟩ : ∃ n, fuel = n + 1 := ⟨fuel - 1, by omega⟩
    rw [sendUnitsBy, if_pos (by omega), skip]
    rw [Nat.add_assoc] at found
    simp only [Option.bind_eq_bind, Option.bind_some, found]
    rw [if_neg (by omega), Nat.add_sub_cancel_left, slice, Option.bind_some, last, sendEach]
    cases send ctx (rest.take (boundary rest)) (if us = [] then 1 else 0) with
    | none => rfl
    | some sent =>
      have next := @ih { sent.1 with timestamp := sent.1.timestamp + ticks } _ fuel later (by omega)
      rw [rest_length, show r + code.bytes.length + boundary rest + (rest.length - boundary rest) =
        r + (code.bytes.length + rest.length) by omega] at next
      simp only [Option.bind_eq_bind, Option.bind_some, next]

theorem sendBufferBy_units {p : Nat} {t behind : Bytes} (h : m.Holds p (t ++ behind)) (notNull : p ≠ 0) (ctx : RTPMuxContext) :
    sendBufferBy send ticks m ctx p t.length = sendEach send ticks ctx (unitsIn t) := by
  unfold sendBufferBy
  by_cases none : t = []
  · rw [none, if_pos (.inr (Int.le_refl 0))]
    rfl
  · have positive := List.length_pos_of_ne_nil none
    have inside := boundary_le t
    have start := h.drop (k := boundary t) (by rw [List.length_append]; omega)
    rw [List.drop_append_of_le_length inside] at start
    rw [if_neg (by omega), Int.toNat_natCast]
    simp only [Option.bind_eq_bind, find_startcode_range h, Option.bind_some]
    have enough : (t.drop (boundary t)).length ≤ t.length := by rw [List.length_drop]; omega
    rw [← sendUnitsBy_each (unitsIn_splits t) start enough, List.length_drop]
    congr 1
    omega

end

/-- On every buffer the two functions make one call for each unit of its decomposition, and the bytes around the
buffer do not matter. -/
theorem rtpSend_units {m : Segment} {p : Nat} {t behind : Bytes} (h : m.Holds p (t ++ behind)) (notNull : p ≠ 0)
    (ctx : RTPMuxContext) :
    rtpSendH264AVC m ctx p t.length = sendEach rtpSendNALH264AVC 3600 ctx (unitsIn t) ∧
      rtpSendH265HEVC m ctx p t.length = sendEach rtpSendNALH265 3000 ctx (unitsIn t) ∧
      t.take (boundary t) ++ annexB (unitsIn t) = t ∧
      (∀ x ∈ (piecesOf t).dropLast, ¬ [0, 0, 1] <:+: x) ∧ ∀ x ∈ piecesOf t, CodeAtEnd x := by
  refine ⟨?_, sendBufferBy_units h notNull ctx, unitsIn_bytes t, piecesOf_codes t⟩
  rw [rtpSendH264AVC_eq]
  exact sendBufferBy_units h notNull ctx

/-- The buffer `09 00 00 01 65 00 00 00 01` in the middle of a block: one unit, which keeps the code at its end. -/
theorem rtpSend_units_middle :
    let m : Segment := ⟨60, [0, 0, 1, 7, 9, 0, 0, 1, 0x65, 0, 0, 0, 1, 0x41]⟩
    let ctx : RTPMuxContext := ⟨.zero _, .zero _, 0, 0, 0, 0, 0, 0⟩
    (m.Holds 64 ([9, 0, 0, 1, 0x65, 0, 0, 0, 1] ++ [0x41]) ∧ 64 ≠ 0 ∧
        unitsIn [9, 0, 0, 1, 0x65, 0, 0, 0, 1] = [⟨.three, [0x65, 0, 0, 0, 1]⟩]) ∧
      rtpSendH264AVC m ctx 64 9 = sendEach rtpSendNALH264AVC 3600 ctx (unitsIn [9, 0, 0, 1, 0x65, 0, 0, 0, 1]) ∧
      rtpSendH265HEVC m ctx 64 9 = sendEach rtpSendNALH265 3000 ctx (unitsIn [9, 0, 0, 1, 0x65, 0, 0, 0, 1]) ∧
      [9, 0, 0, 1, 0x65, 0, 0, 0, 1].take (boundary [9, 0, 0, 1, 0x65, 0, 0, 0, 1]) ++
        annexB (unitsIn [9, 0, 0, 1, 0x65, 0, 0, 0, 1]) = [9, 0, 0, 1, 0x65, 0, 0, 0, 1] ∧
      (∀ x ∈ (piecesOf [9, 0, 0, 1, 0x65, 0, 0, 0, 1]).dropLast, ¬ [0, 0, 1] <:+: x) ∧
      ∀ x ∈ piecesOf [9, 0, 0, 1, 0x65, 0, 0, 0, 1], CodeAtEnd x := by
  intro m ctx
  have held : m.Holds 64 ([9, 0, 0, 1, 0x65, 0, 0, 0, 1] ++ [0x41]) := ⟨[0, 0, 1, 7], rfl, rfl⟩
  exact ⟨⟨held, by decide, by decide⟩, rtpSend_units held (by decide) ctx⟩

/-- The calls that the two functions make for a byte stream are those for the units written into it. -/
theorem rtpSend_written {m : Segment} {p : Nat} {front behind : Bytes} {us : List NalUnit}
    (h : m.Holds p (front ++ annexB us ++ behind)) (notNull : p ≠ 0) (codeless : ¬ [0, 0, 1] <:+: front)
    (units : ∀ u ∈ us, IsUnit u.nal) (ctx : RTPMuxContext) :
    rtpSendH264AVC m ctx p (front ++ annexB us).length = sendEach rtpSendNALH264AVC 3600 ctx us ∧
      rtpSendH265HEVC m ctx p (front ++ annexB us).length = sendEach rtpSendNALH265 3000 ctx us := by
  have same := unitsIn_annexB codeless units
  rw [rtpSendH264AVC_eq]
  exact ⟨(sendBufferBy_units h notNull ctx).trans (sendEach_nals same ctx),
    (sendBufferBy_units h notNull ctx).trans (sendEach_nals same ctx)⟩

/-- The zero in front makes a start code of four bytes of the first one. -/
theorem rtpSend_written_two :
    let us : List NalUnit := [⟨.three, [0x65, 7]⟩, ⟨.four, [0x41]⟩]
    let m : Segment := ⟨8, [9, 0] ++ annexB us ++ [0, 0]⟩
    let ctx : RTPMuxContext := ⟨.zero _, .zero _, 0, 0, 0, 0, 0, 0⟩
    (m.Holds 8 ([9, 0] ++ annexB us ++ [0, 0]) ∧ 8 ≠ 0 ∧ ¬ [0, 0, 1] <:+: ([9, 0] : Bytes) ∧ ∀ u ∈ us, IsUnit u.nal) ∧
      rtpSendH264AVC m ctx 8 12 = sendEach rtpSendNALH264AVC 3600 ctx us ∧
      rtpSendH265HEVC m ctx 8 12 = sendEach rtpSendNALH265 3000 ctx us := by
  intro us m ctx
  have held : m.Holds 8 ([9, 0] ++ annexB us ++ [0, 0]) := Segment.holds_base m
  have codeless : ¬ [0, 0, 1] <:+: ([9, 0] : Bytes) := by decide
  have units : ∀ u ∈ us, IsUnit u.nal := by decide
  exact ⟨⟨held, by decide, codeless, units⟩, rtpSend_written held (by decide) codeless units ctx⟩

end RTPEnc

end RtspServer
