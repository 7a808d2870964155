import RtspServer.Base.Hevc

/-!
# The RTP payload format of H.264

Single units, aggregation packets (STAP-A) and fragmentation units (FU-A) of RFC
6184, and the receiver that puts the units together again.
-/

namespace RtspServer.H264

def fBit (h : UInt8) : Nat := h.toNat / 128

def nalType (h : UInt8) : Nat := h.toNat % 32

/-- A unit that may be sent: F = 0 and a type below the payload structures. -/
def Sendable : Bytes → Prop
  | h :: _ => fBit h = 0 ∧ 1 ≤ nalType h ∧ nalType h ≤ 23
  | [] => False

instance : DecidablePred Sendable
  | [] => inferInstanceAs (Decidable False)
  | h :: _ => inferInstanceAs (Decidable (fBit h = 0 ∧ 1 ≤ nalType h ∧ nalType h ≤ 23))

/-! ### The receiver -/

/-- One fragmentation unit behind its indicator. Of the S and E bits at most one is set. -/
def receiveFragment (partialUnit : Option Bytes) (indicator : UInt8) : Bytes → Option (Option Bytes × List Bytes)
  | [] => none
  | fu :: data =>
    let current := match decide (fu &&& 0x80 ≠ 0), partialUnit with
      | true, none => some (((indicator &&& (0xe0 : UInt8)) ||| (fu &&& 0x1f)) :: data)
      | false, some front => some (front ++ data)
      | _, _ => none
    if fu &&& 0xc0 = 0xc0 then none
    else if fu &&& 0x40 = 0 then current.map (some ·, [])
    else current.map (none, [·])

/-- One payload. The state is the unit under reassembly. -/
def receive (partialUnit : Option Bytes) : Bytes → Option (Option Bytes × List Bytes)
  | h :: body =>
    if nalType h = 28 then receiveFragment partialUnit h body
    else if partialUnit ≠ none then none
    else if nalType h = 24 then (Hevc.unitsOf body.length body).map (none, ·)
    else if 1 ≤ nalType h ∧ nalType h ≤ 23 then some (none, [h :: body])
    else none
  | [] => none

/-- The units of a run of payloads, none of them left incomplete. -/
def depacketize (payloads : List Bytes) : Option (List Bytes) :=
  match Rtp.receiveAll receive none payloads with
  | some (none, units) => some units
  | _ => none

theorem depacketize_of_receiveAll {ps units : List Bytes} (h : Rtp.receiveAll receive none ps = some (none, units)) :
    depacketize ps = some units := by
  simp [depacketize, h]

theorem receive_single {nal : Bytes} (h : Sendable nal) : receive none nal = some (none, [nal]) := by
  match nal, h with
  | h0 :: body, ⟨_, low, high⟩ =>
    rw [receive, if_neg (by omega), if_neg (by simp), if_neg (by omega), if_pos ⟨low, high⟩]

/-! ### Aggregation packets -/

/-- The header of a STAP-A when `nal` joins it: any F bit, and the highest NRI. -/
def joinHeader (b : UInt8) (nal : Bytes) : UInt8 :=
  let h := nal.headD 0
  (if b &&& 0x60 < h &&& 0x60 then (b &&& (0x9f : UInt8)) ||| (h &&& 0x60) else b) ||| (h &&& 0x80)

def stapHeader (nals : List Bytes) : UInt8 := nals.foldl joinHeader 24

def stapPayload (nals : List Bytes) : Bytes := stapHeader nals :: Hevc.apBody nals

theorem stapHeader_append (nals : List Bytes) (nal : Bytes) :
    stapHeader (nals ++ [nal]) = joinHeader (stapHeader nals) nal := by
  rw [stapHeader, List.foldl_append]
  rfl

theorem nalType_eq (h : UInt8) : nalType h = (h &&& 0x1f).toNat := by
  rw [nalType, UInt8.toNat_and]
  exact (Nat.and_two_pow_sub_one_eq_mod h.toNat 5).symm

theorem nalType_or {mask : UInt8} (b h : UInt8) (high : mask &&& 0x1f = 0) : nalType (b ||| (h &&& mask)) = nalType b := by
  have split : (b ||| (h &&& mask)) &&& 0x1f = (b &&& 0x1f) ||| ((h &&& mask) &&& 0x1f) :=
    UInt8.toBitVec_inj.mp BitVec.and_or_distrib_right
  rw [nalType_eq, nalType_eq, split, UInt8.and_assoc, high, UInt8.and_zero, UInt8.or_zero]

theorem joinHeader_type (b : UInt8) (nal : Bytes) : nalType (joinHeader b nal) = nalType b := by
  have cleared : nalType (b &&& 0x9f) = nalType b := by
    rw [nalType_eq, nalType_eq, UInt8.and_assoc]
    rfl
  unfold joinHeader
  dsimp only
  rw [nalType_or _ _ rfl]
  split
  · rw [nalType_or _ _ rfl, cleared]
  · rfl

theorem stapHeader_type (nals : List Bytes) : nalType (stapHeader nals) = 24 := by
  induction nals using List.reverseRecOn with
  | nil => rfl
  | append_singleton nals nal ih => rw [stapHeader_append, joinHeader_type, ih]

theorem receive_stap {nals : List Bytes} (small : ∀ nal ∈ nals, nal.length < 65536) :
    receive none (stapPayload nals) = some (none, nals) := by
  rw [stapPayload, receive, if_neg (by rw [stapHeader_type]; decide), if_neg (not_not_intro rfl),
    if_pos (stapHeader_type nals), Hevc.unitsOf_apBody small (Nat.le_refl _)]
  rfl

/-! ### Fragmentation units -/

/-- The FU indicator: the NRI of the unit with the type of an FU-A. -/
def indicator (h : UInt8) : UInt8 := (28 : UInt8) ||| (h &&& 0x60)

/-- The type of the unit, as the FU header carries it. -/
def typeField (h : UInt8) : UInt8 := h &&& 0x1f

def fuRest (h : UInt8) : List Bytes → List Bytes
  | [] => []
  | [f] => [indicator h :: (typeField h ||| 0x40) :: f]
  | f :: g :: fs => (indicator h :: typeField h :: f) :: fuRest h (g :: fs)

/-- The fragmentation units of a unit with header `h`, the first of them with the S bit. -/
def fuPayloads (h : UInt8) (f : Bytes) (fs : List Bytes) : List Bytes :=
  (indicator h :: (typeField h ||| 0x80) :: f) :: fuRest h fs

theorem typeField_bits (h : UInt8) :
    typeField h &&& 0x80 = 0 ∧ typeField h &&& 0x40 = 0 ∧ typeField h &&& 0xc0 ≠ 0xc0 ∧
    (typeField h ||| 0x80) &&& 0x80 ≠ 0 ∧ (typeField h ||| 0x80) &&& 0x40 = 0 ∧
    (typeField h ||| 0x80) &&& 0xc0 ≠ 0xc0 ∧ (typeField h ||| 0x80) &&& 0x7f = typeField h ∧
    typeField h &&& 0x7f = typeField h ∧ (typeField h ||| 0x40) &&& 0x80 = 0 ∧
    (typeField h ||| 0x40) &&& 0x40 ≠ 0 ∧ (typeField h ||| 0x40) &&& 0xc0 ≠ 0xc0 := by
  apply Rtp.fuHeader_bits
  have all : ∀ b : BitVec 8, (b &&& 0x1f#8) &&& 0x3f#8 = b &&& 0x1f#8 := by decide
  exact UInt8.toBitVec_inj.mp (all h.toBitVec)

theorem indicator_type (h : UInt8) : nalType (indicator h) = 28 := by
  have all : ∀ b : BitVec 8, (28#8 ||| (b &&& 0x60#8)).toNat % 32 = 28 := by decide
  exact all h.toBitVec

theorem rebuild_header {h : UInt8} (f : fBit h = 0) :
    (indicator h &&& (0xe0 : UInt8)) ||| ((typeField h ||| 0x80) &&& 0x1f) = h := by
  have all : ∀ b : BitVec 8, b.toNat / 128 = 0 →
      ((28#8 ||| (b &&& 0x60#8)) &&& 0xe0#8) ||| (((b &&& 0x1f#8) ||| 0x80#8) &&& 0x1f#8) = b := by
    decide
  exact UInt8.toBitVec_inj.mp (all h.toBitVec f)

theorem receive_fragment (s : Option Bytes) (h : UInt8) (body : Bytes) :
    receive s (indicator h :: body) = receiveFragment s (indicator h) body :=
  if_pos (indicator_type h)

theorem receiveAll_fuRest (h : UInt8) {fs : List Bytes} (nonempty : fs ≠ []) (front : Bytes) :
    Rtp.receiveAll receive (some front) (fuRest h fs) = some (none, [front ++ fs.flatten]) := by
  obtain ⟨noS, noE, legal, -, -, -, -, -, lastS, lastE, lastLegal⟩ := typeField_bits h
  induction fs generalizing front with
  | nil => exact absurd rfl nonempty
  | cons f fs ih =>
    cases fs with
    | nil =>
      apply Rtp.receiveAll_one
      rw [receive_fragment]
      simp [receiveFragment, lastS, lastE, lastLegal]
    | cons g fs =>
      have step : receive (some front) (indicator h :: typeField h :: f) = some (some (front ++ f), []) := by
        rw [receive_fragment]
        simp [receiveFragment, noS, noE, legal]
      have rest := ih (by simp) (front ++ f)
      rw [fuRest]
      simp only [Rtp.receiveAll, step, Option.bind_eq_bind, Option.bind_some, rest]
      simp

/-- The fragments of a unit with F = 0 are put together to the unit. -/
theorem receiveAll_fuPayloads {h : UInt8} {data f : Bytes} {fs : List Bytes} (plain : fBit h = 0) (nonempty : fs ≠ [])
    (whole : f ++ fs.flatten = data) : Rtp.receiveAll receive none (fuPayloads h f fs) = some (none, [h :: data]) := by
  obtain ⟨-, -, -, firstS, firstE, firstLegal, -⟩ := typeField_bits h
  have step : receive none (indicator h :: (typeField h ||| 0x80) :: f) = some (some (h :: f), []) := by
    rw [receive_fragment]
    simp only [receiveFragment, ne_eq, firstS, not_false_eq_true, decide_true, firstLegal, if_false,
      firstE, if_true, rebuild_header plain, Option.map_some]
  have rest := receiveAll_fuRest h nonempty (h :: f)
  rw [fuPayloads]
  simp only [Rtp.receiveAll, step, Option.bind_eq_bind, Option.bind_some, rest]
  simp [← whole]

end RtspServer.H264
