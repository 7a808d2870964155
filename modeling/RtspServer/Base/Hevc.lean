import RtspServer.Base.Rtp

/-!
# The RTP payload format of H.265

Units, aggregation packets and fragmentation units of RFC 7798, and the
receiver that puts the units together again.
-/

namespace RtspServer.Hevc

/-! ### The two header bytes of a unit -/

def fBit (h0 : UInt8) : Nat := h0.toNat / 128

def nalType (h0 : UInt8) : Nat := h0.toNat / 2 % 64

def layerId (h0 h1 : UInt8) : Nat := h0.toNat % 2 * 32 + h1.toNat / 8

def tid (h1 : UInt8) : Nat := h1.toNat % 8

/-- A unit that may be sent: a whole header with a type below the payload
structures. -/
def Sendable : Bytes → Prop
  | h0 :: _ :: _ => nalType h0 < 48
  | _ => False

/-- The header has F = 0, LayerId = 0 and TID = 1. -/
def PlainHeader : Bytes → Prop
  | h0 :: h1 :: _ => fBit h0 = 0 ∧ layerId h0 h1 = 0 ∧ tid h1 = 1
  | _ => False

instance : DecidablePred Sendable
  | [] => inferInstanceAs (Decidable False)
  | [_] => inferInstanceAs (Decidable False)
  | h0 :: _ :: _ => inferInstanceAs (Decidable (nalType h0 < 48))

instance : DecidablePred PlainHeader
  | [] => inferInstanceAs (Decidable False)
  | [_] => inferInstanceAs (Decidable False)
  | h0 :: h1 :: _ => inferInstanceAs (Decidable (fBit h0 = 0 ∧ layerId h0 h1 = 0 ∧ tid h1 = 1))

/-! ### The receiver -/

/-- The units of an aggregation packet: a 16-bit length before each. -/
def unitsOf : Nat → Bytes → Option (List Bytes)
  | _, [] => some []
  | fuel + 1, hi :: lo :: rest =>
    let n := (Rtp.read16 hi lo).toNat
    if n ≤ rest.length then (unitsOf fuel (rest.drop n)).map (rest.take n :: ·) else none
  | _, _ => none

/-- One fragmentation unit. Of the S and E bits at most one is set. -/
def receiveFragment (partialUnit : Option Bytes) (h0 h1 : UInt8) : Bytes → Option (Option Bytes × List Bytes)
  | [] => none
  | fu :: data =>
    let current := match decide (fu &&& 0x80 ≠ 0), partialUnit with
      | true, none => some (((h0 &&& (0x81 : UInt8)) ||| ((fu &&& 0x3f) <<< 1)) :: h1 :: data)
      | false, some front => some (front ++ data)
      | _, _ => none
    if fu &&& 0xc0 = 0xc0 then none
    else if fu &&& 0x40 = 0 then current.map (some ·, [])
    else current.map (none, [·])

/-- One payload. The state is the unit under reassembly. -/
def receive (partialUnit : Option Bytes) : Bytes → Option (Option Bytes × List Bytes)
  | h0 :: h1 :: body =>
    if nalType h0 = 49 then receiveFragment partialUnit h0 h1 body
    else if partialUnit ≠ none then none
    else if nalType h0 = 48 then (unitsOf body.length body).map (none, ·)
    else if nalType h0 < 48 then some (none, [h0 :: h1 :: body])
    else none
  | _ => none

def receiveAll : Option Bytes → List Bytes → Option (Option Bytes × List Bytes)
  | s, [] => some (s, [])
  | s, p :: ps => do
    let (s, units) ← receive s p
    let (s, more) ← receiveAll s ps
    return (s, units ++ more)

/-- The units of a run of payloads, none of them left incomplete. -/
def depacketize (payloads : List Bytes) : Option (List Bytes) :=
  match receiveAll none payloads with
  | some (none, units) => some units
  | _ => none

theorem receiveAll_eq (s : Option Bytes) (ps : List Bytes) : receiveAll s ps = Rtp.receiveAll receive s ps := by
  induction ps generalizing s with
  | nil => rfl
  | cons p ps ih => simp only [receiveAll, Rtp.receiveAll, ih]

theorem receiveAll_append {s t u : Option Bytes} {ps qs xs ys : List Bytes}
    (first : receiveAll s ps = some (t, xs)) (second : receiveAll t qs = some (u, ys)) :
    receiveAll s (ps ++ qs) = some (u, xs ++ ys) := by
  rw [receiveAll_eq] at *
  exact Rtp.receiveAll_append first second

theorem receiveAll_split {s u : Option Bytes} {ps qs zs : List Bytes} (h : receiveAll s (ps ++ qs) = some (u, zs)) :
    ∃ t xs ys, receiveAll s ps = some (t, xs) ∧ receiveAll t qs = some (u, ys) ∧ zs = xs ++ ys := by
  simp only [receiveAll_eq] at *
  exact Rtp.receiveAll_split h

theorem receiveAll_one {s t : Option Bytes} {p : Bytes} {units : List Bytes}
    (h : receive s p = some (t, units)) : receiveAll s [p] = some (t, units) := by
  rw [receiveAll_eq]
  exact Rtp.receiveAll_one h

theorem depacketize_of_receiveAll {ps units : List Bytes} (h : receiveAll none ps = some (none, units)) :
    depacketize ps = some units := by
  simp [depacketize, h]

/-! ### Single units -/

theorem receive_single {nal : Bytes} (h : Sendable nal) : receive none nal = some (none, [nal]) := by
  match nal, h with
  | h0 :: h1 :: body, h =>
    have small : nalType h0 < 48 := h
    rw [receive, if_neg (by omega), if_neg (by simp), if_neg (by omega), if_pos small]

/-! ### Aggregation packets -/

def apBody (nals : List Bytes) : Bytes :=
  nals.flatMap fun nal => Rtp.bytes16 (UInt16.ofNat nal.length) ++ nal

/-- An aggregation packet with a plain header. -/
def apPayload (nals : List Bytes) : Bytes := [96, 1] ++ apBody nals

theorem apBody_append (xs ys : List Bytes) : apBody (xs ++ ys) = apBody xs ++ apBody ys :=
  List.flatMap_append

theorem apBody_one (nal : Bytes) : apBody [nal] = Rtp.bytes16 (UInt16.ofNat nal.length) ++ nal := by
  simp [apBody]

theorem unitsOf_apBody {nals : List Bytes} (small : ∀ nal ∈ nals, nal.length < 65536) {fuel : Nat}
    (enough : (apBody nals).length ≤ fuel) : unitsOf fuel (apBody nals) = some nals := by
  induction nals generalizing fuel with
  | nil => cases fuel <;> rfl
  | cons nal nals ih =>
    have bound := small nal List.mem_cons_self
    have body : apBody (nal :: nals) = UInt8.ofNat (nal.length / 256) :: UInt8.ofNat nal.length ::
        (nal ++ apBody nals) := by
      have length : (UInt16.ofNat nal.length).toNat = nal.length := UInt16.toNat_ofNat_of_lt' bound
      show Rtp.bytes16 _ ++ nal ++ apBody nals = _
      rw [Rtp.bytes16_eq, length]
      rfl
    have length : (Rtp.read16 (UInt8.ofNat (nal.length / 256)) (UInt8.ofNat nal.length)).toNat = nal.length := by
      rw [Rtp.read16_toNat, UInt8.toNat_ofNat', UInt8.toNat_ofNat']
      omega
    rw [body] at enough ⊢
    simp only [List.length_cons, List.length_append] at enough
    obtain ⟨fuel, rfl⟩ : ∃ k, fuel = k + 1 := ⟨fuel - 1, by omega⟩
    rw [unitsOf]
    simp only [length]
    rw [if_pos (by simp), List.drop_left, List.take_left,
      ih (fun x member => small x (List.mem_cons_of_mem _ member)) (by omega)]
    rfl

theorem receive_ap {nals : List Bytes} (small : ∀ nal ∈ nals, nal.length < 65536) :
    receive none (apPayload nals) = some (none, nals) := by
  show (unitsOf (apBody nals).length (apBody nals)).map (none, ·) = _
  rw [unitsOf_apBody small (Nat.le_refl _)]
  rfl

/-! ### Fragmentation units -/

def fuRest (type : UInt8) : List Bytes → List Bytes
  | [] => []
  | [f] => [98 :: 1 :: (type ||| 0x40) :: f]
  | f :: g :: fs => (98 :: 1 :: type :: f) :: fuRest type (g :: fs)

/-- Fragmentation units with a plain header, the first of them with the S bit. -/
def fuPayloads (type : UInt8) (f : Bytes) (fs : List Bytes) : List Bytes :=
  (98 :: 1 :: (type ||| 0x80) :: f) :: fuRest type fs

/-- Cutting off `n` bytes at a time while more than `n` are left. -/
def cut (n : Nat) : Nat → Bytes → List Bytes
  | 0, data => [data]
  | fuel + 1, data => if n < data.length then data.take n :: cut n fuel (data.drop n) else [data]

theorem cut_flatten (n fuel : Nat) (data : Bytes) : (cut n fuel data).flatten = data := by
  induction fuel generalizing data with
  | zero => simp [cut]
  | succ fuel ih =>
    rw [cut]
    split
    · rw [List.flatten_cons, ih, List.take_append_drop]
    · simp

theorem cut_ne_nil (n fuel : Nat) (data : Bytes) : cut n fuel data ≠ [] := by
  cases fuel with
  | zero => simp [cut]
  | succ fuel => rw [cut]; split <;> simp

theorem cut_full {n fuel : Nat} {data p : Bytes} (inner : p ∈ (cut n fuel data).dropLast) : p.length = n := by
  induction fuel generalizing data with
  | zero => simp [cut] at inner
  | succ fuel ih =>
    rw [cut] at inner
    split at inner
    · rename_i more
      rw [List.dropLast_cons_of_ne_nil (cut_ne_nil n fuel _)] at inner
      rcases List.mem_cons.mp inner with rfl | later
      · rw [List.length_take]
        omega
      · exact ih later
    · simp at inner

theorem cut_last {n fuel : Nat} {data p : Bytes} (positive : 0 < n) (some : data ≠ []) (enough : data.length ≤ fuel)
    (last : p ∈ (cut n fuel data).getLast?) : 1 ≤ p.length ∧ p.length ≤ n := by
  have nonempty := List.length_pos_of_ne_nil some
  induction fuel generalizing data with
  | zero => omega
  | succ fuel ih =>
    rw [cut] at last
    split at last
    · rename_i more
      have rest : (data.drop n).length = data.length - n := List.length_drop
      rw [List.getLast?_cons_of_ne_nil (cut_ne_nil n fuel _)] at last
      have left : 0 < (data.drop n).length := by omega
      exact ih (List.ne_nil_of_length_pos left) (by omega) last left
    · rename_i whole
      obtain rfl : data = p := by simpa using last
      omega

theorem cut_le {n fuel : Nat} {data p : Bytes} (enough : data.length ≤ n + fuel) (member : p ∈ cut n fuel data) (positive : 0 < n) :
    p.length ≤ n := by
  induction fuel generalizing data with
  | zero =>
    rw [cut, List.mem_singleton] at member
    rw [member]
    exact enough
  | succ fuel ih =>
    rw [cut] at member
    split at member
    · rcases List.mem_cons.mp member with rfl | later
      · exact List.length_take_le _ _
      · apply ih ?_ later
        rw [List.length_drop]
        omega
    · rw [List.mem_singleton.mp member]
      omega

/-- The type field of a header, as the FU header carries it. -/
def typeField (h0 : UInt8) : UInt8 := (h0 >>> 1) &&& 0x3f

theorem typeField_bits (h0 : UInt8) :
    typeField h0 &&& 0x80 = 0 ∧ typeField h0 &&& 0x40 = 0 ∧ typeField h0 &&& 0xc0 ≠ 0xc0 ∧
    (typeField h0 ||| 0x80) &&& 0x80 ≠ 0 ∧ (typeField h0 ||| 0x80) &&& 0x40 = 0 ∧
    (typeField h0 ||| 0x80) &&& 0xc0 ≠ 0xc0 ∧ (typeField h0 ||| 0x80) &&& 0x7f = typeField h0 ∧
    typeField h0 &&& 0x7f = typeField h0 ∧ (typeField h0 ||| 0x40) &&& 0x80 = 0 ∧
    (typeField h0 ||| 0x40) &&& 0x40 ≠ 0 ∧ (typeField h0 ||| 0x40) &&& 0xc0 ≠ 0xc0 := by
  apply Rtp.fuHeader_bits
  have all : ∀ b : BitVec 8, ((b >>> 1#8) &&& 0x3f#8) &&& 0x3f#8 = (b >>> 1#8) &&& 0x3f#8 := by decide
  exact UInt8.toBitVec_inj.mp (all h0.toBitVec)

/-- The first header byte that a receiver puts in front of the fragments. -/
theorem rebuild_header (h0 : UInt8) :
    ((98 : UInt8) &&& (0x81 : UInt8)) ||| (((typeField h0 ||| 0x80) &&& 0x3f) <<< 1) = typeField h0 <<< 1 := by
  have all : ∀ b : BitVec 8, let t := (b >>> 1#8) &&& 0x3f#8
      (98#8 &&& 0x81#8) ||| (((t ||| 0x80#8) &&& 0x3f#8) <<< 1#8) = t <<< 1#8 := by
    decide
  exact UInt8.toBitVec_inj.mp (all h0.toBitVec)

theorem typeField_shift {h0 : UInt8} (f : fBit h0 = 0) (layer : h0.toNat % 2 = 0) : typeField h0 <<< 1 = h0 := by
  have all : ∀ b : BitVec 8, b.toNat / 128 = 0 → b.toNat % 2 = 0 → ((b >>> 1#8) &&& 0x3f#8) <<< 1#8 = b := by
    decide
  exact UInt8.toBitVec_inj.mp (all h0.toBitVec f layer)

theorem receive_fragment (s : Option Bytes) (body : Bytes) :
    receive s (98 :: 1 :: body) = receiveFragment s 98 1 body := rfl

theorem receiveAll_fuRest (h0 : UInt8) {fs : List Bytes} (nonempty : fs ≠ []) (front : Bytes) :
    receiveAll (some front) (fuRest (typeField h0) fs) = some (none, [front ++ fs.flatten]) := by
  obtain ⟨noS, noE, legal, -, -, -, -, -, lastS, lastE, lastLegal⟩ := typeField_bits h0
  induction fs generalizing front with
  | nil => exact absurd rfl nonempty
  | cons f fs ih =>
    cases fs with
    | nil =>
      apply receiveAll_one
      rw [receive_fragment]
      simp [receiveFragment, lastS, lastE, lastLegal]
    | cons g fs =>
      have step : receive (some front) (98 :: 1 :: typeField h0 :: f) = some (some (front ++ f), []) := by
        rw [receive_fragment]
        simp [receiveFragment, noS, noE, legal]
      have rest := ih (by simp) (front ++ f)
      rw [fuRest]
      simp only [receiveAll, step, Option.bind_eq_bind, Option.bind_some, rest]
      simp

/-- What a receiver reads of a fragmentation unit. -/
structure Fragment where
  start : Bool
  stop : Bool
  type : Nat
  data : Bytes
  deriving DecidableEq

def fragmentOf : Bytes → Option Fragment
  | h0 :: _ :: fu :: data =>
    if nalType h0 = 49 then some ⟨fu &&& 0x80 ≠ 0, fu &&& 0x40 ≠ 0, (fu &&& 0x3f).toNat, data⟩ else none
  | _ => none

/-- Only the first fragment may have the S bit, and only the last one has the E bit. -/
def fragmentsFrom (start : Bool) (type : Nat) : List Bytes → List Fragment
  | [] => []
  | [f] => [⟨start, true, type, f⟩]
  | f :: g :: fs => ⟨start, false, type, f⟩ :: fragmentsFrom false type (g :: fs)

theorem typeField_toNat (h0 : UInt8) : (typeField h0 &&& 0x3f).toNat = nalType h0 ∧
    ((typeField h0 ||| 0x80) &&& 0x3f).toNat = nalType h0 ∧ ((typeField h0 ||| 0x40) &&& 0x3f).toNat = nalType h0 := by
  have all : ∀ b : BitVec 8, let t := (b >>> 1#8) &&& 0x3f#8
      (t &&& 0x3f#8).toNat = b.toNat / 2 % 64 ∧ ((t ||| 0x80#8) &&& 0x3f#8).toNat = b.toNat / 2 % 64 ∧
        ((t ||| 0x40#8) &&& 0x3f#8).toNat = b.toNat / 2 % 64 := by
    decide
  exact all h0.toBitVec

theorem fragments_fuRest (h0 : UInt8) (fs : List Bytes) :
    (fuRest (typeField h0) fs).mapM fragmentOf = some (fragmentsFrom false (nalType h0) fs) := by
  obtain ⟨noS, noE, -, -, -, -, -, -, lastS, lastE, -⟩ := typeField_bits h0
  obtain ⟨inner, -, last⟩ := typeField_toNat h0
  have fu : nalType 98 = 49 := rfl
  induction fs with
  | nil => rfl
  | cons f fs ih =>
    cases fs with
    | nil => simp [fuRest, fragmentsFrom, fragmentOf, fu, lastS, lastE, last]
    | cons g fs =>
      have first : fragmentOf (98 :: 1 :: typeField h0 :: f) = some ⟨false, false, nalType h0, f⟩ := by
        simp [fragmentOf, fu, noS, noE, inner]
      rw [fuRest, List.mapM_cons, first, ih]
      rfl

theorem fragments_fuPayloads (h0 : UInt8) (f : Bytes) {fs : List Bytes} (nonempty : fs ≠ []) :
    (fuPayloads (typeField h0) f fs).mapM fragmentOf = some (fragmentsFrom true (nalType h0) (f :: fs)) := by
  obtain ⟨-, -, -, firstS, firstE, -⟩ := typeField_bits h0
  obtain ⟨-, type, -⟩ := typeField_toNat h0
  have fu : nalType 98 = 49 := rfl
  have first : fragmentOf (98 :: 1 :: (typeField h0 ||| 0x80) :: f) = some ⟨true, false, nalType h0, f⟩ := by
    simp [fragmentOf, fu, firstS, firstE, type]
  match fs, nonempty with
  | g :: fs, _ =>
    rw [fuPayloads, List.mapM_cons, first, fragments_fuRest h0 (g :: fs)]
    rfl

section

variable (start : Bool) (type : Nat) (fs : List Bytes)

theorem fragmentsFrom_data : (fragmentsFrom start type fs).map Fragment.data = fs := by
  induction fs generalizing start with
  | nil => rfl
  | cons f fs ih =>
    cases fs with
    | nil => rfl
    | cons g fs => rw [fragmentsFrom, List.map_cons, ih]

theorem fragmentsFrom_length : (fragmentsFrom start type fs).length = fs.length := by
  rw [← List.length_map Fragment.data, fragmentsFrom_data]

theorem fragmentsFrom_type : ∀ x ∈ fragmentsFrom start type fs, x.type = type := by
  induction fs generalizing start with
  | nil => simp [fragmentsFrom]
  | cons f fs ih =>
    cases fs with
    | nil => simp [fragmentsFrom]
    | cons g fs => exact List.forall_mem_cons.mpr ⟨rfl, ih false⟩

theorem fragmentsFrom_start (f : Bytes) : (fragmentsFrom start type (f :: fs)).map Fragment.start =
    start :: List.replicate fs.length false := by
  induction fs generalizing start f with
  | nil => rfl
  | cons g fs ih => rw [fragmentsFrom, List.map_cons, ih, List.length_cons, List.replicate_succ]

theorem fragmentsFrom_stop (f : Bytes) : (fragmentsFrom start type (f :: fs)).map Fragment.stop =
    List.replicate fs.length false ++ [true] := by
  induction fs generalizing start f with
  | nil => rfl
  | cons g fs ih => rw [fragmentsFrom, List.map_cons, ih, List.length_cons, List.replicate_succ, List.cons_append]

end

/-- Fragments are put together to a unit with a plain header, whatever header the unit had. -/
theorem receiveAll_rebuilt (h0 : UInt8) {data f : Bytes} {fs : List Bytes} (nonempty : fs ≠ []) (whole : f ++ fs.flatten = data) :
    receiveAll none (fuPayloads (typeField h0) f fs) = some (none, [(typeField h0 <<< 1) :: 1 :: data]) := by
  obtain ⟨-, -, -, firstS, firstE, firstLegal, -⟩ := typeField_bits h0
  have step : receive none (98 :: 1 :: (typeField h0 ||| 0x80) :: f) = some (some ((typeField h0 <<< 1) :: 1 :: f), []) := by
    rw [receive_fragment]
    simp only [receiveFragment, ne_eq, firstS, not_false_eq_true, decide_true, firstLegal, if_false,
      firstE, if_true, rebuild_header h0, Option.map_some]
  have rest := receiveAll_fuRest h0 nonempty ((typeField h0 <<< 1) :: 1 :: f)
  rw [fuPayloads]
  simp only [receiveAll, step, Option.bind_eq_bind, Option.bind_some, rest]
  simp [← whole]

/-- Fragments of a unit with a plain header are put together to the unit. -/
theorem receiveAll_fuPayloads {h0 h1 : UInt8} {data f : Bytes} {fs : List Bytes}
    (plain : PlainHeader (h0 :: h1 :: data)) (nonempty : fs ≠ []) (whole : f ++ fs.flatten = data) :
    receiveAll none (fuPayloads (typeField h0) f fs) = some (none, [h0 :: h1 :: data]) := by
  obtain ⟨fzero, layer, temporal⟩ := plain
  have layerHigh : h0.toNat % 2 = 0 := by unfold layerId at layer; omega
  have one : h1 = 1 := by
    apply UInt8.toNat.inj
    unfold layerId at layer
    unfold tid at temporal
    show h1.toNat = 1
    omega
  rw [receiveAll_rebuilt h0 nonempty whole, typeField_shift fzero layerHigh, one]

/-! ### The fields of a header -/

/-- What a header says besides the type. -/
structure Fields where
  f : Nat
  layerId : Nat
  tid : Nat
  deriving DecidableEq

def fieldsOf : Bytes → Option Fields
  | h0 :: h1 :: _ => some ⟨fBit h0, layerId h0 h1, tid h1⟩
  | _ => none

def typeOf : Bytes → Option Nat
  | h0 :: _ :: _ => some (nalType h0)
  | _ => none

def Fields.plain : Fields := ⟨0, 0, 1⟩

/-- The OR of the F bits, the least LayerId and the least TID. -/
def Fields.join (a b : Fields) : Fields := ⟨a.f ||| b.f, min a.layerId b.layerId, min a.tid b.tid⟩

/-- The fields an aggregation packet of units with these fields has to have. -/
def joinAll : List Fields → Option Fields
  | [] => none
  | a :: as => some (as.foldl Fields.join a)

theorem plainHeader_iff (nal : Bytes) : PlainHeader nal ↔ fieldsOf nal = some .plain := by
  match nal with
  | [] => exact iff_of_false id nofun
  | [_] => exact iff_of_false id nofun
  | h0 :: h1 :: data =>
    unfold PlainHeader fieldsOf Fields.plain
    rw [Option.some.injEq, Fields.mk.injEq]

theorem fieldsOf_rebuilt (h0 : UInt8) (data : Bytes) :
    fieldsOf ((typeField h0 <<< 1) :: 1 :: data) = some .plain ∧ typeOf ((typeField h0 <<< 1) :: 1 :: data) = some (nalType h0) := by
  have all : ∀ b : BitVec 8, let t := ((b >>> 1#8) &&& 0x3f#8) <<< 1#8
      t.toNat / 128 = 0 ∧ t.toNat % 2 = 0 ∧ t.toNat / 2 % 64 = b.toNat / 2 % 64 := by
    decide
  obtain ⟨f, layer, type⟩ := all h0.toBitVec
  change (typeField h0 <<< 1).toNat / 128 = 0 at f
  change (typeField h0 <<< 1).toNat % 2 = 0 at layer
  change nalType (typeField h0 <<< 1) = nalType h0 at type
  refine ⟨?_, congrArg some type⟩
  show some (Fields.mk ((typeField h0 <<< 1).toNat / 128) ((typeField h0 <<< 1).toNat % 2 * 32 + 0) 1) = some .plain
  rw [f, layer]
  rfl

end RtspServer.Hevc
