import RtspServer.Media.SimStreamer

/-!
# Which streams are split exactly

`SelectNextNal` charges four bytes for every start code. A three-byte start
code leaves `size` one short of the data, and the loss shows at the last unit.
-/

namespace RtspServer

/-- Address and length of the unit behind each start code of the stream at `p`. -/
def nalSpans (p : Nat) : List NalUnit → List (Nat × Int)
  | [] => []
  | u :: us => (p + u.code.bytes.length, u.nal.length) :: nalSpans (p + u.bytes.length) us

/-- Iterating `SelectNextNal` over the stream of `us`, stored at `base`, returns
exactly its units and stops with `buf` at the end of the stream. -/
def SplitsExactly (base : Nat) (us : List NalUnit) : Prop :=
  ∃ fuel final, selectAll ⟨base, annexB us⟩ fuel ⟨base, (annexB us).length, 0, 0⟩ =
    some (nalSpans base us, final) ∧ final.buf = base + (annexB us).length

theorem selectAll_exact {m : Segment} {us : List NalUnit} {v : NalSelection}
    (units : ∀ u ∈ us, IsNal u.nal) (four : ∀ u ∈ us.dropLast, u.code = .four) (notNull : v.buf ≠ 0)
    (h : m.Holds v.buf (annexB us)) (size : v.size = (annexB us).length) :
    ∃ final, selectAll m us.length v = some (nalSpans v.buf us, final) ∧
      final.buf = v.buf + (annexB us).length := by
  induction us generalizing v with
  | nil => exact ⟨v, by rw [List.length_nil, selectAll, if_pos (by simp [size, annexB])]; rfl, by simp [annexB]⟩
  | cons u us ih =>
    have unit := units u List.mem_cons_self
    have two := unit.two_le
    rw [annexB_cons, List.length_append] at size
    have total : u.bytes.length = u.code.bytes.length + u.nal.length := List.length_append
    rw [List.length_cons, selectAll, if_neg (by omega), nalSpans]
    cases us with
    | nil =>
      have exhausted : v.size - u.nal.length - 4 ≤ 0 := by
        have short : u.code.bytes.length ≤ 4 := by cases u.code <;> decide
        simp only [annexB, List.flatMap_nil, List.length_nil] at size
        omega
      rw [selectNextNal_last unit (by simpa [annexB] using h) notNull (by simpa [annexB] using size)]
      refine ⟨_, by simp only [Option.bind_eq_bind, Option.bind_some, List.length_nil, selectAll, if_pos exhausted]; rfl, ?_⟩
      simp [annexB]
    | cons next us =>
      have nextUnit := (units next (by simp)).two_le
      have code : u.code = .four := four u (by simp)
      have four' : u.code.bytes.length = 4 := by rw [code]; rfl
      have inside := h.limit
      rw [annexB_cons u, annexB_cons next] at h inside
      rw [annexB_cons next, List.length_append] at size
      have nextTotal : next.bytes.length = next.code.bytes.length + next.nal.length := List.length_append
      rw [List.length_append, List.length_append] at inside
      rw [selectNextNal_inner unit h notNull (by omega) (by omega) (by omega)]
      obtain ⟨final, run, stop⟩ := ih
        (v := ⟨v.buf + u.bytes.length, v.size - u.nal.length - 4, v.buf + u.code.bytes.length, u.nal.length⟩)
        (fun w member => units w (List.mem_cons_of_mem _ member))
        (fun w member => four w (by simpa using Or.inr member)) (by show v.buf + _ ≠ 0; omega)
        (by simpa only [annexB_cons] using h.advance)
        (by rw [annexB_cons, List.length_append]; show v.size - _ - 4 = _; omega)
      refine ⟨final, by simp only [Option.bind_eq_bind, Option.bind_some]; rw [run]; rfl, ?_⟩
      rw [stop, annexB_cons u, List.length_append]
      exact Nat.add_assoc ..

/-- Once `size` has fallen behind the data, or will because of a three-byte
start code before the last unit, the units found are not the stream's. -/
theorem selectAll_drift {m : Segment} {us : List NalUnit} {v final : NalSelection} {fuel d : Nat}
    (nonempty : us ≠ []) (drift : 0 < d ∨ ∃ u ∈ us.dropLast, u.code = .three) (notNull : v.buf ≠ 0)
    (h : m.Holds v.buf (annexB us)) (size : v.size = (annexB us).length - d) :
    selectAll m fuel v ≠ some (nalSpans v.buf us, final) := by
  intro run
  induction us generalizing v fuel d with
  | nil => exact nonempty rfl
  | cons u us ih =>
    have total : u.bytes.length = u.code.bytes.length + u.nal.length := List.length_append
    have inside := h.limit
    rw [annexB_cons, List.length_append] at size inside
    -- `size` is still positive, so one more unit is selected.
    cases fuel with
    | zero =>
      rw [selectAll] at run
      split at run <;> simp [nalSpans] at run
    | succ fuel =>
      rw [selectAll] at run
      split at run
      · simp [nalSpans] at run
      rename_i positive
      simp only [Option.bind_eq_bind, Option.bind_eq_some_iff] at run
      obtain ⟨w, step, ⟨found, final'⟩, rest, result⟩ := run
      simp only [Option.pure_def, Option.some.injEq, Prod.mk.injEq, nalSpans, List.cons.injEq] at result
      obtain ⟨⟨⟨start, len⟩, rfl⟩, rfl⟩ := result
      have readable : Readable m v.buf (v.buf + v.size.toNat) := h.readable (by omega)
      obtain ⟨buf, within, sizeStep⟩ := selectNextNal_within (by omega) notNull readable step
      have boundary : w.buf = v.buf + u.bytes.length := by omega
      cases us with
      | nil =>
        rcases drift with behind | ⟨_, member, _⟩
        · simp only [annexB, List.flatMap_nil, List.length_nil] at size
          omega
        · simp at member
      | cons next us =>
        have sound : StartCode.bytes u.code = StartCode.four.bytes ∨ u.code = .three := by
          cases u.code <;> simp
        refine ih (v := w) (d := d + 4 - u.code.bytes.length) (by simp) ?_ (by omega)
          (by rw [boundary]; exact h.advance) ?_ (by rw [boundary]; exact rest)
        · rcases sound with four | three
          · have length : u.code.bytes.length = 4 := by rw [four]; rfl
            rcases drift with behind | ⟨x, member, code⟩
            · exact Or.inl (by omega)
            · rcases List.mem_cons.mp (by simpa using member) with rfl | member
              · rw [code] at length; cases length
              · exact Or.inr ⟨x, by simpa using member, code⟩
          · exact Or.inl (by rw [three]; show 0 < d + 4 - 3; omega)
        · have short : u.code.bytes.length ≤ 4 := by cases u.code <;> decide
          omega

theorem splitsExactly_of_four {base : Nat} {us : List NalUnit} (notNull : base ≠ 0)
    (units : ∀ u ∈ us, IsNal u.nal) (four : ∀ u ∈ us.dropLast, u.code = .four) : SplitsExactly base us := by
  obtain ⟨final, run, stop⟩ := selectAll_exact (v := ⟨base, (annexB us).length, 0, 0⟩) units four notNull
    (Segment.holds_base ⟨base, annexB us⟩) rfl
  exact ⟨us.length, final, run, stop⟩

theorem four_of_splitsExactly {base : Nat} {us : List NalUnit} (notNull : base ≠ 0)
    (exact : SplitsExactly base us) : ∀ u ∈ us.dropLast, u.code = .four := by
  intro u member
  obtain ⟨fuel, final, run, -⟩ := exact
  cases code : u.code with
  | four => rfl
  | three =>
    refine absurd run (selectAll_drift (d := 0) ?_ (Or.inr ⟨u, member, code⟩) notNull
      (Segment.holds_base ⟨base, annexB us⟩) (by simp))
    rintro rfl
    simp at member

/-- `SelectNextNal` splits a stream exactly when every unit but the last has a
four-byte start code. -/
theorem splitsExactly_iff {base : Nat} {us : List NalUnit} (notNull : base ≠ 0)
    (units : ∀ u ∈ us, IsNal u.nal) : SplitsExactly base us ↔ ∀ u ∈ us.dropLast, u.code = .four :=
  ⟨four_of_splitsExactly notNull, splitsExactly_of_four notNull units⟩

/-- The stream `00 00 00 01 40 01 00 00 01 42 01`. -/
theorem splitsExactly_iff_mixed :
    SplitsExactly 4 [⟨.four, [0x40, 1]⟩, ⟨.three, [0x42, 1]⟩] ↔
      ∀ u ∈ [(⟨.four, [0x40, 1]⟩ : NalUnit), ⟨.three, [0x42, 1]⟩].dropLast, u.code = .four :=
  splitsExactly_iff (by decide) (by decide)

/-- The stream `00 00 01 40 01 00 00 01 42 01` is not split exactly. -/
theorem not_splitsExactly_three : ¬ SplitsExactly 4 [⟨.three, [0x40, 1]⟩, ⟨.three, [0x42, 1]⟩] :=
  fun exact => absurd (four_of_splitsExactly (by decide) exact) (by decide)

end RtspServer
