import Mathlib.Tactic.Linarith
import VehicleSim.Proofs.Number.Exact
import VehicleSim.Drive.Translation
import VehicleSim.Proofs.Body.Survey
import VehicleSim.Proofs.Space.Axes

/-!
Where the blocking box leaves a body, in exact arithmetic. A body that is inside stays where it is. One that has crossed
a side is moved on by the way it has come, past whichever side that is. This takes back a crossing at the corner, unless
the body set out within one unit of the side at zero, and doubles most crossings at zero.
-/

set_option autoImplicit false

namespace VehicleSim.Drive

section

variable {α : Type} [Scalar α]

def blockAxis (corner last coordinate : α) : α :=
  let held := (retreat (corner - 1 ≤ coordinate) coordinate (coordinate - last)).1
  (advance (held ≤ 0) held (coordinate - last)).1

def blockTop (corner last coordinate : α) : α :=
  (retreat (corner - 1 ≤ coordinate) coordinate (coordinate - last)).1

def blocked (corner last position : Vec3 α) : Vec3 α :=
  ⟨blockAxis corner.x last.x position.x, blockAxis corner.y last.y position.y,
    blockTop corner.z last.z position.z⟩

theorem retreat_unreached (reached : Bool) (coordinate moved : α)
    (unreached : (retreat reached coordinate moved).2 = false) : (retreat reached coordinate moved).1 = coordinate := by
  cases reached with
  | true => cases unreached
  | false => rfl

theorem advance_unreached (reached : Bool) (coordinate moved : α)
    (unreached : (advance reached coordinate moved).2 = false) : (advance reached coordinate moved).1 = coordinate := by
  cases reached with
  | true => cases unreached
  | false => rfl

theorem blocking_box_position (input : StepInput α) (params : Params α) (rig : Rig α) (last : Vec3 α)
    (cornered : ¬ (params.blockExit == 0) = true) (was : input.lastPosition = some last) :
    (blockingBox input params rig).position.1 = blocked params.blockExit last rig.position.1 := by
  rw [blockingBox, if_neg cornered, was]
  dsimp only
  split
  · rfl
  · rename_i unreached
    simp only [Bool.or_eq_true, not_or, Bool.not_eq_true] at unreached
    obtain ⟨⟨⟨⟨pastX, pastY⟩, pastZ⟩, belowX⟩, belowY⟩ := unreached
    have x := (advance_unreached _ _ _ belowX).trans (retreat_unreached _ _ _ pastX)
    have y := (advance_unreached _ _ _ belowY).trans (retreat_unreached _ _ _ pastY)
    have z := retreat_unreached _ _ _ pastZ
    exact rig.position_again.trans (Vec3.ext x.symm y.symm z.symm)

end

def Inside (corner coordinate : ℝ) : Prop := 0 < coordinate ∧ coordinate < corner - 1

def InBox (corner position : Vec3 ℝ) : Prop :=
  Inside corner.x position.x ∧ Inside corner.y position.y ∧ position.z < corner.z - 1

def Undone (corner last coordinate : ℝ) : Prop :=
  Inside corner coordinate ∨ (corner - 1 ≤ coordinate ∧ 1 < last) ∨ (coordinate ≤ 0 ∧ last - coordinate < coordinate + 1)

theorem block_axis_inside (corner last coordinate : ℝ) (inside : Inside corner coordinate) :
    blockAxis corner last coordinate = coordinate := by
  have unreached : ¬ corner - 1 ≤ coordinate := not_le.mpr inside.2
  have above : ¬ coordinate ≤ 0 := not_le.mpr inside.1
  simp [blockAxis, retreat, advance, unreached, above]

theorem block_axis_past_corner (corner last coordinate : ℝ) (past : corner - 1 ≤ coordinate) :
    blockAxis corner last coordinate = if 1 < last then last - 1 else coordinate := by
  have back : coordinate - (coordinate - last + 1) = last - 1 := by ring
  by_cases far : 1 < last
  · have above : ¬ last - 1 ≤ 0 := by linarith
    simp [blockAxis, retreat, advance, past, back, far, above]
  · have below : last - 1 ≤ 0 := by linarith
    simp [blockAxis, retreat, advance, past, back, far, below]

theorem block_axis_past_zero (corner last coordinate : ℝ) (roomy : 1 < corner) (past : coordinate ≤ 0) :
    blockAxis corner last coordinate = 2 * coordinate + 1 - last := by
  have unreached : ¬ corner - 1 ≤ coordinate := by linarith
  have on : coordinate + (coordinate - last + 1) = 2 * coordinate + 1 - last := by ring
  simp [blockAxis, retreat, advance, unreached, past, on]

theorem block_top_eq (corner last coordinate : ℝ) :
    blockTop corner last coordinate = if corner - 1 ≤ coordinate then last - 1 else coordinate := by
  have back : coordinate - (coordinate - last + 1) = last - 1 := by ring
  by_cases past : corner - 1 ≤ coordinate
  · simp [blockTop, retreat, past, back]
  · simp [blockTop, retreat, past]

theorem block_top_below (corner last coordinate : ℝ) (below : last < corner - 1) :
    blockTop corner last coordinate < corner - 1 := by
  rw [block_top_eq]
  by_cases past : corner - 1 ≤ coordinate
  · rw [if_pos past]
    linarith
  · rw [if_neg past]
    exact not_le.mp past

theorem block_axis_inside_iff (corner last coordinate : ℝ) (roomy : 2 ≤ corner) (was : Inside corner last) :
    Inside corner (blockAxis corner last coordinate) ↔ Undone corner last coordinate := by
  obtain ⟨above, below⟩ := was
  by_cases past : corner - 1 ≤ coordinate
  · have positive : ¬ coordinate ≤ 0 := by linarith
    rw [block_axis_past_corner corner last coordinate past]
    by_cases far : 1 < last
    · have pulled : Inside corner (last - 1) := ⟨by linarith, by linarith⟩
      simp [Undone, past, far, pulled]
    · simp [Undone, Inside, past, far, positive, not_lt.mpr past]
  · by_cases crossed : coordinate ≤ 0
    · have low : 2 * coordinate + 1 - last < corner - 1 := by linarith
      rw [block_axis_past_zero corner last coordinate (by linarith) crossed]
      have short : 0 < 2 * coordinate + 1 - last ↔ last - coordinate < coordinate + 1 :=
        ⟨fun _ => by linarith, fun _ => by linarith⟩
      simp only [Undone, Inside, past, crossed, low, short, not_lt.mpr crossed, and_true, true_and, false_and, false_or]
    · have inside : Inside corner coordinate := ⟨not_le.mp crossed, not_le.mp past⟩
      rw [block_axis_inside corner last coordinate inside]
      exact ⟨Or.inl, fun _ => inside⟩

/-- A body that was in the box is in the box afterwards if and only if its move along each of the two closed axes is
one that the box undoes. It never stays above the box, and an axis along which it has not left the box is let be. -/
theorem blocked_body_in_box_iff (input : StepInput ℝ) (params : Params ℝ) (rig : Rig ℝ) (last : Vec3 ℝ)
    (roomy : 2 ≤ params.blockExit.x ∧ 2 ≤ params.blockExit.y) (was : input.lastPosition = some last)
    (inside : InBox params.blockExit last) :
    let corner := params.blockExit
    let before := rig.position.1
    let after := (blockingBox input params rig).position.1
    (InBox corner after ↔ Undone corner.x last.x before.x ∧ Undone corner.y last.y before.y) ∧
      after.z < corner.z - 1 ∧
      (Inside corner.x before.x → after.x = before.x) ∧ (Inside corner.y before.y → after.y = before.y) ∧
      (before.z < corner.z - 1 → after.z = before.z) := by
  intro corner before after
  obtain ⟨insideX, insideY, insideZ⟩ := inside
  have cornered : ¬ (corner == 0) = true := by
    rw [Vec3.beq_iff]
    rintro ⟨zero, -⟩
    have none : corner.x = 0 := by simpa using zero
    linarith [roomy.1]
  have placed : after = blocked corner last before := blocking_box_position input params rig last cornered was
  have below : after.z < corner.z - 1 := by
    rw [placed]
    exact block_top_below corner.z last.z before.z insideZ
  refine ⟨?_, below, ?_, ?_, ?_⟩
  · have x := block_axis_inside_iff corner.x last.x before.x roomy.1 insideX
    have y := block_axis_inside_iff corner.y last.y before.y roomy.2 insideY
    rw [← x, ← y]
    rw [placed] at below ⊢
    exact ⟨fun boxed => ⟨boxed.1, boxed.2.1⟩, fun held => ⟨held.1, held.2, below⟩⟩
  · intro inside
    rw [placed]
    exact block_axis_inside corner.x last.x before.x inside
  · intro inside
    rw [placed]
    exact block_axis_inside corner.y last.y before.y inside
  · intro inside
    rw [placed]
    exact (block_top_eq corner.z last.z before.z).trans (if_neg (not_le.mpr inside))

noncomputable def boxOfTen : Params ℝ := Params.initial.setVector .blockExit ⟨10, 10, 10⟩

noncomputable def comingFrom (last : Vec3 ℝ) : StepInput ℝ where
  dt := 0.1
  tuning := .initial
  mass := 10
  gravity := 0
  vehicleGravity := 0
  lastPosition := some last

noncomputable def arrivedAt (position : Vec3 ℝ) : Rig ℝ :=
  .bind .fresh (.restingAt position) ⟨fun _ _ => 0, fun _ _ => 0⟩

theorem body_past_corner_is_in_box :
    (2 ≤ boxOfTen.blockExit.x ∧ 2 ≤ boxOfTen.blockExit.y) ∧ InBox boxOfTen.blockExit ⟨8, 5, 5⟩ ∧
      InBox boxOfTen.blockExit (blockingBox (comingFrom ⟨8, 5, 5⟩) boxOfTen (arrivedAt ⟨9.5, 5, 5⟩)).position.1 := by
  have roomy : (2 : ℝ) ≤ 10 ∧ (2 : ℝ) ≤ 10 := by norm_num
  have inside : InBox boxOfTen.blockExit ⟨8, 5, 5⟩ := by norm_num [InBox, Inside, boxOfTen, Params.setVector]
  have kept := blocked_body_in_box_iff (comingFrom ⟨8, 5, 5⟩) boxOfTen (arrivedAt ⟨9.5, 5, 5⟩) ⟨8, 5, 5⟩ roomy rfl inside
  refine ⟨roomy, inside, kept.1.mpr ⟨Or.inr (Or.inl ?_), Or.inl ?_⟩⟩
  · change (10 : ℝ) - 1 ≤ 9.5 ∧ (1 : ℝ) < 8
    norm_num
  · change (0 : ℝ) < 5 ∧ (5 : ℝ) < 10 - 1
    norm_num

theorem body_past_zero_is_out_of_box :
    InBox boxOfTen.blockExit ⟨0.5, 5, 5⟩ ∧
      (blockingBox (comingFrom ⟨0.5, 5, 5⟩) boxOfTen (arrivedAt ⟨-3, 5, 5⟩)).position.1.x = -5.5 ∧
      ¬ InBox boxOfTen.blockExit
        (blockingBox (comingFrom ⟨0.5, 5, 5⟩) boxOfTen (arrivedAt ⟨-3, 5, 5⟩)).position.1 := by
  have cornered : ¬ (boxOfTen.blockExit == 0) = true := by
    rw [Vec3.beq_iff]
    norm_num [boxOfTen, Params.setVector]
  have placed := blocking_box_position (comingFrom ⟨0.5, 5, 5⟩) boxOfTen (arrivedAt ⟨-3, 5, 5⟩) ⟨0.5, 5, 5⟩ cornered rfl
  have pushed : (blockingBox (comingFrom ⟨0.5, 5, 5⟩) boxOfTen (arrivedAt ⟨-3, 5, 5⟩)).position.1.x = -5.5 := by
    rw [placed]
    change blockAxis (10 : ℝ) 0.5 (-3) = -5.5
    rw [block_axis_past_zero 10 0.5 (-3) (by norm_num) (by norm_num)]
    norm_num
  refine ⟨by norm_num [InBox, Inside, boxOfTen, Params.setVector], pushed, ?_⟩
  rintro ⟨⟨above, -⟩, -⟩
  rw [pushed] at above
  norm_num at above

end VehicleSim.Drive
