import VehicleSim.Proofs.Number.Exact
import VehicleSim.Proofs.Drive.Hover
import VehicleSim.Proofs.Space.Axes

/-!
The pull on a vehicle that hovers upward only, in exact arithmetic. Above its level hover adds the whole weight of the
body, and gravity then adds the share that the buoyancy leaves. Together they are the weight when nothing is left, at a
buoyancy of one.
-/

set_option autoImplicit false

namespace VehicleSim

def Accumulator.total {α : Type} [Scalar α] (sum : Accumulator α) : Vec3 α := if sum.changed then sum.value else 0

theorem Accumulator.total_add {α : Type} [Scalar α] (sum : Accumulator α) (term : Vec3 α) :
    (sum.add term).total = sum.total + term := rfl

namespace Drive

noncomputable def hoverPull (input : StepInput ℝ) (params : Params ℝ) (rig : Rig ℝ) : Vec3 ℝ :=
  let hovered := hover input params rig
  (applyGravity input hovered.1 hovered.2).cache.force.total - rig.cache.force.total

theorem hover_pull_eq (input : StepInput ℝ) (params : Params ℝ) (rig : Rig ℝ) (surveyed : rig.Surveyed)
    (enabled : params.hoverEnabled input.tuning.hoverTimescaleCutoff = true) (apart : rig.body.colliding = false) :
    hoverPull input params rig =
      (if params.overLevel rig.landscape rig.position.1 && params.buoyancy != 0 then input.gravity * input.mass else 0) +
        input.vehicleGravity * input.mass := by
  obtain ⟨-, body, force⟩ := hover_effect input params rig surveyed enabled
  have free : (hover input params rig).2.body.colliding = false := by rw [body, apart]
  have pulled : (applyGravity input (hover input params rig).1 (hover input params rig).2).cache.force =
      (hover input params rig).2.cache.force.add (input.vehicleGravity * input.mass) := by
    simp [applyGravity, free, Rig.addForce]
  rw [hoverPull, pulled, Accumulator.total_add, force]
  by_cases lost : (params.overLevel rig.landscape rig.position.1 && params.buoyancy != 0) = true
  · rw [if_pos lost, if_pos lost, Accumulator.total_add]
    ext <;> simp <;> ring
  · rw [if_neg lost, if_neg lost]
    ext <;> simp

theorem over_level_iff (params : Params ℝ) (landscape : Landscape ℝ) (position : Vec3 ℝ)
    (upOnly : params.flags.has .hoverUpOnly = true) :
    params.overLevel landscape position = true ↔ params.hoverLevel landscape position.x position.y < position.z := by
  simp [Params.overLevel, upOnly]

theorem buoyant_iff (params : Params ℝ) : (params.buoyancy != 0) = true ↔ params.buoyancy ≠ 0 := by
  change (!decide (params.buoyancy = 0)) = true ↔ params.buoyancy ≠ 0
  simp

theorem component_kept_iff (component buoyancy : ℝ) :
    component * (2 - buoyancy) = component ↔ buoyancy = 1 ∨ component = 0 := by
  constructor
  · intro kept
    have product : (buoyancy - 1) * component = 0 := by linarith
    rcases mul_eq_zero.mp product with one | zero
    · exact Or.inl (sub_eq_zero.mp one)
    · exact Or.inr zero
  · rintro (rfl | rfl)
    · norm_num
    · norm_num

theorem weight_kept_iff (weight : Vec3 ℝ) (buoyancy : ℝ) :
    weight * (2 - buoyancy) = weight ↔ buoyancy = 1 ∨ weight = 0 := by
  simp only [Vec3.ext_iff, Vec3.scale_x, Vec3.scale_y, Vec3.scale_z, Vec3.zero_x, Vec3.zero_y, Vec3.zero_z,
    component_kept_iff]
  tauto

/-- The pull on a buoyant body that hovers upward only. At its level and below, it is the share of the weight that the
buoyancy leaves. Above, the whole weight is added to that share, and the sum is the weight itself only if the buoyancy
is one or there is no weight. -/
theorem up_only_pull (input : StepInput ℝ) (params : Params ℝ) (rig : Rig ℝ) (surveyed : rig.Surveyed)
    (enabled : params.hoverEnabled input.tuning.hoverTimescaleCutoff = true)
    (upOnly : params.flags.has .hoverUpOnly = true) (apart : rig.body.colliding = false)
    (buoyant : params.buoyancy ≠ 0) (pulled : input.vehicleGravity = params.vehicleGravity input.gravity) :
    let weight := input.gravity * input.mass
    let above := params.hoverLevel rig.landscape rig.position.1.x rig.position.1.y < rig.position.1.z
    (¬ above → hoverPull input params rig = weight * (1 - params.buoyancy)) ∧
      (above → hoverPull input params rig = weight * (2 - params.buoyancy)) ∧
      (above → (hoverPull input params rig = weight ↔ params.buoyancy = 1 ∨ weight = 0)) := by
  intro weight above
  have pull := hover_pull_eq input params rig surveyed enabled apart
  rw [pulled] at pull
  have low (below : ¬ above) : hoverPull input params rig = weight * (1 - params.buoyancy) := by
    rw [pull, if_neg]
    · ext <;> simp [Params.vehicleGravity, weight] <;> ring
    · rw [Bool.and_eq_true, over_level_iff params rig.landscape rig.position.1 upOnly]
      exact fun lost => below lost.1
  have high (higher : above) : hoverPull input params rig = weight * (2 - params.buoyancy) := by
    rw [pull, if_pos]
    · ext <;> simp [Params.vehicleGravity, weight] <;> ring
    · rw [Bool.and_eq_true, over_level_iff params rig.landscape rig.position.1 upOnly, buoyant_iff]
      exact ⟨higher, buoyant⟩
  refine ⟨low, high, ?_⟩
  intro higher
  rw [high higher]
  exact weight_kept_iff weight params.buoyancy

noncomputable def boatOf (buoyancy : ℝ) : Params ℝ :=
  { (Params.initial.applyPreset .boat).setFloat .hoverHeight 1 with buoyancy }

noncomputable def onLake (buoyancy : ℝ) : StepInput ℝ where
  dt := 0.1
  tuning := .initial
  mass := 10.0
  gravity := ⟨0, 0, -9.8⟩
  vehicleGravity := (boatOf buoyancy).vehicleGravity ⟨0, 0, -9.8⟩
  lastPosition := none

noncomputable def highUp : Rig ℝ :=
  (Rig.bind .fresh (.restingAt ⟨1, 1, 30⟩) ⟨fun _ _ => 0, fun _ _ => 20⟩).forget

theorem boat_flags (buoyancy : ℝ) :
    (boatOf buoyancy).flags = Flags.ofList [.noDeflectionUp, .limitMotorUp, .hoverWaterOnly, .hoverUpOnly] := by
  change (Flags.empty.remove (Flags.ofList [.hoverTerrainOnly, .hoverGlobalHeight, .limitRollOnly])).add
    (Flags.ofList [.noDeflectionUp, .limitMotorUp, .hoverWaterOnly, .hoverUpOnly]) = _
  decide

theorem boat_hovers (buoyancy : ℝ) :
    (boatOf buoyancy).hoverEnabled (onLake buoyancy).tuning.hoverTimescaleCutoff = true := by
  have mode : (boatOf buoyancy).flags.hasAny Flags.hoverModes = true := by
    rw [boat_flags]
    decide
  have height : (0 : ℝ) < (boatOf buoyancy).hoverHeight := one_pos
  have fast : (boatOf buoyancy).hoverTimescale < (onLake buoyancy).tuning.hoverTimescaleCutoff := by
    change (2.0 : ℝ) < 300.0
    norm_num
  simp [Params.hoverEnabled, mode, height, fast]

theorem boat_up_only (buoyancy : ℝ) : (boatOf buoyancy).flags.has .hoverUpOnly = true := by
  rw [boat_flags]
  decide

theorem boat_above_level (buoyancy : ℝ) :
    (boatOf buoyancy).hoverLevel highUp.landscape highUp.position.1.x highUp.position.1.y < highUp.position.1.z := by
  have fixed : (boatOf buoyancy).flags.has .hoverGlobalHeight = false := by
    rw [boat_flags]
    decide
  have terrain : (boatOf buoyancy).flags.has .hoverTerrainOnly = false := by
    rw [boat_flags]
    decide
  have water : (boatOf buoyancy).flags.has .hoverWaterOnly = true := by
    rw [boat_flags]
    decide
  simp only [Params.hoverLevel, fixed, terrain, water]
  change (20 : ℝ) + 1 < 30
  norm_num

theorem full_buoyancy_is_lost :
    (boatOf 1).hoverLevel highUp.landscape highUp.position.1.x highUp.position.1.y < highUp.position.1.z ∧
      hoverPull (onLake 1) (boatOf 1) highUp = (⟨0, 0, -9.8⟩ : Vec3 ℝ) * (10.0 : ℝ) := by
  have above := boat_above_level 1
  have pull := up_only_pull (onLake 1) (boatOf 1) highUp (Rig.surveyed_forget _) (boat_hovers 1) (boat_up_only 1) rfl
    one_ne_zero rfl
  exact ⟨above, (pull.2.2 above).mpr (Or.inl rfl)⟩

-- With half the buoyancy the pull is one and a half times the weight.
theorem half_buoyancy_pulls_down :
    (boatOf 0.5).hoverLevel highUp.landscape highUp.position.1.x highUp.position.1.y < highUp.position.1.z ∧
      (hoverPull (onLake 0.5) (boatOf 0.5) highUp).z = -147 ∧
      hoverPull (onLake 0.5) (boatOf 0.5) highUp ≠ (⟨0, 0, -9.8⟩ : Vec3 ℝ) * (10.0 : ℝ) := by
  have above := boat_above_level 0.5
  have lost : ((boatOf 0.5).overLevel highUp.landscape highUp.position.1 && (boatOf 0.5).buoyancy != 0) = true := by
    rw [Bool.and_eq_true, over_level_iff _ _ _ (boat_up_only 0.5), buoyant_iff]
    refine ⟨above, ?_⟩
    change (0.5 : ℝ) ≠ 0
    norm_num
  have pull := hover_pull_eq (onLake 0.5) (boatOf 0.5) highUp (Rig.surveyed_forget _) (boat_hovers 0.5) rfl
  rw [if_pos lost] at pull
  have down : (hoverPull (onLake 0.5) (boatOf 0.5) highUp).z = -147 := by
    rw [pull]
    change (-9.8 : ℝ) * 10.0 + -9.8 * (1 - 0.5) * 10.0 = -147
    norm_num
  refine ⟨above, down, ?_⟩
  intro same
  rw [same] at down
  change (-9.8 : ℝ) * 10.0 = -147 at down
  norm_num at down

end Drive

end VehicleSim
