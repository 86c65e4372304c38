import Mathlib.Data.Int.Bitwise
import VehicleSim.Proofs.History.Lineup
import VehicleSim.Proofs.Vehicle.Bounds

/-!
The flags of a vehicle after any history. Masks and presets each have a say on some of the flags, and every flag goes by
the last one that had a say on it.
-/

set_option autoImplicit false

namespace VehicleSim

variable {α : Type} [Scalar α]

-- Whether this flag is set or cleared from here on, if the action is about it. A mask other than -1 is about the flags
-- whose bits it has in two's complement.
def VehicleAction.verdict (flag : Flag) : VehicleAction α → Option Bool
  | .setFlags mask remove =>
      if mask = -1 then some false else if mask.testBit flag.index then some (!remove) else none
  | .setType kind _ =>
      let preset : Preset α := Preset.ofKind kind
      if flag ∈ preset.raised then some true else if flag ∈ preset.cleared then some false else none
  | _ => none

namespace Flag

theorem index_lt (flag : Flag) : flag.index < 16 := by cases flag <;> decide

theorem index_injective (flag other : Flag) (same : flag.index = other.index) : flag = other := by
  revert same
  cases flag <;> cases other <;> decide

theorem of_index (bit : Nat) (known : bit < 16) : ∃ flag : Flag, flag.index = bit := by
  have all : ∀ bit : Fin 16, ∃ flag ∈ Flag.all, flag.index = bit := by decide
  obtain ⟨flag, _, same⟩ := all ⟨bit, known⟩
  exact ⟨flag, same⟩

end Flag

namespace Flags

theorem has_single (flag other : Flag) :
    has ⟨BitVec.twoPow 16 other.index⟩ flag = decide (flag = other) := by
  have known := other.index_lt
  rw [has, BitVec.getLsbD_twoPow]
  by_cases same : flag = other
  · simp [same, known]
  · have apart : other.index ≠ flag.index := fun equal => same (Flag.index_injective other flag equal).symm
    simp [same, apart]

theorem has_of_list (flags : List Flag) (flag : Flag) : (ofList flags).has flag = decide (flag ∈ flags) := by
  have grows : ∀ (flags : List Flag) (start : Flags),
      (flags.foldl (fun set flag => set.add ⟨BitVec.twoPow 16 flag.index⟩) start).has flag =
        (start.has flag || decide (flag ∈ flags)) := by
    intro flags
    induction flags with
    | nil => intro start; simp
    | cons first rest ih =>
        intro start
        rw [List.foldl_cons, ih, has_add, has_single, Bool.or_assoc]
        simp
  rw [ofList, grows, has_empty, Bool.false_or]

theorem has_of_mask (mask : Int) (flag : Flag) : (ofMask mask).has flag = mask.testBit flag.index := by
  have known := flag.index_lt
  have inside : flag.index < 32 := Nat.lt_trans known (by decide)
  rw [has, ofMask, BitVec.getLsbD_setWidth, decide_eq_true known, Bool.true_and]
  cases mask with
  | ofNat mask =>
      rw [Int.ofNat_eq_natCast, BitVec.ofInt_natCast, BitVec.getLsbD_ofNat, decide_eq_true inside, Bool.true_and]
      rfl
  | negSucc mask =>
      rw [BitVec.ofInt_negSucc_eq_not_ofNat, BitVec.getLsbD_not, BitVec.getLsbD_ofNat, decide_eq_true inside,
        Bool.true_and]
      rfl

end Flags

theorem has_set_flags (params : Params α) (mask : Int) (remove : Bool) (flag : Flag) :
    (params.setFlags mask remove).flags.has flag =
      ((VehicleAction.setFlags mask remove : VehicleAction α).verdict flag).getD (params.flags.has flag) := by
  simp only [Params.setFlags, VehicleAction.verdict]
  by_cases all : mask = -1
  · simp [all, Flags.has_empty]
  · cases remove <;> by_cases named : mask.testBit flag.index = true <;>
      simp [all, named, Flags.has_add, Flags.has_remove, Flags.has_of_mask]

theorem has_apply_preset (params : Params α) (kind : Kind) (schedule : Schedule) (flag : Flag) :
    (params.applyPreset kind).flags.has flag =
      ((VehicleAction.setType kind schedule : VehicleAction α).verdict flag).getD (params.flags.has flag) := by
  simp only [Params.applyPreset, Preset.applyFlags, VehicleAction.verdict, Flags.has_add, Flags.has_remove,
    Flags.has_of_list]
  by_cases raised : flag ∈ (Preset.ofKind kind : Preset α).raised
  · simp [raised]
  · by_cases cleared : flag ∈ (Preset.ofKind kind : Preset α).cleared <;> simp [raised, cleared]

namespace Vehicle

theorem has_act (vehicle : Vehicle α) (action : VehicleAction α) (enabled : vehicle.enabled = true) (flag : Flag) :
    (vehicle.act action).1.params.flags.has flag = (action.verdict flag).getD (vehicle.params.flags.has flag) := by
  cases action with
  | setType kind schedule =>
      simp only [act, set_type_vehicle vehicle kind schedule enabled]
      exact has_apply_preset vehicle.params kind schedule flag
  | setFloat param value => exact congrArg (·.has flag) (set_float_flags vehicle.params param value)
  | setVector param value => exact congrArg (·.has flag) (set_vector_flags vehicle.params param value)
  | setRotation param value => exact congrArg (·.has flag) (set_rotation_flags vehicle.params param value)
  | setFlags mask remove => exact has_set_flags vehicle.params mask remove flag
  | configure body =>
      obtain ⟨mass, gravity, pull, configured⟩ := vehicle.configure_vehicle body
      simp only [act, configured]
      rfl
  | step body landscape dt =>
      obtain ⟨linear, angular, target, known, last, stepped⟩ := vehicle.step_vehicle body landscape dt
      exact congrArg (·.params.flags.has flag) stepped

/-- A bit of the flags is set just when it is the bit of a flag and the last action that was about this flag set it; so
no bit is ever set that is no flag's. An action that is not about a flag leaves it as it is. -/
theorem flags_follow_last_verdict (id : ObjectId) (tuning : Tuning α) (history : List (VehicleAction α)) :
    let vehicle := (Vehicle.create id tuning).run history
    (∀ bit, vehicle.params.flags.word.getLsbD bit = true ↔
        ∃ flag : Flag, flag.index = bit ∧ LastVerdict (VehicleAction.verdict flag) history true) ∧
      ∀ action flag, (vehicle.act action).1.params.flags.has flag =
        (action.verdict flag).getD (vehicle.params.flags.has flag) := by
  intro vehicle
  have enabled : ∀ history : List (VehicleAction α), ((Vehicle.create id tuning).run history).enabled = true :=
    fun history => enabled_run (Vehicle.create id tuning) history rfl
  have holds (flag : Flag) :
      vehicle.params.flags.has flag = true ↔ LastVerdict (VehicleAction.verdict flag) history true := by
    apply last_verdict_iff (VehicleAction.verdict flag) history fun history =>
      ((Vehicle.create id tuning).run history).params.flags.has flag
    · exact Flags.has_empty flag
    · intro earlier action
      rw [run_then]
      exact has_act _ action (enabled earlier) flag
  refine ⟨fun bit => ?_, fun action flag => has_act vehicle action (enabled history) flag⟩
  rw [Flags.word_bit]
  constructor
  · intro set
    have known : bit < 16 := BitVec.lt_of_getLsbD set
    obtain ⟨flag, rfl⟩ := Flag.of_index bit known
    exact ⟨flag, rfl, (holds flag).mp set⟩
  · rintro ⟨flag, rfl, last⟩
    exact (holds flag).mpr last

end Vehicle

end VehicleSim
