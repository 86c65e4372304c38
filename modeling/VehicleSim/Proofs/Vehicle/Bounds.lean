import VehicleSim.Proofs.Number.Order
import VehicleSim.Proofs.Drive.Division
import VehicleSim.Proofs.Vehicle.Runs

/-!
Bounds on the parameters of a vehicle, kept whatever is set, whichever preset is taken on and however often the
vehicle is stepped.
-/

set_option autoImplicit false

namespace VehicleSim

open Binary32 (AtLeast Within)

def Vec3.All (axis : Float32 → Prop) (v : Vec3 Float32) : Prop := axis v.x ∧ axis v.y ∧ axis v.z

instance (axis : Float32 → Prop) [DecidablePred axis] (v : Vec3 Float32) : Decidable (v.All axis) :=
  inferInstanceAs (Decidable (axis v.x ∧ axis v.y ∧ axis v.z))

abbrev Timescale.Safe : Float32 → Prop := AtLeast Timescale.least

structure Motor.Bounded (motor : Motor Float32) : Prop where
  timescale : Timescale.Safe motor.timescale
  decayTimescale : Within Timescale.least Timescale.longestDecay motor.decayTimescale
  frictionTimescale : motor.frictionTimescale.All Timescale.Safe

structure Params.Bounded (params : Params Float32) : Prop where
  linear : params.linear.Bounded
  angular : params.angular.Bounded
  requestedTurn : ∀ turn ∈ params.angular.requested, turn.All (Within (-Params.fastestTurn) Params.fastestTurn)
  linearDeflectionEfficiency : Within 0 1 params.linearDeflectionEfficiency
  linearDeflectionTimescale : Timescale.Safe params.linearDeflectionTimescale
  angularDeflectionEfficiency : Within 0 1 params.angularDeflectionEfficiency
  angularDeflectionTimescale : Timescale.Safe params.angularDeflectionTimescale
  bankingEfficiency : Within (-1) 1 params.bankingEfficiency
  bankingMix : AtLeast 0 params.bankingMix
  bankingTimescale : Timescale.Safe params.bankingTimescale
  hoverEfficiency : Within 0 1 params.hoverEfficiency ∨
    params.hoverEfficiency = (Preset.sled : Preset Float32).hoverEfficiency
  hoverTimescale : Timescale.Safe params.hoverTimescale
  buoyancy : Within (-1) 1 params.buoyancy
  verticalAttractionEfficiency : Within 0 1 params.verticalAttractionEfficiency
  verticalAttractionTimescale : Timescale.Safe params.verticalAttractionTimescale

theorem safe_positive (timescale : Float32) (safe : Timescale.Safe timescale) :
    0 < timescale ∧ timescale.isNaN = false :=
  ⟨Binary32.positive_of_le Timescale.least timescale (by decide) safe.1, safe.2⟩

theorem motor_divisors_positive (motor : Motor Float32) (bounded : motor.Bounded) (divisor : Float32)
    (member : divisor ∈ motor.divisors) : 0 < divisor ∧ divisor.isNaN = false := by
  have decay : Timescale.Safe motor.decayTimescale := ⟨bounded.decayTimescale.1, bounded.decayTimescale.2.2⟩
  obtain ⟨x, y, z⟩ := bounded.frictionTimescale
  apply safe_positive
  simp only [Motor.divisors, List.mem_cons, List.not_mem_nil, or_false] at member
  rcases member with rfl | rfl | rfl | rfl | rfl
  · exact bounded.timescale
  · exact decay
  · exact x
  · exact y
  · exact z

theorem divisors_positive (params : Params Float32) (bounded : params.Bounded) (divisor : Float32)
    (member : divisor ∈ params.divisors) : 0 < divisor ∧ divisor.isNaN = false := by
  rw [Params.divisors, List.mem_append, List.mem_append] at member
  rcases member with (linear | angular) | stage
  · exact motor_divisors_positive params.linear bounded.linear divisor linear
  · exact motor_divisors_positive params.angular bounded.angular divisor angular
  · apply safe_positive
    simp only [List.mem_cons, List.not_mem_nil, or_false] at stage
    rcases stage with rfl | rfl | rfl | rfl | rfl
    · exact bounded.hoverTimescale
    · exact bounded.linearDeflectionTimescale
    · exact bounded.verticalAttractionTimescale
    · exact bounded.angularDeflectionTimescale
    · exact bounded.bankingTimescale

namespace Params

theorem at_least_timescale (value : Float32) : Timescale.Safe (atLeastTimescale value) :=
  Binary32.max_at_least value Timescale.least (by decide)

theorem decay_range (value : Float32) : Within Timescale.least Timescale.longestDecay (decayRange value) :=
  Binary32.clamp_within _ value _ (by decide)

theorem unit_range (value : Float32) : Within 0 1 (unitRange value) := Binary32.clamp_within 0 value 1 (by decide)

theorem signed_unit_range (value : Float32) : Within (-1) 1 (signedUnitRange value) :=
  Binary32.clamp_within (-1) value 1 (by decide)

theorem attraction_range (value : Float32) : Within 0 1 (Scalar.clampInRange 0.1 value 1) := by
  obtain ⟨above, below, number⟩ := Binary32.clamp_within 0.1 value 1 (by decide)
  exact ⟨Binary32.le_of_lt 0 _ (Binary32.positive_of_le 0.1 _ (by decide) above), below, number⟩

theorem banking_mix_range (value : Float32) : AtLeast 0 (atLeastTimescale value) := by
  obtain ⟨positive, number⟩ := safe_positive _ (at_least_timescale value)
  exact ⟨Binary32.le_of_lt 0 _ positive, number⟩

end Params

open Params

theorem initial_motor_bounded : (Motor.initial : Motor Float32).Bounded := ⟨by decide, by decide, by decide⟩

theorem initial_bounded (cutoff : Float32) :
    Params.Bounded { Params.initial with verticalAttractionCutoff := cutoff } := by
  have initial : (Params.initial : Params Float32).Bounded := by
    refine ⟨initial_motor_bounded, initial_motor_bounded, ?_, ?_, ?_, ?_, ?_, ?_, ?_, ?_, ?_, ?_, ?_, ?_, ?_⟩ <;> decide
  exact { initial with }

theorem set_vector_bounded (params : Params Float32) (param : Param) (value : Vec3 Float32)
    (bounded : params.Bounded) : (params.setVector param value).Bounded := by
  have friction : (value.map atLeastTimescale).All Timescale.Safe :=
    ⟨at_least_timescale value.x, at_least_timescale value.y, at_least_timescale value.z⟩
  cases param with
  | angularFrictionTimescale =>
      exact { bounded with angular := { bounded.angular with frictionTimescale := friction } }
  | linearFrictionTimescale =>
      exact { bounded with linear := { bounded.linear with frictionTimescale := friction } }
  | angularMotorDirection =>
      have slow (turn : Float32) : Within (-fastestTurn) fastestTurn (Scalar.clampInRange (-fastestTurn) turn fastestTurn) :=
        Binary32.clamp_within _ turn _ (by decide)
      refine { bounded with angular := { bounded.angular with }, requestedTurn := ?_ }
      rintro turn ⟨⟩
      exact ⟨slow value.x, slow value.y, slow value.z⟩
  | linearMotorDirection => exact { bounded with linear := { bounded.linear with } }
  | _ => exact { bounded with }

theorem set_float_bounded (params : Params Float32) (param : Param) (value : Float32) (bounded : params.Bounded) :
    (params.setFloat param value).Bounded := by
  cases param with
  | angularDeflectionEfficiency => exact { bounded with angularDeflectionEfficiency := unit_range value }
  | angularDeflectionTimescale => exact { bounded with angularDeflectionTimescale := at_least_timescale value }
  | angularMotorDecayTimescale =>
      exact { bounded with angular := { bounded.angular with decayTimescale := decay_range value } }
  | angularMotorTimescale =>
      exact { bounded with angular := { bounded.angular with timescale := at_least_timescale value } }
  | bankingEfficiency => exact { bounded with bankingEfficiency := signed_unit_range value }
  | bankingMix => exact { bounded with bankingMix := banking_mix_range value }
  | bankingTimescale => exact { bounded with bankingTimescale := at_least_timescale value }
  | buoyancy => exact { bounded with buoyancy := signed_unit_range value }
  | hoverEfficiency => exact { bounded with hoverEfficiency := Or.inl (unit_range value) }
  | hoverHeight => exact { bounded with }
  | hoverTimescale => exact { bounded with hoverTimescale := at_least_timescale value }
  | linearDeflectionEfficiency => exact { bounded with linearDeflectionEfficiency := unit_range value }
  | linearDeflectionTimescale => exact { bounded with linearDeflectionTimescale := at_least_timescale value }
  | linearMotorDecayTimescale =>
      exact { bounded with linear := { bounded.linear with decayTimescale := decay_range value } }
  | linearMotorTimescale =>
      exact { bounded with linear := { bounded.linear with timescale := at_least_timescale value } }
  | verticalAttractionEfficiency => exact { bounded with verticalAttractionEfficiency := attraction_range value }
  | verticalAttractionTimescale => exact { bounded with verticalAttractionTimescale := at_least_timescale value }
  | angularFrictionTimescale => exact set_vector_bounded params .angularFrictionTimescale (Vec3.all value) bounded
  | angularMotorDirection => exact set_vector_bounded params .angularMotorDirection (Vec3.all value) bounded
  | linearFrictionTimescale => exact set_vector_bounded params .linearFrictionTimescale (Vec3.all value) bounded
  | linearMotorDirection => exact set_vector_bounded params .linearMotorDirection (Vec3.all value) bounded
  | linearMotorOffset => exact set_vector_bounded params .linearMotorOffset (Vec3.all value) bounded
  | referenceFrame => exact bounded
  | rollFrame => exact bounded
  | blockExit => exact bounded

theorem set_rotation_bounded (params : Params Float32) (param : Param) (value : Quat Float32)
    (bounded : params.Bounded) : (params.setRotation param value).Bounded := by
  cases param with
  | referenceFrame => exact { bounded with }
  | rollFrame => exact { bounded with }
  | _ => exact bounded

theorem apply_preset_bounded (params : Params Float32) (kind : Kind) : (params.applyPreset kind).Bounded := by
  have stored : ((Params.initial : Params Float32).applyPreset kind).Bounded := by
    cases kind <;>
      refine ⟨⟨?_, ?_, ?_⟩, ⟨?_, ?_, ?_⟩, ?_, ?_, ?_, ?_, ?_, ?_, ?_, ?_, ?_, ?_, ?_, ?_, ?_⟩ <;> decide
  exact { stored with }

theorem advance_bounded (motor : Motor Float32) (dt : Float32) (bounded : motor.Bounded) :
    (motor.advance dt).Bounded := { bounded with }

theorem move_bounded (input : StepInput Float32) (params : Params Float32) (rig : Rig Float32)
    (bounded : params.Bounded) : (Vehicle.move input params rig).1.Bounded := by
  obtain ⟨target, moved⟩ := move_params input params rig
  rw [moved]
  exact { bounded with
    linear := advance_bounded params.linear input.dt bounded.linear
    angular := advance_bounded params.angular input.dt bounded.angular
    requestedTurn := nofun }

namespace Flags

def word (flags : Flags) : BitVec 32 := flags.bits.setWidth 32

def known : BitVec 32 := 0xffff

theorem known_bit (bit : Nat) : known.getLsbD bit = decide (bit < 16) := by
  have widened : known = (BitVec.allOnes 16).setWidth 32 := rfl
  rw [widened, BitVec.getLsbD_setWidth, BitVec.getLsbD_allOnes]
  by_cases low : bit < 16
  · simp [low, Nat.lt_trans low (by decide : 16 < 32)]
  · simp [low]

theorem word_bit (flags : Flags) (bit : Nat) : flags.word.getLsbD bit = flags.bits.getLsbD bit := by
  rw [word, BitVec.getLsbD_setWidth]
  by_cases inside : bit < 32
  · simp [inside]
  · simp [BitVec.getLsbD_of_ge flags.bits bit (by omega)]

theorem word_known (flags : Flags) : flags.word &&& ~~~known = 0 := by
  apply BitVec.eq_of_getLsbD_eq
  intro bit inside
  rw [BitVec.getLsbD_and, BitVec.getLsbD_not, word_bit, known_bit]
  by_cases low : bit < 16
  · simp [low]
  · simp [BitVec.getLsbD_of_ge flags.bits bit (by omega)]

theorem word_add (flags more : Flags) : (flags.add more).word = flags.word ||| more.word := by
  simp [word, add]

theorem word_remove (flags fewer : Flags) : (flags.remove fewer).word = flags.word &&& ~~~fewer.word := by
  apply BitVec.eq_of_getLsbD_eq
  intro bit inside
  rw [BitVec.getLsbD_and, BitVec.getLsbD_not, word_bit, word_bit, word_bit, remove, BitVec.getLsbD_and,
    BitVec.getLsbD_not]
  by_cases low : bit < 16
  · simp [low, inside]
  · simp [BitVec.getLsbD_of_ge flags.bits bit (by omega)]

theorem word_of_mask (mask : Int) : (ofMask mask).word = BitVec.ofInt 32 mask &&& known := by
  apply BitVec.eq_of_getLsbD_eq
  intro bit inside
  rw [BitVec.getLsbD_and, word_bit, known_bit, ofMask, BitVec.getLsbD_setWidth, Bool.and_comm]

def follow (word : BitVec 32) : VehicleAction Float32 → BitVec 32
  | .setType kind _ =>
      let preset : Preset Float32 := Preset.ofKind kind
      word &&& ~~~(ofList preset.cleared).word ||| (ofList preset.raised).word
  | .setFlags mask remove =>
      let named := BitVec.ofInt 32 mask &&& known
      if mask = -1 then 0 else if remove then word &&& ~~~named else word ||| named
  | _ => word

end Flags

theorem set_flags_word (params : Params Float32) (mask : Int) (remove : Bool) :
    (params.setFlags mask remove).flags.word = Flags.follow params.flags.word (.setFlags mask remove) := by
  simp only [setFlags, Flags.follow]
  split
  · rfl
  · split
    · rw [Flags.word_remove, Flags.word_of_mask]
    · rw [Flags.word_add, Flags.word_of_mask]

theorem apply_preset_word (params : Params Float32) (kind : Kind) (schedule : Schedule) :
    (params.applyPreset kind).flags.word = Flags.follow params.flags.word (.setType kind schedule) := by
  simp only [applyPreset, Preset.applyFlags, Flags.follow, Flags.word_add, Flags.word_remove]

namespace Vehicle

theorem act_params (vehicle : Vehicle Float32) (action : VehicleAction Float32) (enabled : vehicle.enabled = true)
    (bounded : vehicle.params.Bounded) :
    (vehicle.act action).1.enabled = true ∧ (vehicle.act action).1.params.Bounded ∧
      (vehicle.act action).1.params.flags.word = Flags.follow vehicle.params.flags.word action := by
  cases action with
  | setType kind schedule =>
      simp only [act, set_type_vehicle vehicle kind schedule enabled]
      exact ⟨enabled, apply_preset_bounded vehicle.params kind, apply_preset_word vehicle.params kind schedule⟩
  | setFloat param value =>
      exact ⟨enabled, set_float_bounded vehicle.params param value bounded,
        congrArg Flags.word (set_float_flags vehicle.params param value)⟩
  | setVector param value =>
      exact ⟨enabled, set_vector_bounded vehicle.params param value bounded,
        congrArg Flags.word (set_vector_flags vehicle.params param value)⟩
  | setRotation param value =>
      exact ⟨enabled, set_rotation_bounded vehicle.params param value bounded,
        congrArg Flags.word (set_rotation_flags vehicle.params param value)⟩
  | setFlags mask remove => exact ⟨enabled, { bounded with }, set_flags_word vehicle.params mask remove⟩
  | configure body =>
      obtain ⟨mass, gravity, pull, configured⟩ := vehicle.configure_vehicle body
      simp only [act, configured]
      exact ⟨enabled, bounded, rfl⟩
  | step body landscape dt =>
      obtain ⟨linear, angular, target, known, last, stepped⟩ := vehicle.step_vehicle body landscape dt
      refine ⟨(congrArg Vehicle.enabled stepped).trans enabled, ?_, congrArg (·.params.flags.word) stepped⟩
      change (vehicle.step body landscape dt).1.params.Bounded
      rw [step_params]
      split
      · exact move_bounded _ vehicle.params _ bounded
      · exact bounded

-- A division that may give anything at all for zero, a negative divisor or NaN. The roots and cosines that a step
-- divides by come from the state of the body and not from a parameter, so they stand apart.
structure RightWherePositive (div : Float32 → Float32 → Float32) : Prop where
  positive : ∀ divisor, 0 < divisor → divisor.isNaN = false → RightFor div divisor
  root : ∀ bound square : Float32, bound * bound < square → RightFor div (Scalar.sqrt square)
  cosine : ∀ sine : Float32, Scalar.abs sine < 1 → RightFor div (Scalar.cos (-Scalar.asin sine))

theorem step_bounded_divided (vehicle : Vehicle Float32) (bounded : vehicle.params.Bounded)
    (div : Float32 → Float32 → Float32) (right : RightWherePositive div) (body : BodyView Float32)
    (landscape : Landscape Float32) (dt : Float32) :
    @step Float32 (dividing div) vehicle body landscape dt = vehicle.step body landscape dt := by
  apply step_divided
  · intro divisor member
    obtain ⟨positive, number⟩ := divisors_positive vehicle.params bounded divisor member
    exact right.positive divisor positive number
  · exact ⟨right.positive 2.0 (by decide) (by decide), right.root, right.cosine⟩

/-- Whatever a script sets and however often the vehicle is stepped, its parameters stay in their ranges and no flag
is set but the known ones. So no stage divides by a parameter that is zero, negative or not a number: the next step is
the same with a division that gives anything at all for those. -/
theorem parameters_stay_bounded (id : ObjectId) (tuning : Tuning Float32) (actions : List (VehicleAction Float32)) :
    let vehicle := (Vehicle.create id tuning).run actions
    vehicle.params.Bounded ∧ (∀ divisor ∈ vehicle.params.divisors, 0 < divisor ∧ divisor.isNaN = false) ∧
      vehicle.params.flags.word = actions.foldl Flags.follow 0 ∧ vehicle.params.flags.word &&& ~~~Flags.known = 0 ∧
      ∀ div, RightWherePositive div → ∀ body landscape dt,
        @step Float32 (dividing div) vehicle body landscape dt = vehicle.step body landscape dt := by
  have kept : ∀ (actions : List (VehicleAction Float32)) (vehicle : Vehicle Float32), vehicle.enabled = true →
      vehicle.params.Bounded → (vehicle.run actions).params.Bounded ∧
        (vehicle.run actions).params.flags.word = actions.foldl Flags.follow vehicle.params.flags.word := by
    intro actions
    induction actions with
    | nil => exact fun vehicle enabled bounded => ⟨bounded, rfl⟩
    | cons action rest ih =>
        intro vehicle enabled bounded
        obtain ⟨still, stays, flags⟩ := vehicle.act_params action enabled bounded
        rw [List.foldl_cons, ← flags]
        exact ih (vehicle.act action).1 still stays
  obtain ⟨bounded, flags⟩ :=
    kept actions (Vehicle.create id tuning) rfl (initial_bounded tuning.verticalAttractionCutoff)
  exact ⟨bounded, divisors_positive _ bounded, flags, Flags.word_known _, step_bounded_divided _ bounded⟩

end Vehicle

end VehicleSim
