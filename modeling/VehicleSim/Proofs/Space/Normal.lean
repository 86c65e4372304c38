import VehicleSim.Proofs.Number.Extent
import VehicleSim.Space.Quat

/-!
When four binary32 values can be made a rotation. The length of a quaternion is taken from the sum of its squares, and
a sum that is past the format leaves nothing of the values.
-/

set_option autoImplicit false

namespace VehicleSim.Quat

open Binary32
open Float.Model (UnpackedFloat)

def components (q : Quat Float32) : List Float32 := [q.x, q.y, q.z, q.w]

def Numbers (q : Quat Float32) : Prop := ∀ component ∈ q.components, component.isNaN = false

-- A quaternion that turns vectors: finite, and not zero.
def Turns (q : Quat Float32) : Prop :=
  (∀ component ∈ q.components, component.isFinite = true) ∧
    ∃ component ∈ q.components, (component == 0) = false

instance (q : Quat Float32) : Decidable q.Numbers :=
  inferInstanceAs (Decidable (∀ component ∈ q.components, component.isNaN = false))

instance (q : Quat Float32) : Decidable q.Turns :=
  inferInstanceAs (Decidable ((∀ component ∈ q.components, component.isFinite = true) ∧
    ∃ component ∈ q.components, (component == 0) = false))

theorem identity_turns : (identity : Quat Float32).Turns := by decide +kernel

structure Squared (q : Quat Float32) : Prop where
  positive : Nonnegative (parts q.normSquared)
  infinite : (∃ component ∈ q.components, Above 64 (parts component)) → (parts q.normSquared).isInf = true
  below : ∀ high, (∀ component ∈ q.components, Below high (parts component)) → -74 ≤ high → high ≤ 61 →
    Below (2 * high + 5) (parts q.normSquared)

theorem squared (q : Quat Float32) (numbers : q.Numbers) : q.Squared := by
  have square (component : Float32) (member : component ∈ q.components) :
      Nonnegative (parts (component * component)) := square_nonnegative component (numbers component member)
  have long (component : Float32) (above : Above 64 (parts component)) :
      (parts (component * component)).isInf = true :=
    above_format _ (square_above component above (by omega))
  have x := square q.x (by simp [components])
  have y := square q.y (by simp [components])
  have z := square q.z (by simp [components])
  have w := square q.w (by simp [components])
  have first := sum_extent (q.x * q.x) (q.z * q.z) x z
  have second := sum_extent (q.y * q.y) (q.w * q.w) y w
  have sum : SumExtent _ _ (parts q.normSquared) :=
    sum_extent (q.x * q.x + q.z * q.z) (q.y * q.y + q.w * q.w) first.positive second.positive
  refine ⟨sum.positive, ?_, ?_⟩
  · simp only [components, List.mem_cons, List.not_mem_nil, or_false]
    rintro ⟨component, rfl | rfl | rfl | rfl, above⟩
    · exact sum.infinite (Or.inl (first.infinite (Or.inl (long _ above))))
    · exact sum.infinite (Or.inr (second.infinite (Or.inl (long _ above))))
    · exact sum.infinite (Or.inl (first.infinite (Or.inr (long _ above))))
    · exact sum.infinite (Or.inr (second.infinite (Or.inr (long _ above))))
  · intro high below small large
    have short (component : Float32) (member : component ∈ q.components) :
        Below (2 * high + 1) (parts (component * component)) :=
      square_below component (below component member) (by omega) (by omega)
    have left := first.below (2 * high + 1) (short q.x (by simp [components])) (short q.z (by simp [components]))
      (by omega) (by omega)
    have right := second.below (2 * high + 1) (short q.y (by simp [components])) (short q.w (by simp [components]))
      (by omega) (by omega)
    exact below_wider _ (sum.below _ left right (by omega) (by omega)) (by omega)

def leastSquare : Float32 := 1e-6 * 1e-6

theorem least_square_below : Below 0 (parts leastSquare) := by decide +kernel

theorem least_square_above : Above (-40) (parts leastSquare) := by decide +kernel

def shrunk (q : Quat Float32) (length : Float32) : Quat Float32 :=
  ⟨q.x / length, q.y / length, q.z / length, q.w / length⟩

theorem components_shrunk (q : Quat Float32) (length : Float32) :
    (q.shrunk length).components = q.components.map (· / length) := rfl

theorem normalized_eq (q : Quat Float32) :
    q.normalized = if leastSquare < q.normSquared then q.shrunk q.normSquared.sqrt else identity := by
  have made : q.normalized? = if leastSquare < q.normSquared then some (q.shrunk q.normSquared.sqrt) else none := rfl
  rw [normalized, made]
  split <;> rfl

theorem shrunk_turns (q : Quat Float32) (numbers : q.Numbers) (long : leastSquare < q.normSquared)
    (bounded : q.normSquared.isInf = false) : (q.shrunk q.normSquared.sqrt).Turns := by
  have square := q.squared numbers
  have short (component : Float32) (member : component ∈ q.components) : Below 64 (parts component) := by
    refine (below_or_above component (numbers component member) 64).resolve_right fun above => ?_
    rw [isinf_parts, square.infinite ⟨component, member, above⟩] at bounded
    cases bounded
  have above : Above (-40) (parts q.normSquared) :=
    above_of_lt leastSquare q.normSquared (by decide +kernel) least_square_above long
  have below : Below (2 * 64) (parts q.normSquared) := below_format q.normSquared square.positive bounded
  have lengthBelow : Below 65 (parts q.normSquared.sqrt) :=
    root_below q.normSquared square.positive below (by omega) (by omega)
  have lengthAbove : Above (-20) (parts q.normSquared.sqrt) :=
    root_above q.normSquared square.positive above (by omega)
  have share (component : Float32) (member : component ∈ q.components) :=
    quotient_extent component q.normSquared.sqrt (short component member) lengthBelow lengthAbove
  rw [Turns, components_shrunk]
  refine ⟨?_, ?_⟩
  · intro quotient member
    obtain ⟨component, found, rfl⟩ := List.mem_map.mp member
    exact below_finite _ ((share component found).1 (by omega) (by omega))
  · -- If all were short, the sum of the squares would be too small.
    obtain ⟨component, member, away⟩ : ∃ component ∈ q.components, Above (-24) (parts component) := by
      by_contra none
      have near (component : Float32) (member : component ∈ q.components) : Below (-24) (parts component) :=
        (below_or_above component (numbers component member) (-24)).resolve_right
          fun away => none ⟨component, member, away⟩
      have small := below_above _ (square.below (-24) near (by omega) (by omega)) above
      omega
    have kept := (share component member).2 (-24) away (by omega)
    exact ⟨component / q.normSquared.sqrt, List.mem_map_of_mem member, above_nonzero _ kept⟩

theorem shrunk_infinite (q : Quat Float32) (numbers : q.Numbers) (infinite : q.normSquared.isInf = true) :
    ¬ (q.shrunk q.normSquared.sqrt).Turns := by
  have root := root_infinite q.normSquared (q.squared numbers).positive infinite
  rw [Turns, components_shrunk]
  rintro ⟨finite, quotient, member, some⟩
  obtain ⟨component, -, rfl⟩ := List.mem_map.mp member
  rw [quotient_infinite component q.normSquared.sqrt root (finite _ member)] at some
  cases some

theorem numbers_of_squared (q : Quat Float32) (number : q.normSquared.isNaN = false) : q.Numbers := by
  obtain ⟨left, right⟩ := numbers_of_sum (q.x * q.x + q.z * q.z) (q.y * q.y + q.w * q.w) number
  obtain ⟨x, z⟩ := numbers_of_sum _ _ left
  obtain ⟨y, w⟩ := numbers_of_sum _ _ right
  simp only [Numbers, components, List.forall_mem_cons]
  exact ⟨number_of_square _ x, number_of_square _ y, number_of_square _ z, number_of_square _ w,
    fun _ none => absurd none List.not_mem_nil⟩

theorem number_of_infinite (value : Float32) (infinite : value.isInf = true) : value.isNaN = false := by
  rw [isinf_parts] at infinite
  rw [isnan_parts]
  cases read : parts value with
  | notANumber =>
      rw [read] at infinite
      cases infinite
  | _ => rfl

/-- Normalising makes a rotation of any four values but those whose squares add up to more than the format holds. -/
theorem normalized_turns_iff (q : Quat Float32) : q.normalized.Turns ↔ q.normSquared.isInf = false := by
  rw [normalized_eq]
  by_cases long : leastSquare < q.normSquared
  · have numbers := q.numbers_of_squared (numbers_of_le _ _ (le_of_lt _ _ long)).2
    rw [if_pos long]
    refine ⟨fun turns => ?_, q.shrunk_turns numbers long⟩
    by_contra unbounded
    exact q.shrunk_infinite numbers ((Bool.not_eq_false _).mp unbounded) turns
  · rw [if_neg long]
    refine iff_of_true identity_turns ?_
    by_contra unbounded
    have infinite := (Bool.not_eq_false _).mp unbounded
    have numbers := q.numbers_of_squared (number_of_infinite _ infinite)
    exact long (lt_of_infinite leastSquare q.normSquared least_square_below (q.squared numbers).positive infinite)

end VehicleSim.Quat
