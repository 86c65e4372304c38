import Mathlib.Data.Sign.Basic
import Mathlib.Tactic.Linarith
import VehicleSim.Drive.Attitude
import VehicleSim.Proofs.Body.Survey
import VehicleSim.Proofs.Number.Magnitude
import VehicleSim.Proofs.Space.Normal
import VehicleSim.Proofs.Space.Rotation

/-!
What the bounds on the orientation leave of it. The lock leaves nothing of the first two components. A roll frame lets
them be inside its own, and otherwise takes half of its own off, which turns no sign; only an orientation with next to
nothing in it is replaced by the identity, and has no signs left.
-/

set_option autoImplicit false

namespace VehicleSim

namespace Rig

variable {α : Type} (rig : Rig α)

end Rig

namespace Quat

def Level (q : Quat Float32) : Prop := (q.x == 0) = true ∧ (q.y == 0) = true

instance (q : Quat Float32) : Decidable q.Level := inferInstanceAs (Decidable ((q.x == 0) = true ∧ (q.y == 0) = true))

end Quat

namespace Drive

section

variable {α : Type} [Scalar α] {params : Params α} {bound : Quat α} (rig : Rig α)

end

section

variable {params later : Params Float32} (rig : Rig Float32)

end

section

variable {params : Params Float32} {bound : Quat Float32} (rig : Rig Float32)

end

section

variable (component edge : ℝ)

end

section

variable {params : Params ℝ} {bound : Quat ℝ} (rig : Rig ℝ) (orientation : Quat ℝ)

end

section

variable {α : Type} [Scalar α]

end

end Drive

end VehicleSim
