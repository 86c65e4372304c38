import VehicleSim.Drive.Frame

/-!
Bounds on the body's orientation: a roll frame and a rotation lock. The bounds compare quaternion
components one by one; they are not angles.
-/

set_option autoImplicit false

namespace VehicleSim.Drive

variable {α : Type} [Scalar α]

-- Pull a component back by half its bound once it reaches the bound on either side.
def withinRoll (component bound : α) : α :=
  if component ≤ -bound then component + bound / 2.0
  else if bound ≤ component then component - bound / 2.0
  else component

def rollBound? (params : Params α) : Option (Quat α) :=
  params.rollFrame.filter fun roll => !roll.sameRotation .identity

def limitRotation (params : Params α) (rig : Rig α) : Rig α :=
  let lock := params.flags.has .lockRotation
  let roll := rollBound? params
  if roll.isNone && !lock then rig
  else
    let (current, rig) := rig.orientation
    let (x, y) :=
      match roll with
      | some bound => (withinRoll current.x bound.x, withinRoll current.y bound.y)
      | none => (current.x, current.y)
    let (x, y) := if lock then (0, 0) else (x, y)
    if x == current.x && y == current.y then rig
    else
      let limited : Quat α := ⟨x, y, current.z, current.w⟩
      rig.setOrientation limited.normalized

end VehicleSim.Drive
