import VehicleSim.Space.Vec3

/-!
Boxes with their sides along the axes of space, and when two of them touch.
-/

set_option autoImplicit false

namespace VehicleSim

structure Box (α : Type) where
  middle : Vec3 α
  half : Vec3 α

namespace Box

variable {α : Type} [Scalar α]

def gap (a b : Box α) : Vec3 α := (b.middle - a.middle).map Scalar.abs - b.half - a.half

def reach : α := 0.002

def near (a b : Box α) : Bool :=
  let gap := a.gap b
  gap.x ≤ reach && gap.y ≤ reach && gap.z ≤ reach

-- Two faces meet: one axis may leave a small gap between the boxes, and along the other two they have points
-- in common.
def touches (a b : Box α) : Bool :=
  let gap := a.gap b
  let meets (across along other : α) : Bool := across < reach && along ≤ 0 && other ≤ 0
  meets gap.x gap.y gap.z || meets gap.y gap.z gap.x || meets gap.z gap.x gap.y

end Box

end VehicleSim
