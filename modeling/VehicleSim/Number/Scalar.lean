/-!
The numbers the simulation computes with. Every rule is written once over `Scalar`, so the same
definition runs in binary32 and can be studied in exact arithmetic.
-/

set_option autoImplicit false

namespace VehicleSim

class Scalar (α : Type) extends Zero α, One α, Add α, Sub α, Mul α, Div α, Neg α, LT α, LE α,
    BEq α, OfScientific α where
  decideLt : DecidableLT α
  decideLe : DecidableLE α
  sqrt : α → α
  abs : α → α
  signum : α → α
  isNaN : α → Bool
  isFinite : α → Bool
  -- Whole part of a non-negative number, capped at the largest 64-bit word.
  floorNat : α → Nat
  ofNat : Nat → α
  atan2 : α → α → α
  asin : α → α
  cos : α → α
  halfPi : α
  infinity : α
  -- Zero, with the sign of the argument, in place of a number too small to be written in full precision.
  -- Where numbers have no limit of precision nothing is too small.
  flush : α → α

namespace Scalar

variable {α : Type} [Scalar α]

instance : DecidableLT α := decideLt
instance : DecidableLE α := decideLe

def max (a b : α) : α :=
  if isNaN a then b else if a < b then b else a

def min (a b : α) : α :=
  if isNaN a then b else if b < a then b else a

-- Bounds of a parameter: `value` that is not a number becomes `high`.
def clampInRange (low value high : α) : α :=
  max low (min value high)

def sortedClamp (a value b : α) : α :=
  if b < a then clampInRange b value a else clampInRange a value b

def clamp (value low high : α) : α :=
  let raised := if value < low then low else value
  if high < raised then high else raised

end Scalar

end VehicleSim
