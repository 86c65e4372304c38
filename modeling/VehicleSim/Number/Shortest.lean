import VehicleSim.Number.Binary32

/-!
The shortest decimal that reads back as a given binary32 number, and of those the nearest.
-/

set_option autoImplicit false

namespace VehicleSim

structure Magnitude where
  mantissa : Nat
  exponent : Int
  -- The next smaller number is only half a step away.
  firstOfBinade : Bool

structure Decimal where
  digits : Nat
  exponent : Int
deriving DecidableEq, Repr

namespace Magnitude

-- The decimal of the grid `10 ^ exponent` that reads back, the nearer of two, and of two equally near the
-- even one. All is measured in quarter steps of the binary format.
def onGrid? (value : Magnitude) (exponent : Int) : Option Decimal :=
  let scale := Nat.pow 2 value.exponent.toNat * Nat.pow 10 (-exponent).toNat
  let unit := 4 * Nat.pow 2 (-value.exponent).toNat * Nat.pow 10 exponent.toNat
  let exact := 4 * value.mantissa * scale
  let upper := (4 * value.mantissa + 2) * scale
  let lower := (4 * value.mantissa - if value.firstOfBinade then 1 else 2) * scale
  let inside (decimal : Nat) : Bool :=
    let place := decimal * unit
    if value.mantissa % 2 = 0 then lower ≤ place && place ≤ upper
    else lower < place && place < upper
  let below := exact / unit
  let above := below + 1
  let belowGap := exact - below * unit
  let aboveGap := above * unit - exact
  let preferBelow := belowGap < aboveGap || (belowGap = aboveGap && below % 2 = 0)
  let candidates := if preferBelow then [below, above] else [above, below]
  (candidates.find? fun decimal => decimal ≠ 0 && inside decimal).map fun decimal =>
    ⟨decimal, exponent⟩

def shortest (value : Magnitude) : Decimal :=
  ((List.range 86).findSome? fun (below : Nat) => value.onGrid? (39 - below)).getD ⟨0, 0⟩

end Magnitude

namespace Decimal

-- Digits with a point: positional while the point is near the digits, else with an exponent.
def layout (decimal : Decimal) : String :=
  let digits := (Nat.repr decimal.digits).toList
  let count : Int := digits.length
  let point := count + decimal.exponent
  let text (chars : List Char) : String := String.ofList chars
  let zeros (n : Int) : List Char := List.replicate n.toNat '0'
  if 0 ≤ decimal.exponent && point ≤ 13 then
    text (digits ++ zeros decimal.exponent) ++ ".0"
  else if 0 < point && point ≤ 13 then
    text (digits.take point.toNat) ++ "." ++ text (digits.drop point.toNat)
  else if -6 < point && point ≤ 0 then
    "0." ++ text (zeros (-point)) ++ text digits
  else
    let exponent := "e" ++ toString (point - 1)
    match digits with
    | [digit] => text [digit] ++ exponent
    | first :: rest => text [first] ++ "." ++ text rest ++ exponent
    | [] => exponent

end Decimal

namespace Binary32

open Float.Model

def decimalText? (x : Float32) : Option String :=
  let signed (sign : UnpackedFloat.Sign) (text : String) : String :=
    match sign with
    | .positive => text
    | .negative => "-" ++ text
  match UnpackedFloat.unpack .binary32 x.toBits.toBitVec with
  | .finite sign mantissa exponent _ =>
      let value : Magnitude := ⟨mantissa, exponent, mantissa = 0x800000 && -149 < exponent⟩
      some (signed sign value.shortest.layout)
  | .zero sign => some (signed sign "0.0")
  | _ => none

end Binary32

end VehicleSim
