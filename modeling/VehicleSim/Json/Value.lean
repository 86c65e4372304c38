import VehicleSim.Json.Numeral

/-!
JSON values. Members keep their order and their repetitions. A text with an unpaired surrogate has
no characters to hold, so it is `none`.
-/

set_option autoImplicit false

namespace VehicleSim

inductive Json where
  | null
  | bool (value : Bool)
  | number (value : Numeral)
  | text (value : Option String)
  | array (items : List Json)
  | object (members : List (Option String × Json))

namespace Json

def toBool? : Json → Option Bool
  | bool value => some value
  | _ => none

def toText? : Json → Option String
  | text value => value
  | _ => none

def toBinary32? : Json → Option Float32
  | number value => value.toBinary32?
  | _ => none

def toIntIn? (low high : Int) : Json → Option Int
  | number numeral => numeral.toInt?.filter fun value => low ≤ value && value ≤ high
  | _ => none

def toInt32? : Json → Option Int := toIntIn? (-0x80000000) 0x7fffffff

def toWord32? (json : Json) : Option UInt32 :=
  (toIntIn? 0 0xffffffff json).map fun value => UInt32.ofNat value.toNat

def toWord64? (json : Json) : Option UInt64 :=
  (toIntIn? 0 0xffffffffffffffff json).map fun value => UInt64.ofNat value.toNat

def toList? {β : Type} (read : Json → Option β) : Json → Option (List β)
  | array items => items.mapM read
  | _ => none

end Json

end VehicleSim
