/-!
The six vehicle types a script can choose, by name or by number.
-/

set_option autoImplicit false

namespace VehicleSim

inductive Kind where
  | none | sled | car | boat | airplane | balloon
deriving DecidableEq, Repr

namespace Kind

def all : List Kind := [none, sled, car, boat, airplane, balloon]

def name : Kind → String
  | none => "none"
  | sled => "sled"
  | car => "car"
  | boat => "boat"
  | airplane => "airplane"
  | balloon => "balloon"

def code : Kind → Int
  | none => 0
  | sled => 1
  | car => 2
  | boat => 3
  | airplane => 4
  | balloon => 5

def ofName? (name : String) : Option Kind := all.find? (·.name = name)

def ofCode? (code : Int) : Option Kind := all.find? (·.code = code)

def onGround : Kind → Bool
  | sled | car => true
  | _ => false

theorem of_name_name (kind : Kind) : ofName? kind.name = some kind := by cases kind <;> decide

theorem of_code_code (kind : Kind) : ofCode? kind.code = some kind := by cases kind <;> decide

end Kind

end VehicleSim
