import VehicleSim.Json.Value
import VehicleSim.Space.Quat

/-!
Records: a fixed list of named fields, written as an object or as an array of the values in order.
-/

set_option autoImplicit false

namespace VehicleSim.Json

abbrev Record := List (String × Json)

namespace Record

def named? (members : List (Option String × Json)) : Option Record :=
  members.mapM fun member => member.1.map fun name => (name, member.2)

def ofMembers? (names : List String) (members : List (Option String × Json)) : Option Record := do
  let members ← named? members
  let known := members.filter fun member => member.1 ∈ names
  if (known.map (·.1)).Nodup then some known else none

-- Items stand for the fields in order; there may be fewer items than fields, but not more.
def ofItems? (names : List String) (items : List Json) : Option Record :=
  if items.length ≤ names.length then some (names.zip items) else none

def ofJson? (names : List String) : Json → Option Record
  | object members => ofMembers? names members
  | array items => ofItems? names items
  | _ => none

def required {β : Type} (record : Record) (name : String) (read : Json → Option β) : Option β :=
  record.lookup name >>= read

def optional {β : Type} (record : Record) (name : String) (read : Json → Option β) (initial : β) :
    Option β :=
  match record.lookup name with
  | some json => read json
  | none => some initial

end Record

def toOption? {β : Type} (read : Json → Option β) : Json → Option (Option β)
  | null => some none
  | json => (read json).map some

def toVec3? (json : Json) : Option (Vec3 Float32) := do
  match ← json.toList? toBinary32? with
  | [x, y, z] => some ⟨x, y, z⟩
  | _ => none

def toQuat? (json : Json) : Option (Quat Float32) := do
  match ← json.toList? toBinary32? with
  | [x, y, z, w] => some ⟨x, y, z, w⟩
  | _ => none

end VehicleSim.Json
