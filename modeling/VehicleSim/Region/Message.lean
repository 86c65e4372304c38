import VehicleSim.Json.Reader
import VehicleSim.Json.Record
import VehicleSim.Vehicle.Command

/-!
What a client says: a ping, or a command for its vehicle. A message is an object whose `type` tells
what it is, or an array that starts with the type.
-/

set_option autoImplicit false

namespace VehicleSim

open Json (Record)

inductive Message where
  | ping
  | command (command : Command Float32)

inductive MessageError where
  | malformed
  | unknownTypeCode (code : Int)
deriving DecidableEq

namespace MessageError

def message? : MessageError → Option String
  | malformed => none
  | unknownTypeCode code => some ("bad command: unknown vehicle type code " ++ toString code)

end MessageError

namespace Kind

-- A name, or an object with the name as its one key and nothing under it.
def ofJson? : Json → Option Kind
  | .text name => name >>= ofName?
  | .object [(name, .null)] => name >>= ofName?
  | .object [(name, .object [])] => name >>= ofName?
  | _ => Option.none

end Kind

namespace Message

def tagName : String := "type"

def isTag (member : Option String × Json) : Bool := member.1 == some tagName

def tagged? : Json → Option (String × Json)
  | .object members =>
      match members.filter isTag with
      | [(_, .text (some tag))] => some (tag, .object (members.filter fun m => !isTag m))
      | _ => none
  | .array (.text (some tag) :: items) => some (tag, .array items)
  | _ => none

def ping? : Json → Option Message
  | .object _ | .array [] => some ping
  | _ => none

def typeCommand? (fields : Json) : Option (Command Float32) := do
  let record ← Record.ofJson? ["value"] fields
  return .setType (← record.required "value" Kind.ofJson?)

def typeCode? (fields : Json) : Option Int := do
  let record ← Record.ofJson? ["value"] fields
  record.required "value" Json.toInt32?

def paramFields? {β : Type} (read : Json → Option β) (fields : Json) : Option (Int × β) := do
  let record ← Record.ofJson? ["param", "value"] fields
  let param ← record.required "param" Json.toInt32?
  let value ← record.required "value" read
  return (param, value)

def flagsCommand? (fields : Json) : Option (Command Float32) := do
  let record ← Record.ofJson? ["mask", "remove"] fields
  let mask ← record.required "mask" Json.toInt32?
  let remove ← record.optional "remove" Json.toBool? false
  return .setFlags mask remove

def ofType? (code : Int) : Except MessageError Message :=
  match Kind.ofCode? code with
  | some kind => .ok (command (.setType kind))
  | none => .error (.unknownTypeCode code)

def orMalformed (found : Option Message) : Except MessageError Message :=
  match found with
  | some message => .ok message
  | none => .error .malformed

def ofFields (tag : String) (fields : Json) : Except MessageError Message :=
  match tag with
  | "ping" => orMalformed (ping? fields)
  | "vehicle_type" => orMalformed ((typeCommand? fields).map command)
  | "vehicle_type_code" =>
      match typeCode? fields with
      | some code => ofType? code
      | none => .error .malformed
  | "vehicle_float" =>
      orMalformed ((paramFields? Json.toBinary32? fields).map fun found =>
        command (.setFloat found.1 found.2))
  | "vehicle_vector" =>
      orMalformed ((paramFields? Json.toVec3? fields).map fun found =>
        command (.setVector found.1 found.2))
  | "vehicle_rotation" =>
      orMalformed ((paramFields? Json.toQuat? fields).map fun found =>
        command (.setRotation found.1 found.2))
  | "vehicle_flags" => orMalformed ((flagsCommand? fields).map command)
  | _ => .error .malformed

def ofText (text : String) : Except MessageError Message :=
  match Json.read? .strict text >>= tagged? with
  | some (tag, fields) => ofFields tag fields
  | none => .error .malformed

end Message

end VehicleSim
