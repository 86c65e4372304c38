/-!
The sixteen behaviour flags of a vehicle. A set of flags is a 16-bit word; a script names flags by
a signed 32-bit mask, of which only the low sixteen bits count.
-/

set_option autoImplicit false

namespace VehicleSim

inductive Flag where
  | noDeflectionUp
  | limitRollOnly
  | hoverWaterOnly
  | hoverTerrainOnly
  | hoverGlobalHeight
  | hoverUpOnly
  | limitMotorUp
  | mouselookSteer
  | mouselookBank
  | cameraDecoupled
  | noX
  | noY
  | noZ
  | lockHoverHeight
  | noDeflection
  | lockRotation
deriving DecidableEq, Repr

namespace Flag

def all : List Flag :=
  [noDeflectionUp, limitRollOnly, hoverWaterOnly, hoverTerrainOnly, hoverGlobalHeight, hoverUpOnly,
    limitMotorUp, mouselookSteer, mouselookBank, cameraDecoupled, noX, noY, noZ, lockHoverHeight,
    noDeflection, lockRotation]

def index : Flag → Nat
  | noDeflectionUp => 0
  | limitRollOnly => 1
  | hoverWaterOnly => 2
  | hoverTerrainOnly => 3
  | hoverGlobalHeight => 4
  | hoverUpOnly => 5
  | limitMotorUp => 6
  | mouselookSteer => 7
  | mouselookBank => 8
  | cameraDecoupled => 9
  | noX => 10
  | noY => 11
  | noZ => 12
  | lockHoverHeight => 13
  | noDeflection => 14
  | lockRotation => 15

end Flag

structure Flags where
  bits : BitVec 16
deriving DecidableEq

namespace Flags

def empty : Flags := ⟨0⟩

def ofMask (mask : Int) : Flags := ⟨(BitVec.ofInt 32 mask).setWidth 16⟩

def has (flags : Flags) (flag : Flag) : Bool := flags.bits.getLsbD flag.index

def hasAny (flags : Flags) (wanted : List Flag) : Bool := wanted.any flags.has

def add (flags more : Flags) : Flags := ⟨flags.bits ||| more.bits⟩

def remove (flags fewer : Flags) : Flags := ⟨flags.bits &&& ~~~fewer.bits⟩

def ofList (flags : List Flag) : Flags :=
  flags.foldl (fun set flag => set.add ⟨BitVec.twoPow 16 flag.index⟩) empty

theorem has_empty (flag : Flag) : empty.has flag = false := by
  simp [has, empty]

theorem has_add (flags more : Flags) (flag : Flag) :
    (flags.add more).has flag = (flags.has flag || more.has flag) := by
  simp [has, add]

theorem has_remove (flags fewer : Flags) (flag : Flag) :
    (flags.remove fewer).has flag = (flags.has flag && !fewer.has flag) := by
  have bound : flag.index < 16 := by cases flag <;> decide
  simp [has, remove, bound]

def hoverModes : List Flag := [.hoverWaterOnly, .hoverTerrainOnly, .hoverGlobalHeight]

def lockedAxes : List Flag := [.noX, .noY, .noZ]

end Flags

end VehicleSim
