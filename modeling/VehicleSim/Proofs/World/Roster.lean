import Mathlib.Data.List.Nodup
import VehicleSim.Proofs.Vehicle.Conduct
import VehicleSim.World.Tick

/-!
Who is in a world and what each object is, apart from how it moves. Every stage of a tick keeps the
roster; only spawning, removing and a change of type alter it.
-/

set_option autoImplicit false

namespace VehicleSim

structure Standing where
  id : ObjectId
  -- The id that the object's vehicle schedules itself by.
  vehicle : ObjectId
  kind : Kind
  registered : Bool
  enabled : Bool
  embodied : Bool

structure Standing.Sound (standing : Standing) : Prop where
  sameId : standing.vehicle = standing.id
  enabled : standing.enabled = true
  embodied : standing.embodied = true
  registered : standing.registered = (standing.kind != .none)

variable {α : Type}

def WorldObject.standing (object : WorldObject α) : Standing where
  id := object.id
  vehicle := object.vehicle.id
  kind := object.vehicle.params.kind
  registered := object.vehicle.registered
  enabled := object.vehicle.enabled
  embodied := object.body.isSome

variable [Scalar α]

namespace World

def roster (world : World α) : List Standing := world.objects.map WorldObject.standing

def Distinct (world : World α) : Prop := (world.objects.map (·.id)).Nodup

def Present (world : World α) (id : ObjectId) : Prop := ∃ standing ∈ world.roster, standing.id = id

theorem mem_roster (world : World α) (standing : Standing) :
    standing ∈ world.roster ↔ ∃ object ∈ world.objects, object.standing = standing :=
  List.mem_map

theorem present_iff (world : World α) (id : ObjectId) :
    world.Present id ↔ ∃ object ∈ world.objects, object.id = id := by
  constructor
  · rintro ⟨standing, member, same⟩
    obtain ⟨object, found, rfl⟩ := (mem_roster world standing).mp member
    exact ⟨object, found, same⟩
  · rintro ⟨object, found, same⟩
    exact ⟨object.standing, (mem_roster world _).mpr ⟨object, found, rfl⟩, same⟩

theorem present_iff_id (world : World α) (id : ObjectId) :
    world.Present id ↔ id ∈ world.roster.map (·.id) := List.mem_map.symm

theorem distinct_iff (world : World α) : world.Distinct ↔ (world.roster.map (·.id)).Nodup := by
  rw [Distinct, roster, List.map_map]
  exact Iff.rfl

omit [Scalar α] in
theorem id_of_found (objects : List (WorldObject α)) (id : ObjectId) (object : WorldObject α)
    (found : objects.find? (·.id == id) = some object) : object.id = id := by
  simpa using List.find?_some found

theorem object_found (world : World α) (id : ObjectId) (object : WorldObject α)
    (found : world.object? id = some object) : object ∈ world.objects ∧ object.id = id :=
  ⟨List.mem_of_find?_eq_some found, id_of_found world.objects id object found⟩

theorem object_absent (world : World α) (id : ObjectId) :
    world.object? id = none ↔ ¬ world.Present id := by
  rw [present_iff, object?, List.find?_eq_none]
  constructor
  · rintro missing ⟨object, member, same⟩
    exact missing object member (by simpa using same)
  · intro absent object member same
    exact absent ⟨object, member, by simpa using same⟩

theorem object_present (world : World α) (id : ObjectId) (present : world.Present id) :
    ∃ object, world.object? id = some object := by
  apply Option.ne_none_iff_exists'.mp
  exact fun missing => (object_absent world id).mp missing present

omit [Scalar α] in
theorem find_map (objects : List (WorldObject α)) (change : WorldObject α → WorldObject α) (id : ObjectId)
    (keeps : ∀ object, (change object).id = object.id) :
    (objects.map change).find? (·.id == id) = (objects.find? (·.id == id)).map change := by
  rw [List.find?_map]
  congr 2
  funext object
  rw [Function.comp, keeps object]

theorem same_of_same_id (world : World α) (distinct : world.Distinct) (a b : WorldObject α)
    (first : a ∈ world.objects) (second : b ∈ world.objects) (same : a.id = b.id) : a = b :=
  List.inj_on_of_nodup_map distinct first second same

theorem object_of_mem (world : World α) (distinct : world.Distinct) (object : WorldObject α)
    (member : object ∈ world.objects) : world.object? object.id = some object := by
  cases found : world.object? object.id with
  | none =>
      exact absurd ((present_iff world object.id).mpr ⟨object, member, rfl⟩)
        ((object_absent world object.id).mp found)
  | some other =>
      obtain ⟨present, same⟩ := object_found world object.id other found
      rw [same_of_same_id world distinct other object present member same]

def modify (world : World α) (id : ObjectId) (change : WorldObject α → WorldObject α) : World α :=
  { world with objects := world.objects.map fun object => if object.id = id then change object else object }

theorem modify_absent (world : World α) (id : ObjectId) (change : WorldObject α → WorldObject α)
    (absent : ¬ world.Present id) : world.modify id change = world := by
  have unchanged : (world.objects.map fun object => if object.id = id then change object else object) =
      world.objects := by
    conv => rhs; rw [← List.map_id world.objects]
    apply List.map_congr_left
    intro object member
    exact if_neg fun same => absent ((present_iff world id).mpr ⟨object, member, same⟩)
  rw [modify, unchanged]

theorem replace_eq_modify (world : World α) (id : ObjectId) (object : WorldObject α)
    (change : WorldObject α → WorldObject α) (distinct : world.Distinct)
    (found : world.object? id = some object) (keeps : (change object).id = object.id) :
    world.replace (change object) = world.modify id change := by
  obtain ⟨member, same⟩ := object_found world id object found
  have pointwise : (world.objects.map fun o => if o.id == (change object).id then change object else o) =
      world.objects.map fun o => if o.id = id then change o else o := by
    apply List.map_congr_left
    intro other present
    rw [keeps, same]
    by_cases here : other.id = id
    · have equal := same_of_same_id world distinct other object present member (here.trans same.symm)
      simp [equal]
    · simp [here]
  rw [replace, modify, pointwise]

theorem object_modify (world : World α) (id other : ObjectId) (change : WorldObject α → WorldObject α)
    (keeps : ∀ object, (change object).id = object.id) :
    (world.modify id change).object? other =
      (world.object? other).map fun object => if other = id then change object else object := by
  rw [object?, modify, find_map]
  · refine Option.map_congr fun object found => ?_
    rw [id_of_found world.objects other object found]
  · intro object
    split
    · exact keeps object
    · rfl

def KeepsStanding (change : WorldObject α → WorldObject α) : Prop :=
  ∀ object, (change object).standing = object.standing

omit [Scalar α] in
theorem KeepsStanding.id {change : WorldObject α → WorldObject α} (keeps : KeepsStanding change)
    (object : WorldObject α) : (change object).id = object.id :=
  congrArg Standing.id (keeps object)

theorem roster_map (world : World α) (change : WorldObject α → WorldObject α) (keeps : KeepsStanding change) :
    (world.objects.map change).map WorldObject.standing = world.roster := by
  rw [List.map_map, roster]
  exact List.map_congr_left fun object _ => keeps object

theorem roster_modify (world : World α) (id : ObjectId) (change : WorldObject α → WorldObject α)
    (keeps : KeepsStanding change) : (world.modify id change).roster = world.roster := by
  apply roster_map
  intro object
  dsimp only
  split
  · exact keeps object
  · rfl

theorem distinct_of_roster (world other : World α) (same : other.roster = world.roster)
    (distinct : world.Distinct) : other.Distinct := by
  rw [distinct_iff] at distinct ⊢
  rwa [same]

def mapAt (ids : List ObjectId) (change : WorldObject α → WorldObject α) (objects : List (WorldObject α)) :
    List (WorldObject α) :=
  objects.map fun object => if object.id ∈ ids then change object else object

omit [Scalar α] in
theorem map_at_cons (id : ObjectId) (ids : List ObjectId) (change : WorldObject α → WorldObject α)
    (objects : List (WorldObject α)) (fresh : id ∉ ids) (keeps : KeepsStanding change) :
    mapAt ids change (objects.map fun object => if object.id = id then change object else object) =
      mapAt (id :: ids) change objects := by
  rw [mapAt, mapAt, List.map_map]
  apply List.map_congr_left
  intro object _
  by_cases here : object.id = id
  · have outside : (change object).id ∉ ids := by rwa [keeps.id object, here]
    simp [here, outside]
  · simp [here]

omit [Scalar α] in
theorem find_map_at (ids : List ObjectId) (change : WorldObject α → WorldObject α) (objects : List (WorldObject α))
    (id : ObjectId) (keeps : KeepsStanding change) :
    (mapAt ids change objects).find? (·.id == id) =
      (objects.find? (·.id == id)).map fun object => if id ∈ ids then change object else object := by
  rw [mapAt, find_map]
  · refine Option.map_congr fun object found => ?_
    rw [id_of_found objects id object found]
  · intro object
    split
    · exact keeps.id object
    · rfl

theorem roster_map_at (world : World α) (ids : List ObjectId) (change : WorldObject α → WorldObject α)
    (keeps : KeepsStanding change) :
    (mapAt ids change world.objects).map WorldObject.standing = world.roster := by
  apply roster_map
  intro object
  dsimp only
  split
  · exact keeps object
  · rfl

omit [Scalar α] in
theorem keeps_standing_body (change : WorldObject α → RigidBody α → RigidBody α) :
    KeepsStanding fun object => { object with body := object.body.map (change object) } := by
  intro object
  simp only [WorldObject.standing, Option.isSome_map]

end World

end VehicleSim
