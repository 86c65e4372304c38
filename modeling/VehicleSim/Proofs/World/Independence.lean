import Mathlib.Data.List.Nodup
import VehicleSim.World.FreeFlight

/-!
When a solver moves a body by itself. A body that touches nothing but the ground, neither where the solver
finds it nor where it leaves it, goes the same way whatever the other bodies are.
-/

set_option autoImplicit false

namespace VehicleSim

variable {α : Type} [Scalar α]

omit [Scalar α] in
def Motion.Clear (motion : Motion α) : Prop := ∀ obstacle ∈ motion.contacts, obstacle = .ground

namespace Scene

structure Alike (scene other : Scene α) (id : ObjectId) : Prop where
  distinct : (scene.bodies.map (·.1)).Nodup
  othersDistinct : (other.bodies.map (·.1)).Nodup
  ground : scene.ground = other.ground
  body : scene.bodies.lookup id = other.bodies.lookup id

def Remembers (scene : Scene α) (id : ObjectId) : Prop :=
  ∀ body ∈ scene.bodies.lookup id, body.motion.Clear

def Apart (scene : Scene α) (id : ObjectId) : Prop :=
  ∀ body ∈ scene.bodies.lookup id, ∀ obstacle ∈ scene.contacts id body, obstacle = .ground

end Scene

-- The body is clear of the others before this step of the solver and after it.
structure Solver.KeepsApart (solver : Solver α) (dt : α) (gravity : Vec3 α) (scene : Scene α) (id : ObjectId) :
    Prop where
  unmarked : scene.Remembers id
  before : scene.Apart id
  after : ∀ motion ∈ (solver dt gravity scene).lookup id, motion.Clear

instance (motion : Motion α) : Decidable motion.Clear :=
  inferInstanceAs (Decidable (∀ obstacle ∈ motion.contacts, obstacle = .ground))

instance (scene : Scene α) (id : ObjectId) : Decidable (scene.Remembers id) :=
  inferInstanceAs (Decidable (∀ body ∈ scene.bodies.lookup id, body.motion.Clear))

instance (scene : Scene α) (id : ObjectId) : Decidable (scene.Apart id) :=
  inferInstanceAs (Decidable (∀ body ∈ scene.bodies.lookup id, ∀ obstacle ∈ scene.contacts id body, obstacle = .ground))

instance (solver : Solver α) (dt : α) (gravity : Vec3 α) (scene : Scene α) (id : ObjectId) :
    Decidable (solver.KeepsApart dt gravity scene id) :=
  decidable_of_iff
    (scene.Remembers id ∧ scene.Apart id ∧ ∀ motion ∈ (solver dt gravity scene).lookup id, motion.Clear)
    ⟨fun ⟨unmarked, before, after⟩ => ⟨unmarked, before, after⟩, fun apart => ⟨apart.unmarked, apart.before, apart.after⟩⟩

def Solver.Independent (solver : Solver α) : Prop :=
  ∀ (dt : α) (gravity : Vec3 α) (scene other : Scene α) (id : ObjectId), scene.Alike other id →
    solver.KeepsApart dt gravity scene id → solver.KeepsApart dt gravity other id →
      (solver dt gravity scene).lookup id = (solver dt gravity other).lookup id

namespace Scene

omit [Scalar α] in
theorem lookup_values {β γ : Type} (change : ObjectId → β → γ) (entries : List (ObjectId × β)) (id : ObjectId) :
    (entries.map fun entry => (entry.1, change entry.1 entry.2)).lookup id = (entries.lookup id).map (change id) := by
  induction entries with
  | nil => rfl
  | cons entry rest ih =>
      obtain ⟨key, value⟩ := entry
      rw [List.map_cons, List.lookup_cons, List.lookup_cons]
      by_cases here : id = key
      · subst here
        simp
      · rw [beq_false_of_ne here]
        exact ih

omit [Scalar α] in
theorem lookup_map (scene : Scene α) (move : ObjectId → RigidBody α → Motion α) (id : ObjectId) :
    (scene.map move).bodies.lookup id =
      (scene.bodies.lookup id).map fun body => { body with motion := move id body } :=
  let moved (key : ObjectId) (body : RigidBody α) : RigidBody α := { body with motion := move key body }
  lookup_values moved scene.bodies id

omit [Scalar α] in
theorem ids_map (scene : Scene α) (move : ObjectId → RigidBody α → Motion α) :
    (scene.map move).bodies.map (·.1) = scene.bodies.map (·.1) := by
  rw [map, List.map_map]
  rfl

omit [Scalar α] in
theorem Alike.map {scene other : Scene α} {id : ObjectId} (alike : scene.Alike other id)
    (move otherMove : ObjectId → RigidBody α → Motion α)
    (same : ∀ body ∈ scene.bodies.lookup id, move id body = otherMove id body) :
    (scene.map move).Alike (other.map otherMove) id where
  distinct := by rw [ids_map]; exact alike.distinct
  othersDistinct := by rw [ids_map]; exact alike.othersDistinct
  ground := alike.ground
  body := by
    rw [lookup_map, lookup_map, ← alike.body]
    exact Option.map_congr fun body found => by rw [same body found]

omit [Scalar α] in
theorem Remembers.map {scene : Scene α} {id : ObjectId} (clear : scene.Remembers id)
    (move : ObjectId → RigidBody α → Motion α)
    (kept : ∀ body, (move id body).contacts = body.motion.contacts) : (scene.map move).Remembers id := by
  intro body found
  rw [lookup_map] at found
  obtain ⟨old, present, rfl⟩ := Option.map_eq_some_iff.mp found
  intro obstacle touched
  exact clear old present obstacle (kept old ▸ touched)

theorem contacts_of_apart (scene : Scene α) (id : ObjectId) (body : RigidBody α)
    (apart : ∀ obstacle ∈ scene.contacts id body, obstacle = .ground) :
    scene.contacts id body = if body.shape.touches scene.ground then [.ground] else [] := by
  let others := (scene.shapes.tail.filter fun shaped => shaped.1 != .object id && body.shape.touches shaped.2).map (·.1)
  have listed : scene.contacts id body =
      (if body.shape.touches scene.ground then [Obstacle.ground] else []) ++ others := by
    rw [contacts, shapes, List.filter_cons]
    by_cases touching : body.shape.touches scene.ground <;> simp [touching, others, shapes]
  have alone : others = [] := by
    rw [List.eq_nil_iff_forall_not_mem]
    intro obstacle member
    have grounded := apart obstacle (by rw [listed]; exact List.mem_append_right _ member)
    obtain ⟨shaped, chosen, rfl⟩ := List.mem_map.mp member
    obtain ⟨entry, _, rfl⟩ := List.mem_map.mp (List.mem_filter.mp chosen).1
    cases grounded
  rw [listed, alone, List.append_nil]

theorem has_lost_of_clear (scene other : Scene α) (body : RigidBody α) (ground : scene.ground = other.ground)
    (clear : body.motion.Clear) : scene.hasLost body = other.hasLost body := by
  have looked : ∀ obstacle ∈ body.motion.contacts, scene.shapes.lookup obstacle = other.shapes.lookup obstacle := by
    intro obstacle touched
    rw [clear obstacle touched, shapes, shapes, List.lookup_cons_self, List.lookup_cons_self, ground]
  rw [Bool.eq_iff_iff, hasLost, hasLost, List.any_eq_true, List.any_eq_true]
  refine exists_congr fun obstacle => and_congr_right fun touched => ?_
  rw [looked obstacle touched]

theorem Remembers.noted {scene : Scene α} {id : ObjectId} (apart : scene.Apart id) :
    scene.noteContacts.Remembers id := by
  intro body found
  rw [noteContacts, lookup_map] at found
  obtain ⟨old, present, rfl⟩ := Option.map_eq_some_iff.mp found
  exact apart old present

theorem Alike.noted {scene other : Scene α} {id : ObjectId} (alike : scene.Alike other id)
    (unmarked : scene.Remembers id) (apart : scene.Apart id) (otherApart : other.Apart id) :
    scene.noteContacts.Alike other.noteContacts id := by
  refine alike.map _ _ fun body found => ?_
  have lost := has_lost_of_clear scene other body alike.ground (unmarked body found)
  have touched : scene.contacts id body = other.contacts id body := by
    rw [contacts_of_apart scene id body (apart body found),
      contacts_of_apart other id body (otherApart body (alike.body ▸ found)), alike.ground]
  rw [lost, touched]

omit [Scalar α] in
theorem mem_ids_filter (scene : Scene α) (id : ObjectId) (body : RigidBody α)
    (distinct : (scene.bodies.map (·.1)).Nodup) (found : scene.bodies.lookup id = some body)
    (choose : ObjectId × RigidBody α → Bool) :
    id ∈ (scene.bodies.filter choose).map (·.1) ↔ choose (id, body) = true := by
  have present : (id, body) ∈ scene.bodies := by
    obtain ⟨before, after, listed, _⟩ := List.lookup_eq_some_iff.mp found
    rw [listed]
    exact List.mem_append_right _ List.mem_cons_self
  constructor
  · intro member
    obtain ⟨entry, chosen, same⟩ := List.mem_map.mp member
    obtain ⟨listed, taken⟩ := List.mem_filter.mp chosen
    have equal := List.inj_on_of_nodup_map distinct listed present same
    rwa [equal] at taken
  · exact fun taken => List.mem_map.mpr ⟨(id, body), List.mem_filter.mpr ⟨present, taken⟩, rfl⟩

omit [Scalar α] in
theorem touches_any_of_clear (ids : List ObjectId) (body : RigidBody α) (clear : body.motion.Clear) :
    touchesAny ids body = false := by
  rw [Bool.eq_false_iff]
  intro touching
  obtain ⟨id, _, touched⟩ := List.any_eq_true.mp touching
  cases clear _ (of_decide_eq_true touched)

omit [Scalar α] in
theorem mem_rouse (scene : Scene α) (id : ObjectId) (body : RigidBody α)
    (distinct : (scene.bodies.map (·.1)).Nodup) (found : scene.bodies.lookup id = some body)
    (clear : body.motion.Clear) (links : Nat) (awake : List ObjectId) :
    id ∈ scene.rouse links awake ↔ id ∈ awake := by
  induction links generalizing awake with
  | zero => rfl
  | succ links ih =>
      rw [rouse, ih, mem_ids_filter scene id body distinct found]
      simp [touches_any_of_clear awake body clear]

end Scene

namespace FreeFlight

theorem contacts_rest (dt : α) (motion : Motion α) : (rest dt motion).contacts = motion.contacts := by
  unfold rest
  split <;> rfl

theorem contacts_fall_asleep (motion : Motion α) : (fallAsleep motion).contacts = motion.contacts := by
  unfold fallAsleep
  split <;> rfl

theorem settle_alike (dt : α) (scene other : Scene α) (id : ObjectId) (alike : scene.Alike other id)
    (unmarked : scene.Remembers id) : (settle dt scene).Alike (settle dt other) id := by
  have rested := alike.map (fun _ body => rest dt body.motion) (fun _ body => rest dt body.motion) fun _ _ => rfl
  have clear := unmarked.map (fun _ body => rest dt body.motion) fun body => contacts_rest dt body.motion
  -- Whether the body is among those that are awake is up to its own rest.
  have awake : ∀ (scene : Scene α) (links : Nat) (body : RigidBody α), (scene.bodies.map (·.1)).Nodup →
      scene.bodies.lookup id = some body → body.motion.Clear →
        (id ∈ scene.rouse links ((scene.bodies.filter fun entry => !tired entry.2.motion).map (·.1)) ↔
          !tired body.motion) := by
    intro scene links body distinct present free
    rw [Scene.mem_rouse scene id body distinct present free, Scene.mem_ids_filter scene id body distinct present]
  unfold settle
  refine rested.map _ _ fun body found => ?_
  have free := clear body found
  simp only [awake _ _ body rested.distinct found free,
    awake _ _ body rested.othersDistinct (rested.body ▸ found) free]

theorem settle_remembers (dt : α) (scene : Scene α) (id : ObjectId) (unmarked : scene.Remembers id) :
    (settle dt scene).Remembers id := by
  unfold settle
  refine (unmarked.map (fun _ body => rest dt body.motion) fun body => contacts_rest dt body.motion).map _
    fun body => ?_
  split
  · rfl
  · exact contacts_fall_asleep body.motion

def moved (dt : α) (gravity : Vec3 α) (scene : Scene α) : Scene α :=
  (settle dt scene.noteContacts).map fun _ body =>
    if body.motion.sleeping then body.motion else fly dt gravity body

theorem moved_remembers (dt : α) (gravity : Vec3 α) (scene : Scene α) (id : ObjectId) (apart : scene.Apart id) :
    (moved dt gravity scene).Remembers id := by
  refine (settle_remembers dt scene.noteContacts id (.noted apart)).map _ fun body => ?_
  split <;> rfl

theorem solve_lookup (dt : α) (gravity : Vec3 α) (scene : Scene α) (id : ObjectId) :
    (solve dt gravity scene).lookup id = ((moved dt gravity scene).noteContacts.bodies.lookup id).map (·.motion) := by
  exact Scene.lookup_values (fun _ (body : RigidBody α) => body.motion) (moved dt gravity scene).noteContacts.bodies id

theorem moved_apart (dt : α) (gravity : Vec3 α) (scene : Scene α) (id : ObjectId)
    (after : ∀ motion ∈ (solve dt gravity scene).lookup id, motion.Clear) : (moved dt gravity scene).Apart id := by
  intro body found
  rw [solve_lookup, Scene.noteContacts, Scene.lookup_map, found] at after
  exact after _ rfl

theorem free_flight_independent : Solver.Independent (α := α) solve := by
  intro dt gravity scene other id alike apart otherApart
  have noted := alike.noted apart.unmarked apart.before otherApart.before
  have settled := settle_alike dt _ _ id noted (.noted apart.before)
  have together : (moved dt gravity scene).Alike (moved dt gravity other) id := settled.map _ _ fun _ _ => rfl
  have final := together.noted (moved_remembers dt gravity scene id apart.before)
    (moved_apart dt gravity scene id apart.after) (moved_apart dt gravity other id otherApart.after)
  rw [solve_lookup, solve_lookup, final.body]

end FreeFlight

end VehicleSim
