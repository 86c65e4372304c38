import VehicleSim.Proofs.Body.Access

/-!
Heights asked of a rig, against those of the landscape. A rig is surveyed while every height that it remembers is the
landscape's at the point where the body is: so it is at the start of a step, and so it stays until the body is moved
sideways.
-/

set_option autoImplicit false

namespace VehicleSim

variable {α : Type}

def Landscape.heightAt (landscape : Landscape α) : Surface → α → α → α
  | .ground => landscape.groundAt
  | .water => landscape.waterAt

def Cache.memo (cache : Cache α) : Surface → Option (HeightMemo α)
  | .ground => cache.ground
  | .water => cache.water

def BodyView.restingAt [Scalar α] (position : Vec3 α) : BodyView α where
  position
  orientation := .identity
  velocity := 0
  rotationalVelocity := 0
  mass := 1
  gravity := 0
  colliding := false
  physical := true
  enabled := true

namespace Rig

variable {rig middle after : Rig α}

def remember (rig : Rig α) (memo : HeightMemo α) : Surface → Rig α
  | .ground => { rig with cache := { rig.cache with ground := some memo }, traffic := rig.traffic.addLookup .ground }
  | .water => { rig with cache := { rig.cache with water := some memo }, traffic := rig.traffic.addLookup .water }

theorem memo_remember (rig : Rig α) (memo : HeightMemo α) (surface other : Surface) :
    (rig.remember memo surface).cache.memo other = if other = surface then some memo else rig.cache.memo other := by
  cases surface <;> cases other <;> rfl

def heightHere (rig : Rig α) (surface : Surface) : α :=
  rig.landscape.heightAt surface rig.position.1.x rig.position.1.y

def Surveyed (rig : Rig α) : Prop := ∀ surface, ∀ memo ∈ rig.cache.memo surface, memo.height = rig.heightHere surface

theorem surveyed_set_position (value : Vec3 α) (surveyed : rig.Surveyed) (x : value.x = rig.position.1.x)
    (y : value.y = rig.position.1.y) : (rig.setPosition value).Surveyed := by
  intro surface memo member
  change memo.height = rig.landscape.heightAt surface value.x value.y
  rw [x, y]
  exact surveyed surface memo member

structure Unmoved (rig after : Rig α) : Prop where
  position : after.position.1 = rig.position.1
  landscape : after.landscape = rig.landscape
  body : after.body = rig.body
  force : after.cache.force = rig.cache.force
  surveyed : rig.Surveyed → after.Surveyed

theorem Unmoved.refl (rig : Rig α) : Unmoved rig rig := ⟨rfl, rfl, rfl, rfl, id⟩

theorem Unmoved.trans (first : Unmoved rig middle) (second : Unmoved middle after) : Unmoved rig after where
  position := second.position.trans first.position
  landscape := second.landscape.trans first.landscape
  body := second.body.trans first.body
  force := second.force.trans first.force
  surveyed surveyed := second.surveyed (first.surveyed surveyed)

theorem Unmoved.height_here (unmoved : Unmoved rig after) (surface : Surface) :
    after.heightHere surface = rig.heightHere surface := by
  rw [heightHere, unmoved.landscape, unmoved.position, heightHere]

theorem position_again (rig : Rig α) : rig.position.2.position.1 = rig.position.1 := Known.read_fetch _ _ _

theorem unmoved_position (rig : Rig α) : Unmoved rig rig.position.2 where
  position := position_again rig
  landscape := rfl
  body := rfl
  force := rfl
  surveyed surveyed surface memo member := by
    rw [heightHere, position_again]
    exact surveyed surface memo member

theorem unmoved_remember (rig : Rig α) (surface : Surface) :
    Unmoved rig (rig.remember ⟨rig.position.1, rig.heightHere surface⟩ surface) where
  position := by cases surface <;> rfl
  landscape := by cases surface <;> rfl
  body := by cases surface <;> rfl
  force := by cases surface <;> rfl
  surveyed surveyed other memo member := by
    have here : (rig.remember ⟨rig.position.1, rig.heightHere surface⟩ surface).heightHere other =
        rig.heightHere other := by
      cases surface <;> rfl
    rw [here]
    rw [memo_remember] at member
    by_cases same : other = surface
    · subst same
      rw [if_pos rfl] at member
      cases member
      rfl
    · rw [if_neg same] at member
      exact surveyed other memo member

structure Peeked (rig after : Rig α) : Prop where
  place : after.cache.position.fetch after.body.position = rig.cache.position.fetch rig.body.position
  velocity : after.cache.velocity = rig.cache.velocity
  body : after.body = rig.body

theorem Peeked.refl (rig : Rig α) : Peeked rig rig := ⟨rfl, rfl, rfl⟩

theorem Peeked.trans (first : Peeked rig middle) (second : Peeked middle after) : Peeked rig after where
  place := second.place.trans first.place
  velocity := second.velocity.trans first.velocity
  body := second.body.trans first.body

theorem Peeked.position (peeked : Peeked rig after) : after.position.1 = rig.position.1 :=
  calc
    after.position.1 = (after.cache.position.fetch after.body.position).value := (Known.value_fetch _ _).symm
    _ = (rig.cache.position.fetch rig.body.position).value := congrArg Known.value peeked.place
    _ = rig.position.1 := Known.value_fetch _ _

theorem Peeked.velocity_value (peeked : Peeked rig after) : after.velocity.1 = rig.velocity.1 := by
  change after.cache.velocity.read after.body.velocity = rig.cache.velocity.read rig.body.velocity
  rw [peeked.velocity, peeked.body]

theorem peeked_position (rig : Rig α) : Peeked rig rig.position.2 where
  place := by
    change (rig.cache.position.fetch rig.body.position).fetch rig.body.position = _
    rw [Known.fetch, if_pos (Known.fetched_fetch _ _)]
  velocity := rfl
  body := rfl

variable [Scalar α]

theorem peeked_height (rig : Rig α) (surface : Surface) : Peeked rig (rig.heightOf surface).2 := by
  have seen := rig.same_state_height surface
  refine (peeked_position rig).trans ⟨?_, seen.slot .velocity, seen.body⟩
  rw [seen.body]
  exact congrArg (·.fetch rig.body.position) (seen.slot .position)

theorem surveyed_forget (rig : Rig α) : rig.forget.Surveyed := by
  intro surface memo member
  cases surface <;> cases member

theorem height_of_eq (rig : Rig α) (surface : Surface) :
    rig.heightOf surface =
      match HeightMemo.known? (rig.cache.memo surface) rig.position.1 with
      | some height => (height, rig.position.2)
      | none =>
          (rig.heightHere surface, rig.position.2.remember ⟨rig.position.1, rig.heightHere surface⟩ surface) := by
  cases surface <;> rfl

theorem unmoved_height (rig : Rig α) (surface : Surface) : Unmoved rig (rig.heightOf surface).2 := by
  have seen := unmoved_position rig
  rw [height_of_eq]
  split
  · exact seen
  · rw [← seen.height_here surface, ← seen.position]
    exact seen.trans (unmoved_remember rig.position.2 surface)

theorem height_surveyed (surveyed : rig.Surveyed) (surface : Surface) :
    (rig.heightOf surface).1 = rig.heightHere surface := by
  have remembered := surveyed surface
  rw [height_of_eq]
  cases found : rig.cache.memo surface with
  | none => rfl
  | some memo =>
      by_cases here : memo.place == rig.position.1
      · simp [HeightMemo.known?, here, remembered memo found]
      · simp [HeightMemo.known?, here]

end Rig

end VehicleSim
