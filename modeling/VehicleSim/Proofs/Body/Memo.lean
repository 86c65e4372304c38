import VehicleSim.Proofs.Body.Survey
import VehicleSim.Proofs.Number.Equal

/-!
The heights that a rig remembers, whatever is done with the rig and with the body behind its back. A remembered height
is the landscape's at the point where it was asked for, so it may be given again at every equal point.
-/

set_option autoImplicit false

namespace VehicleSim

structure Landscape.Signless (landscape : Landscape Float32) : Prop where
  x : ∀ surface y, landscape.heightAt surface (-0) y = landscape.heightAt surface 0 y
  y : ∀ surface x, landscape.heightAt surface x (-0) = landscape.heightAt surface x 0

namespace Landscape.Signless

open Binary32

variable {landscape : Landscape Float32} (signless : landscape.Signless)
include signless

theorem height_zero_x (surface : Surface) (x y : Float32) (zero : Binary32.Zero x) :
    landscape.heightAt surface x y = landscape.heightAt surface 0 y := by
  rcases zero with rfl | rfl
  · rfl
  · exact signless.x surface y

theorem height_zero_y (surface : Surface) (x y : Float32) (zero : Binary32.Zero y) :
    landscape.heightAt surface x y = landscape.heightAt surface x 0 := by
  rcases zero with rfl | rfl
  · rfl
  · exact signless.y surface x

theorem height_equal (surface : Surface) (place other : Vec3 Float32) (equal : (place == other) = true) :
    landscape.heightAt surface place.x place.y = landscape.heightAt surface other.x other.y := by
  obtain ⟨x, y, -⟩ := (Vec3.beq_iff place other).mp equal
  have first : landscape.heightAt surface place.x place.y = landscape.heightAt surface other.x place.y := by
    rcases same_of_equal _ _ x with same | ⟨zero, otherZero⟩
    · rw [same]
    · rw [signless.height_zero_x surface _ _ zero, signless.height_zero_x surface _ _ otherZero]
  have second : landscape.heightAt surface other.x place.y = landscape.heightAt surface other.x other.y := by
    rcases same_of_equal _ _ y with same | ⟨zero, otherZero⟩
    · rw [same]
    · rw [signless.height_zero_y surface _ _ zero, signless.height_zero_y surface _ _ otherZero]
  exact first.trans second

end Landscape.Signless

namespace Vec3

theorem equal_self (v : Vec3 Float32) (numbers : v.any Scalar.isNaN = false) : (v == v) = true := by
  simp only [any, Bool.or_eq_false_iff] at numbers
  obtain ⟨⟨x, y⟩, z⟩ := numbers
  exact (beq_iff v v).mpr ⟨Binary32.equal_self _ x, Binary32.equal_self _ y, Binary32.equal_self _ z⟩

theorem equal_trans (v w u : Vec3 Float32) (first : (v == w) = true) (second : (w == u) = true) : (v == u) = true := by
  rw [beq_iff] at first second ⊢
  exact ⟨Binary32.equal_trans _ _ _ first.1 second.1, Binary32.equal_trans _ _ _ first.2.1 second.2.1,
    Binary32.equal_trans _ _ _ first.2.2 second.2.2⟩

end Vec3

variable {α : Type}

-- What can befall a rig: a use of it, the end of what it knows, and changes of the body that it is not told of.
inductive Handling (α : Type) where
  | access (access : Access α)
  | forget
  | change (body : BodyView α)

def Handling.query (surface : Surface) : Handling α := .access (.height surface)

def Unasked (surface : Surface) (handlings : List (Handling α)) : Prop :=
  ∃ earlier later, handlings = earlier ++ later ∧ (earlier = [] ∨ ∃ before, earlier = before ++ [.forget]) ∧
    .query surface ∉ later

namespace Rig

def lookups (rig : Rig α) (surface : Surface) : Nat := rig.traffic.lookups.count surface

theorem lookups_remember (rig : Rig α) (memo : HeightMemo α) (surface other : Surface) :
    (rig.remember memo surface).lookups other = rig.lookups other + if other = surface then 1 else 0 := by
  cases surface <;> cases other <;> simp [lookups, remember, Traffic.addLookup]

structure SameMemory (surface : Surface) (rig after : Rig α) : Prop where
  landscape : after.landscape = rig.landscape
  memo : after.cache.memo surface = rig.cache.memo surface
  lookups : after.lookups surface = rig.lookups surface

theorem same_memory_read (rig : Rig α) (field : StateField) (surface : Surface) :
    SameMemory surface rig (rig.read field).2 where
  landscape := by cases field <;> rfl
  memo := by cases field <;> cases surface <;> rfl
  lookups := by
    rw [lookups, traffic_read]
    split <;> rfl

theorem same_memory_remember (rig : Rig α) (memo : HeightMemo α) (surface other : Surface) (differs : other ≠ surface) :
    SameMemory other rig (rig.remember memo surface) where
  landscape := by cases surface <;> rfl
  memo := by rw [memo_remember, if_neg differs]
  lookups := by rw [lookups_remember, if_neg differs, Nat.add_zero]

variable [Scalar α]

def handle (rig : Rig α) : Handling α → Rig α
  | .access access => rig.access access
  | .forget => rig.forget
  | .change body => { rig with body }

def handleAll (rig : Rig α) (handlings : List (Handling α)) : Rig α := handlings.foldl handle rig

theorem same_memory_access (rig : Rig α) (access : Access α) (surface : Surface) (unasked : access ≠ .height surface) :
    SameMemory surface rig (rig.access access) := by
  cases access with
  | read field => exact same_memory_read rig field surface
  | set field value =>
      exact ⟨by cases field <;> rfl, by cases field <;> cases surface <;> rfl, by cases field <;> rfl⟩
  | add field term =>
      exact ⟨by cases field <;> rfl, by cases field <;> cases surface <;> rfl, by cases field <;> rfl⟩
  | height other =>
      have differs : surface ≠ other := fun same => unasked (same ▸ rfl)
      have placed := same_memory_read rig .position surface
      change SameMemory surface rig (rig.heightOf other).2
      rw [height_of_eq]
      split
      · exact placed
      · have remembered :=
          same_memory_remember rig.position.2 ⟨rig.position.1, rig.heightHere other⟩ other surface differs
        exact ⟨remembered.landscape.trans placed.landscape, remembered.memo.trans placed.memo,
          remembered.lookups.trans placed.lookups⟩
  | flush =>
      change SameMemory surface rig rig.flush.2
      unfold flush
      split
      · exact ⟨rfl, by cases surface <;> rfl, rfl⟩
      · exact ⟨rfl, rfl, rfl⟩

theorem same_memory_known (rig : Rig α) (surface : Surface) (height : α)
    (known : HeightMemo.known? (rig.cache.memo surface) rig.position.1 = some height) :
    SameMemory surface rig (rig.heightOf surface).2 := by
  rw [height_of_eq, known]
  exact same_memory_read rig .position surface

theorem height_unknown (rig : Rig α) (surface : Surface)
    (unknown : HeightMemo.known? (rig.cache.memo surface) rig.position.1 = none) :
    (rig.heightOf surface).2.cache.memo surface = some ⟨rig.position.1, rig.heightHere surface⟩ ∧
      (rig.heightOf surface).2.lookups surface = rig.lookups surface + 1 := by
  rw [height_of_eq, unknown]
  refine ⟨?_, ?_⟩
  · rw [memo_remember, if_pos rfl]
  · rw [lookups_remember, if_pos rfl]
    exact congrArg (· + 1) (same_memory_read rig .position surface).lookups

theorem landscape_handle (rig : Rig α) (handling : Handling α) : (rig.handle handling).landscape = rig.landscape := by
  cases handling with
  | access access =>
      cases access with
      | height surface => exact (unmoved_height rig surface).landscape
      | read field => exact (same_memory_read rig field .ground).landscape
      | set field value => exact (same_memory_access rig (.set field value) .ground nofun).landscape
      | add field term => exact (same_memory_access rig (.add field term) .ground nofun).landscape
      | flush => exact (same_memory_access rig .flush .ground nofun).landscape
  | _ => rfl

structure Truthful (landscape : Landscape α) (rig : Rig α) : Prop where
  around : rig.landscape = landscape
  memo : ∀ surface, ∀ memo ∈ rig.cache.memo surface,
    memo.height = landscape.heightAt surface memo.place.x memo.place.y

theorem truthful_fresh (body : BodyView α) (landscape : Landscape α) :
    Truthful landscape (Rig.bind .fresh body landscape) where
  around := rfl
  memo surface memo member := by cases surface <;> cases member

theorem truthful_height {landscape : Landscape α} {rig : Rig α} (truthful : Truthful landscape rig)
    (surface : Surface) : ∀ memo ∈ (rig.heightOf surface).2.cache.memo surface,
      memo.height = landscape.heightAt surface memo.place.x memo.place.y := by
  intro memo member
  cases known : HeightMemo.known? (rig.cache.memo surface) rig.position.1 with
  | some height =>
      rw [(same_memory_known rig surface height known).memo] at member
      exact truthful.memo surface memo member
  | none =>
      rw [(height_unknown rig surface known).1] at member
      cases member
      rw [heightHere, truthful.around]

theorem truthful_handle {landscape : Landscape α} {rig : Rig α} (truthful : Truthful landscape rig)
    (handling : Handling α) : Truthful landscape (rig.handle handling) where
  around := (landscape_handle rig handling).trans truthful.around
  memo surface memo member := by
    cases handling with
    | access access =>
        by_cases asked : access = .height surface
        · subst asked
          exact truthful_height truthful surface memo member
        · rw [handle, (same_memory_access rig access surface asked).memo] at member
          exact truthful.memo surface memo member
    | forget => cases surface <;> cases member
    | change body => exact truthful.memo surface memo member

theorem truthful_all {landscape : Landscape α} {rig : Rig α} (truthful : Truthful landscape rig)
    (handlings : List (Handling α)) : Truthful landscape (rig.handleAll handlings) := by
  induction handlings generalizing rig with
  | nil => exact truthful
  | cons handling rest ih => exact ih (truthful_handle truthful handling)

theorem height_truthful {landscape : Landscape Float32} {rig : Rig Float32} (truthful : Truthful landscape rig)
    (signless : landscape.Signless) (surface : Surface) :
    (rig.heightOf surface).1 = landscape.heightAt surface rig.position.1.x rig.position.1.y := by
  have looked : rig.heightHere surface = landscape.heightAt surface rig.position.1.x rig.position.1.y := by
    rw [heightHere, truthful.around]
  rw [height_of_eq]
  cases found : rig.cache.memo surface with
  | none => exact looked
  | some memo =>
      by_cases equal : (memo.place == rig.position.1) = true
      · rw [HeightMemo.known?, if_pos equal]
        exact (truthful.memo surface memo found).trans (signless.height_equal surface _ _ equal)
      · rw [HeightMemo.known?, if_neg equal]
        exact looked

theorem memo_unasked (rig : Rig α) (surface : Surface) (handlings : List (Handling α))
    (unknown : rig.cache.memo surface = none) (unasked : .query surface ∉ handlings) :
    (rig.handleAll handlings).cache.memo surface = none := by
  induction handlings generalizing rig with
  | nil => exact unknown
  | cons handling rest ih =>
      rw [List.mem_cons, not_or] at unasked
      refine ih (rig.handle handling) ?_ unasked.2
      cases handling with
      | access access =>
          have other : access ≠ .height surface := fun same => unasked.1 (same ▸ rfl)
          exact (same_memory_access rig access surface other).memo.trans unknown
      | forget => cases surface <;> rfl
      | change body => exact unknown

theorem unknown_unasked (body : BodyView α) (landscape : Landscape α) (surface : Surface)
    (handlings : List (Handling α)) (unasked : Unasked surface handlings) :
    ((Rig.bind .fresh body landscape).handleAll handlings).cache.memo surface = none := by
  obtain ⟨earlier, later, rfl, forgotten, unasked⟩ := unasked
  rw [handleAll, List.foldl_append]
  refine memo_unasked _ surface later ?_ unasked
  rcases forgotten with rfl | ⟨before, rfl⟩
  · cases surface <;> rfl
  · rw [List.foldl_append]
    cases surface <;> rfl

theorem lookups_query (rig : Rig α) (surface : Surface) :
    (rig.heightOf surface).2.lookups surface ≤ rig.lookups surface + 1 := by
  cases known : HeightMemo.known? (rig.cache.memo surface) rig.position.1 with
  | some height => exact Nat.le_succ_of_le (Nat.le_of_eq (same_memory_known rig surface height known).lookups)
  | none => exact Nat.le_of_eq (height_unknown rig surface known).2

def At (rig : Rig α) (place : Vec3 α) : Prop :=
  rig.cache.position.fetched = true ∧ rig.cache.position.value = place

omit [Scalar α] in
theorem At.position {rig : Rig α} {place : Vec3 α} (here : rig.At place) : rig.position.1 = place := by
  change rig.cache.position.read rig.body.position = place
  rw [Known.read, if_pos here.1, here.2]

omit [Scalar α] in
theorem at_position (rig : Rig α) : rig.position.2.At rig.position.1 :=
  ⟨Known.fetched_fetch _ _, Known.value_fetch _ _⟩

theorem at_height (rig : Rig α) (surface : Surface) : (rig.heightOf surface).2.At rig.position.1 := by
  have slot : (rig.heightOf surface).2.cache.position = rig.position.2.cache.position :=
    (rig.same_state_height surface).slot .position
  rw [At, slot]
  exact at_position rig

theorem at_access (rig : Rig α) (access : Access α) (place : Vec3 α) (here : rig.At place) :
    (rig.access access).At place ∨ ∃ value, access = .set .position value ∧ (rig.access access).At value := by
  cases access with
  | read field =>
      cases field with
      | position => exact Or.inl (here.position ▸ at_position rig)
      | _ => exact Or.inl here
  | set field value =>
      cases field with
      | position => exact Or.inr ⟨value, rfl, rfl, rfl⟩
      | _ => exact Or.inl here
  | add field term => cases field <;> exact Or.inl here
  | height surface => exact Or.inl (here.position ▸ at_height rig surface)
  | flush =>
      refine Or.inl ?_
      change rig.flush.2.At place
      unfold flush
      split
      · exact here
      · exact here

end Rig

-- Nothing is forgotten, and the position is set to none but an equal one.
def Handling.Keeps (place : Vec3 Float32) : Handling Float32 → Prop
  | .forget => False
  | .access (.set .position value) => (place == (value : Vec3 Float32)) = true
  | _ => True

namespace Rig

structure Recalls (surface : Surface) (place : Vec3 Float32) (rig : Rig Float32) : Prop where
  here : ∃ current, rig.At current ∧ (place == current) = true
  memo : ∃ memo, rig.cache.memo surface = some memo ∧ (memo.place == place) = true

variable {surface : Surface} {place : Vec3 Float32} {rig : Rig Float32}

theorem recalls_height (numbers : rig.position.1.any Scalar.isNaN = false) :
    Recalls surface rig.position.1 (rig.heightOf surface).2 where
  here := ⟨rig.position.1, at_height rig surface, Vec3.equal_self _ numbers⟩
  memo := by
    cases known : HeightMemo.known? (rig.cache.memo surface) rig.position.1 with
    | none => exact ⟨_, (height_unknown rig surface known).1, Vec3.equal_self _ numbers⟩
    | some height =>
        rw [(same_memory_known rig surface height known).memo]
        cases found : rig.cache.memo surface with
        | none =>
            rw [found] at known
            cases known
        | some memo =>
            refine ⟨memo, rfl, ?_⟩
            rw [found, HeightMemo.known?] at known
            by_contra differs
            rw [if_neg differs] at known
            cases known

theorem Recalls.known (recalls : Recalls surface place rig) :
    ∃ height, HeightMemo.known? (rig.cache.memo surface) rig.position.1 = some height := by
  obtain ⟨⟨current, here, near⟩, ⟨memo, found, same⟩⟩ := recalls
  rw [found, here.position, HeightMemo.known?, if_pos (Vec3.equal_trans _ _ _ same near)]
  exact ⟨_, rfl⟩

theorem Recalls.query (recalls : Recalls surface place rig) : SameMemory surface rig (rig.heightOf surface).2 := by
  obtain ⟨height, known⟩ := recalls.known
  exact same_memory_known rig surface height known

theorem Recalls.handle (recalls : Recalls surface place rig) (handling : Handling Float32)
    (keeps : handling.Keeps place) :
    Recalls surface place (rig.handle handling) ∧ (rig.handle handling).lookups surface = rig.lookups surface := by
  obtain ⟨⟨current, here, near⟩, memo⟩ := recalls
  cases handling with
  | forget => cases keeps
  | change body => exact ⟨⟨⟨current, here, near⟩, memo⟩, rfl⟩
  | access access =>
      have same : SameMemory surface rig (rig.access access) := by
        by_cases asked : access = .height surface
        · subst asked
          exact Recalls.query ⟨⟨current, here, near⟩, memo⟩
        · exact same_memory_access rig access surface asked
      refine ⟨⟨?_, by rw [Rig.handle, same.memo]; exact memo⟩, same.lookups⟩
      rcases at_access rig access current here with still | ⟨value, set, there⟩
      · exact ⟨current, still, near⟩
      · subst set
        exact ⟨value, there, keeps⟩

theorem Recalls.all (recalls : Recalls surface place rig) (handlings : List (Handling Float32))
    (keeps : ∀ handling ∈ handlings, handling.Keeps place) :
    Recalls surface place (rig.handleAll handlings) ∧
      (rig.handleAll handlings).lookups surface = rig.lookups surface := by
  induction handlings generalizing rig with
  | nil => exact ⟨recalls, rfl⟩
  | cons handling rest ih =>
      rw [List.forall_mem_cons] at keeps
      obtain ⟨next, lookups⟩ := recalls.handle handling keeps.1
      obtain ⟨last, later⟩ := ih next keeps.2
      exact ⟨last, later.trans lookups⟩

end Rig

def rising : Landscape Float32 := ⟨fun x _ => x + 1, fun _ y => y * y⟩

theorem rising_signless : rising.Signless where
  x surface y := by cases surface <;> rfl
  y surface x := by cases surface <;> rfl

/-- Whatever befell a rig, a height asked of it is the landscape's where the body is then known to be. Asked again, with
nothing forgotten and the body kept at equal points, the height costs no second lookup; and the first, which may be
known from before, costs one if it was not asked for since the rig last forgot. -/
theorem remembered_heights (body : BodyView Float32) (landscape : Landscape Float32) (signless : landscape.Signless)
    (handlings : List (Handling Float32)) (surface : Surface) :
    let rig := (Rig.bind .fresh body landscape).handleAll handlings
    let first := rig.heightOf surface
    first.1 = landscape.heightAt surface rig.position.1.x rig.position.1.y ∧
      (rig.position.1.any Scalar.isNaN = false → ∀ between, (∀ handling ∈ between, handling.Keeps rig.position.1) →
        let second := (first.2.handleAll between).heightOf surface
        second.2.lookups surface = first.2.lookups surface) ∧
      first.2.lookups surface ≤ rig.lookups surface + 1 ∧
      (Unasked surface handlings → first.2.lookups surface = rig.lookups surface + 1) := by
  intro rig first
  have truthful := Rig.truthful_all (Rig.truthful_fresh body landscape) handlings
  refine ⟨Rig.height_truthful truthful signless surface, ?_, Rig.lookups_query rig surface, ?_⟩
  · intro numbers between keeps second
    obtain ⟨recalls, lookups⟩ := (Rig.recalls_height numbers).all between keeps
    exact recalls.query.lookups.trans lookups
  · intro unasked
    refine (Rig.height_unknown rig surface ?_).2
    rw [Rig.unknown_unasked body landscape surface handlings unasked]
    rfl

theorem rise_remembered :
    let rig := (Rig.bind .fresh (.restingAt ⟨4, 3, 1⟩) rising).handleAll
      [.query .water, .access (.set .position ⟨0, 2, 1⟩)]
    let first := rig.heightOf .ground
    let between := [.access (.set .position ⟨-0, 2, 1⟩), .query .water, .access .flush, .change (.restingAt ⟨9, 9, 9⟩)]
    let second := (first.2.handleAll between).heightOf .ground
    rising.Signless ∧ rig.position.1.any Scalar.isNaN = false ∧ first.1 = 1 ∧
      first.2.lookups .ground = rig.lookups .ground + 1 ∧ second.2.lookups .ground = first.2.lookups .ground := by
  have asked := remembered_heights (.restingAt ⟨4, 3, 1⟩) rising rising_signless
    [.query .water, .access (.set .position ⟨0, 2, 1⟩)] .ground
  refine ⟨rising_signless, rfl, asked.1.trans rfl, asked.2.2.2 ⟨[], _, rfl, Or.inl rfl, by simp [Handling.query]⟩, ?_⟩
  refine asked.2.1 rfl _ ?_
  intro handling member
  simp only [List.mem_cons, List.not_mem_nil, or_false] at member
  rcases member with rfl | rfl | rfl | rfl
  · exact (by decide : ((⟨0, 2, 1⟩ : Vec3 Float32) == ⟨-0, 2, 1⟩) = true)
  · trivial
  · trivial
  · trivial

end VehicleSim
