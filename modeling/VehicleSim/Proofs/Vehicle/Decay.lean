import Mathlib.Tactic.NormNum
import Mathlib.Tactic.Ring
import VehicleSim.Proofs.Number.Exact
import VehicleSim.Proofs.Space.Axes
import VehicleSim.Vehicle.Motor

/-!
What is left of a motor's direction after any history of requests, changes of the decay timescale and advances, in exact
arithmetic. An advance that finds a request starts over from it; every other advance takes off the share of its own step.
So only the last request that was taken up counts, and only what has come after it.
-/

set_option autoImplicit false

namespace VehicleSim

inductive MotorEvent (α : Type) where
  | request (direction : Vec3 α)
  | decayOver (timescale : α)
  | advance (dt : α)

namespace MotorEvent

variable {α : Type}

def advances : MotorEvent α → Bool
  | .advance _ => true
  | _ => false

def timescaleAfter (timescale : α) : MotorEvent α → α
  | .decayOver changed => changed
  | _ => timescale

def inForce (timescale : α) (events : List (MotorEvent α)) : α := events.foldl timescaleAfter timescale

def steps (timescale : α) : List (MotorEvent α) → List (α × α)
  | [] => []
  | .request _ :: rest => steps timescale rest
  | .decayOver changed :: rest => steps changed rest
  | .advance dt :: rest => (dt, timescale) :: steps timescale rest

def TakesUp (events : List (MotorEvent α)) : Prop :=
  ∃ before direction between dt after, events = before ++ .request direction :: (between ++ .advance dt :: after)

theorem takes_up_cons (event : MotorEvent α) (rest : List (MotorEvent α)) :
    TakesUp (event :: rest) ↔
      ((∃ direction, event = .request direction) ∧ ∃ event ∈ rest, event.advances = true) ∨ TakesUp rest := by
  constructor
  · rintro ⟨before, direction, between, dt, after, split⟩
    cases before with
    | nil =>
        obtain ⟨rfl, rfl⟩ := List.cons.inj split
        exact Or.inl ⟨⟨direction, rfl⟩, .advance dt, by simp, rfl⟩
    | cons first earlier =>
        obtain ⟨rfl, rfl⟩ := List.cons.inj split
        exact Or.inr ⟨earlier, direction, between, dt, after, rfl⟩
  · rintro (⟨⟨direction, rfl⟩, event, member, advances⟩ | ⟨before, direction, between, dt, after, rfl⟩)
    · cases event with
      | advance dt =>
          obtain ⟨between, after, rfl⟩ := List.append_of_mem member
          exact ⟨[], direction, between, dt, after, rfl⟩
      | _ => cases advances
    · exact ⟨event :: before, direction, between, dt, after, rfl⟩

theorem steps_still (timescale : α) (events : List (MotorEvent α))
    (still : ∀ event ∈ events, event.advances = false) : steps timescale events = [] := by
  induction events generalizing timescale with
  | nil => rfl
  | cons event rest ih =>
      rw [List.forall_mem_cons] at still
      cases event with
      | request direction => exact ih timescale still.2
      | decayOver changed => exact ih changed still.2
      | advance dt => cases still.1

theorem first_advance (events : List (MotorEvent α)) (some : ∃ event ∈ events, event.advances = true) :
    ∃ waiting dt after, events = waiting ++ .advance dt :: after ∧ ∀ event ∈ waiting, event.advances = false := by
  induction events with
  | nil => simp at some
  | cons event rest ih =>
      cases here : event.advances with
      | true =>
          cases event with
          | advance dt => exact ⟨[], dt, rest, rfl, by simp⟩
          | _ => cases here
      | false =>
          rw [List.exists_mem_cons_iff, here] at some
          obtain ⟨waiting, dt, after, rfl, still⟩ := ih (some.resolve_left Bool.false_ne_true)
          exact ⟨event :: waiting, dt, after, rfl, List.forall_mem_cons.mpr ⟨here, still⟩⟩

-- Where the last request that is taken up stands: nothing else is asked for before the advance that takes it up, and
-- no later advance finds a request.
structure LastTaken (events before : List (MotorEvent α)) (direction : Vec3 α) (waiting : List (MotorEvent α)) (dt : α)
    (after : List (MotorEvent α)) : Prop where
  split : events = before ++ .request direction :: (waiting ++ .advance dt :: after)
  waits : ∀ event ∈ waiting, ∃ timescale, event = .decayOver timescale
  last : ¬ TakesUp after

theorem last_taken (events : List (MotorEvent α)) (taken : TakesUp events) :
    ∃ before direction waiting dt after, LastTaken events before direction waiting dt after := by
  induction events with
  | nil =>
      obtain ⟨before, direction, between, dt, after, split⟩ := taken
      simp at split
  | cons event rest ih =>
      by_cases later : TakesUp rest
      · obtain ⟨before, direction, waiting, dt, after, rfl, waits, last⟩ := ih later
        exact ⟨event :: before, direction, waiting, dt, after, rfl, waits, last⟩
      · obtain ⟨⟨direction, rfl⟩, some⟩ := ((takes_up_cons event rest).mp taken).resolve_right later
        obtain ⟨waiting, dt, after, rfl, still⟩ := first_advance rest some
        refine ⟨[], direction, waiting, dt, after, rfl, fun event member => ?_, fun again => later ?_⟩
        · cases event with
          | decayOver timescale => exact ⟨timescale, rfl⟩
          | advance dt => cases still _ member
          | request other =>
              obtain ⟨earlier, between, rfl⟩ := List.append_of_mem member
              exact absurd ⟨earlier, other, between, dt, after, by simp⟩ later
        · obtain ⟨before, other, between, next, late, rfl⟩ := again
          exact ⟨waiting ++ .advance dt :: before, other, between, next, late, by simp⟩

end MotorEvent

namespace Motor

section

variable {α : Type} [Scalar α]

def respond (motor : Motor α) : MotorEvent α → Motor α
  | .request direction => motor.request direction
  | .decayOver timescale => { motor with decayTimescale := timescale }
  | .advance dt => motor.advance dt

def undergo (motor : Motor α) (events : List (MotorEvent α)) : Motor α := events.foldl respond motor

theorem undergo_append (motor : Motor α) (early late : List (MotorEvent α)) :
    motor.undergo (early ++ late) = (motor.undergo early).undergo late := List.foldl_append

theorem undergo_cons (motor : Motor α) (event : MotorEvent α) (rest : List (MotorEvent α)) :
    motor.undergo (event :: rest) = (motor.respond event).undergo rest := rfl

theorem undergo_timescale (motor : Motor α) (events : List (MotorEvent α)) :
    (motor.undergo events).decayTimescale = MotorEvent.inForce motor.decayTimescale events := by
  induction events generalizing motor with
  | nil => rfl
  | cons event rest ih =>
      rw [undergo_cons, ih]
      cases event <;> rfl

theorem undergo_still (motor : Motor α) (events : List (MotorEvent α))
    (still : ∀ event ∈ events, event.advances = false) : (motor.undergo events).decaying = motor.decaying := by
  induction events generalizing motor with
  | nil => rfl
  | cons event rest ih =>
      rw [List.forall_mem_cons] at still
      rw [undergo_cons, ih _ still.2]
      cases event with
      | advance dt => cases still.1
      | _ => rfl

theorem undergo_waiting (motor : Motor α) (waiting : List (MotorEvent α))
    (waits : ∀ event ∈ waiting, ∃ timescale, event = .decayOver timescale) :
    (motor.undergo waiting).requested = motor.requested := by
  induction waiting generalizing motor with
  | nil => rfl
  | cons event rest ih =>
      rw [List.forall_mem_cons] at waits
      obtain ⟨timescale, rfl⟩ := waits.1
      exact ih _ waits.2

theorem undergo_overwritten (motor : Motor α) (overwritten direction : Vec3 α) (waiting : List (MotorEvent α))
    (still : ∀ event ∈ waiting, event.advances = false) :
    motor.undergo (.request overwritten :: (waiting ++ [.request direction])) =
      motor.undergo (waiting ++ [.request direction]) := by
  rw [undergo_cons, undergo_append, undergo_append]
  change ((motor.request overwritten).undergo waiting).request direction = (motor.undergo waiting).request direction
  induction waiting generalizing motor with
  | nil => rfl
  | cons event rest ih =>
      rw [List.forall_mem_cons] at still
      cases event with
      | request other => rfl
      | decayOver timescale => exact ih { motor with decayTimescale := timescale } still.2
      | advance dt => cases still.1

end

noncomputable def share (step : ℝ × ℝ) : ℝ := 1 - step.1 / step.2

theorem advance_idle (motor : Motor ℝ) (dt : ℝ) (idle : motor.requested = none) :
    (motor.advance dt).decaying = motor.decaying * share (dt, motor.decayTimescale) := by
  have axis (component : ℝ) :
      component - component * dt / motor.decayTimescale = component * share (dt, motor.decayTimescale) := by
    rw [share]
    ring
  rw [advance, idle]
  exact Vec3.ext (axis motor.decaying.x) (axis motor.decaying.y) (axis motor.decaying.z)

-- The induction is on the events. A request that is never taken up may still come, and ends the argument: from there on
-- no advance follows.
theorem undergo_idle (motor : Motor ℝ) (events : List (MotorEvent ℝ)) (idle : motor.requested = none)
    (untaken : ¬ MotorEvent.TakesUp events) :
    (motor.undergo events).decaying =
      motor.decaying * ((MotorEvent.steps motor.decayTimescale events).map share).prod := by
  have none (v : Vec3 ℝ) : v = v * (1 : ℝ) := by ext <;> simp
  induction events generalizing motor with
  | nil => exact none motor.decaying
  | cons event rest ih =>
      rw [MotorEvent.takes_up_cons, not_or] at untaken
      rw [undergo_cons]
      cases event with
      | request direction =>
          have still : ∀ event ∈ rest, event.advances = false := fun event member =>
            Bool.eq_false_iff.mpr fun advances => untaken.1 ⟨⟨direction, rfl⟩, event, member, advances⟩
          rw [undergo_still _ rest still, MotorEvent.steps, MotorEvent.steps_still _ rest still]
          exact none motor.decaying
      | decayOver timescale => exact ih { motor with decayTimescale := timescale } idle untaken.2
      | advance dt =>
          change ((motor.advance dt).undergo rest).decaying = _
          rw [ih (motor.advance dt) rfl untaken.2, advance_idle motor dt idle, MotorEvent.steps, List.map_cons,
            List.prod_cons]
          exact Vec3.ext (mul_assoc _ _ _) (mul_assoc _ _ _) (mul_assoc _ _ _)

open MotorEvent in
/-- Once a request has been taken up, the direction is the last one taken up, less the share of every advance since: the
history has such a request, and wherever it stands the direction is that. A request that is overwritten before an advance
changes nothing at all, and an advance leaves no request behind, so that none is taken up twice. -/
theorem decays_from_last_taken (motor : Motor ℝ) (events : List (MotorEvent ℝ)) (taken : TakesUp events) :
    (∃ before direction waiting dt after, LastTaken events before direction waiting dt after) ∧
      (∀ before direction waiting dt after, LastTaken events before direction waiting dt after →
        let timescale := inForce motor.decayTimescale (before ++ .request direction :: (waiting ++ [.advance dt]))
        (motor.undergo events).decaying = direction * ((steps timescale after).map share).prod) ∧
      (∀ before overwritten waiting direction after,
        events = before ++ .request overwritten :: (waiting ++ .request direction :: after) →
        (∀ event ∈ waiting, event.advances = false) →
        motor.undergo events = motor.undergo (before ++ (waiting ++ .request direction :: after))) ∧
      ∀ before dt after, events = before ++ .advance dt :: after →
        (motor.undergo (before ++ [.advance dt])).requested = none := by
  refine ⟨last_taken events taken, ?_, ?_, ?_⟩
  · rintro before direction waiting dt after ⟨rfl, waits, last⟩ timescale
    let asked := ((motor.undergo before).request direction).undergo waiting
    have found : asked.requested = some direction := undergo_waiting _ waiting waits
    have start : (asked.advance dt).decaying = direction := by rw [advance, found]
    have split : motor.undergo (before ++ .request direction :: (waiting ++ .advance dt :: after)) =
        (asked.advance dt).undergo after := by
      rw [undergo_append, undergo_cons, undergo_append, undergo_cons]
      rfl
    have force : (asked.advance dt).decayTimescale = timescale := by
      have whole : asked.advance dt = motor.undergo (before ++ .request direction :: (waiting ++ [.advance dt])) := by
        rw [undergo_append, undergo_cons, undergo_append]
        rfl
      rw [whole, undergo_timescale]
    rw [split, undergo_idle _ after rfl last, start, force]
  · rintro before overwritten waiting direction after rfl still
    have same := undergo_overwritten (motor.undergo before) overwritten direction waiting still
    have joined : waiting ++ .request direction :: after = waiting ++ [.request direction] ++ after := by simp
    rw [undergo_append, undergo_append, joined, ← List.cons_append, undergo_append, undergo_append, same]
  · intro before dt after _
    rw [undergo_append]
    rfl

theorem twice_halved_direction :
    let overwritten : Vec3 ℝ := ⟨1, 1, 1⟩
    let direction : Vec3 ℝ := ⟨8, 4, 0⟩
    let late : Vec3 ℝ := ⟨0, 0, 1⟩
    ((Motor.initial : Motor ℝ).undergo
      [.request overwritten, .request direction, .decayOver 4, .advance 7, .advance 2, .decayOver 2, .advance 1,
        .request late]).decaying = ⟨2, 1, 0⟩ := by
  intro overwritten direction late
  have placed : MotorEvent.LastTaken
      [.request overwritten, .request direction, .decayOver 4, .advance 7, .advance 2, .decayOver 2, .advance 1,
        .request late]
      [.request overwritten] direction [.decayOver 4] (7 : ℝ) [.advance 2, .decayOver 2, .advance 1, .request late] := by
    refine ⟨rfl, by simp, ?_⟩
    simp only [MotorEvent.takes_up_cons]
    rintro (h | h | h | h | h) <;> simp [MotorEvent.TakesUp] at h
  have left := (decays_from_last_taken Motor.initial _ ⟨_, _, _, _, _, placed.split⟩).2.1 _ _ _ _ _ placed
  have shares : (([(2, 4), (1, 2)] : List (ℝ × ℝ)).map share).prod = 0.25 := by norm_num [share]
  have quarter : direction * (0.25 : ℝ) = ⟨2, 1, 0⟩ := by
    rw [Vec3.ext_iff]
    norm_num [direction]
  rw [← quarter, ← shares]
  exact left

end Motor

end VehicleSim
