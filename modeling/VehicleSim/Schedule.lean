/-!
Who is called in each tick, and what is put off to its start. Subscription requests wait until
they are applied between ticks, and a deferred action is queued at most once per object.
-/

set_option autoImplicit false

namespace VehicleSim

-- In full a counter of 32 bits. Here it never runs out, so what holds of runs holds of those with fewer than
-- `2 ^ 32 - 1` objects.
abbrev ObjectId := Nat

inductive Deferred where
  | refreshVehicle
deriving DecidableEq, Repr

inductive HookChange where
  | subscribe (id : ObjectId)
  | unsubscribe (id : ObjectId)
deriving DecidableEq, Repr

namespace HookChange

def id : HookChange → ObjectId
  | subscribe id | unsubscribe id => id

end HookChange

structure Schedule where
  preStep : List ObjectId
  postStep : List ObjectId
  pending : List HookChange
  deferred : List (ObjectId × Deferred)

namespace Schedule

def empty : Schedule := ⟨[], [], [], []⟩

def subscribe (schedule : Schedule) (id : ObjectId) : Schedule :=
  { schedule with pending := schedule.pending ++ [.subscribe id] }

def unsubscribe (schedule : Schedule) (id : ObjectId) : Schedule :=
  { schedule with pending := schedule.pending ++ [.unsubscribe id] }

def applyChange (subscribers : List ObjectId) : HookChange → List ObjectId
  | .subscribe id => if id ∈ subscribers then subscribers else subscribers ++ [id]
  | .unsubscribe id => subscribers.filter (· != id)

theorem nodup_apply_change (subscribers : List ObjectId) (change : HookChange)
    (distinct : subscribers.Nodup) : (applyChange subscribers change).Nodup := by
  cases change with
  | subscribe id =>
      by_cases known : id ∈ subscribers
      · simpa only [applyChange, if_pos known] using distinct
      · rw [applyChange, if_neg known, List.nodup_append]
        refine ⟨distinct, by simp, ?_⟩
        intro old present new added same
        rw [List.mem_singleton] at added
        exact known (added ▸ same ▸ present)
  | unsubscribe id => exact distinct.filter _

def applyPending (schedule : Schedule) : Schedule :=
  { schedule with
    preStep := schedule.pending.foldl applyChange schedule.preStep
    postStep := schedule.pending.foldl applyChange schedule.postStep
    pending := [] }

def isSubscribed (schedule : Schedule) (id : ObjectId) : Bool := id ∈ schedule.preStep

def defer (schedule : Schedule) (id : ObjectId) (action : Deferred) : Schedule :=
  if (id, action) ∈ schedule.deferred then schedule
  else { schedule with deferred := schedule.deferred ++ [(id, action)] }

def takeDeferred (schedule : Schedule) : List (ObjectId × Deferred) × Schedule :=
  (schedule.deferred, { schedule with deferred := [] })

def forget (schedule : Schedule) (id : ObjectId) : Schedule where
  preStep := schedule.preStep.filter (· != id)
  postStep := schedule.postStep.filter (· != id)
  pending := schedule.pending.filter (·.id != id)
  deferred := schedule.deferred.filter (·.1 != id)

end Schedule

end VehicleSim
