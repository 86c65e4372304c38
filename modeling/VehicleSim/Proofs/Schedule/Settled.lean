import VehicleSim.Schedule

/-!
The subscribers of a schedule with its waiting requests taken into account. Requests are applied only
between ticks, so what a request does to this list is what it does in the end.
-/

set_option autoImplicit false

namespace VehicleSim.Schedule

def settled (schedule : Schedule) : List ObjectId :=
  schedule.pending.foldl applyChange schedule.preStep

theorem defer_keeps_hooks (schedule : Schedule) (id : ObjectId) (action : Deferred) :
    (schedule.defer id action).preStep = schedule.preStep ∧
      (schedule.defer id action).postStep = schedule.postStep ∧
      (schedule.defer id action).pending = schedule.pending := by
  unfold defer
  split <;> exact ⟨rfl, rfl, rfl⟩

theorem settled_defer (schedule : Schedule) (id : ObjectId) (action : Deferred) :
    (schedule.defer id action).settled = schedule.settled := by
  obtain ⟨pre, _, pending⟩ := defer_keeps_hooks schedule id action
  rw [settled, settled, pre, pending]

theorem nodup_foldl_apply_change (requests : List HookChange) (subscribers : List ObjectId)
    (distinct : subscribers.Nodup) : (requests.foldl applyChange subscribers).Nodup := by
  induction requests generalizing subscribers with
  | nil => exact distinct
  | cons change rest ih => exact ih _ (nodup_apply_change subscribers change distinct)

-- A request for one id never moves another id, so dropping the requests of an id commutes with
-- applying what is left.
theorem filter_apply_change (id : ObjectId) (change : HookChange) (subscribers : List ObjectId) :
    (applyChange subscribers change).filter (· != id) =
      if change.id != id then applyChange (subscribers.filter (· != id)) change
      else subscribers.filter (· != id) := by
  cases change with
  | subscribe other =>
      by_cases same : other = id
      · subst same
        by_cases known : other ∈ subscribers <;> simp [applyChange, known, HookChange.id]
      · by_cases known : other ∈ subscribers
        · simp [applyChange, known, HookChange.id, same]
        · simp [applyChange, known, HookChange.id, same]
  | unsubscribe other =>
      by_cases same : other = id
      · subst same
        simp [applyChange, HookChange.id]
      · simp [applyChange, HookChange.id, same, List.filter_filter, Bool.and_comm]

theorem filter_foldl_apply_change (id : ObjectId) (requests : List HookChange) (subscribers : List ObjectId) :
    (requests.foldl applyChange subscribers).filter (· != id) =
      (requests.filter (·.id != id)).foldl applyChange (subscribers.filter (· != id)) := by
  induction requests generalizing subscribers with
  | nil => rfl
  | cons change rest ih =>
      rw [List.foldl_cons, ih, filter_apply_change, List.filter_cons]
      by_cases other : (change.id != id) = true
      · rw [if_pos other, if_pos other, List.foldl_cons]
      · rw [if_neg other, if_neg other]

theorem settled_forget (schedule : Schedule) (id : ObjectId) :
    (schedule.forget id).settled = schedule.settled.filter (· != id) :=
  (filter_foldl_apply_change id schedule.pending schedule.preStep).symm

theorem mem_defer (schedule : Schedule) (id : ObjectId) (action : Deferred) (entry : ObjectId × Deferred) :
    entry ∈ (schedule.defer id action).deferred ↔ entry ∈ schedule.deferred ∨ entry = (id, action) := by
  unfold defer
  split
  · rename_i present
    exact ⟨Or.inl, fun found => found.elim (fun here => here) (fun same => same ▸ present)⟩
  · simp

theorem nodup_defer (schedule : Schedule) (id : ObjectId) (action : Deferred)
    (distinct : (schedule.deferred.map (·.1)).Nodup) :
    ((schedule.defer id action).deferred.map (·.1)).Nodup := by
  unfold defer
  split
  · exact distinct
  · rename_i absent
    rw [List.map_append, List.nodup_append]
    refine ⟨distinct, by simp, ?_⟩
    intro old present new added same
    obtain ⟨⟨owner, other⟩, queued, rfl⟩ := List.mem_map.mp present
    have added : new = id := by simpa using added
    have shared : owner = id := same.trans added
    cases action
    cases other
    exact absent (shared ▸ queued)

end VehicleSim.Schedule
