import VehicleSim.Proofs.History.Lineup
import VehicleSim.Proofs.Schedule.Settled

/-!
A schedule after any calls at all. Whom it calls and what it hands over are two lineups, and both can be read off the
calls: requests count in the order in which they were made, whenever they are applied.
-/

set_option autoImplicit false

namespace VehicleSim.Schedule

inductive Call where
  | subscribe (id : ObjectId)
  | unsubscribe (id : ObjectId)
  | applyPending
  | defer (id : ObjectId) (action : Deferred)
  | takeDeferred
  | forget (id : ObjectId)

def handle (schedule : Schedule) : Call → Schedule
  | .subscribe id => schedule.subscribe id
  | .unsubscribe id => schedule.unsubscribe id
  | .applyPending => schedule.applyPending
  | .defer id action => schedule.defer id action
  | .takeDeferred => schedule.takeDeferred.2
  | .forget id => schedule.forget id

def after (calls : List Call) : Schedule := calls.foldl handle empty

namespace Call

def subscription : Call → LineupChange ObjectId
  | .subscribe id => .enter id
  | .unsubscribe id | .forget id => .leave (· == id)
  | .applyPending | .defer _ _ | .takeDeferred => .keep

def deferral : Call → LineupChange (ObjectId × Deferred)
  | .defer id action => .enter (id, action)
  | .takeDeferred => .leave fun _ => true
  | .forget id => .leave (·.1 == id)
  | .subscribe _ | .unsubscribe _ | .applyPending => .keep

end Call

-- The last request for this id since it was last forgotten is to subscribe.
def Subscribed (calls : List Call) (id : ObjectId) : Prop :=
  ∃ before after, calls = before ++ .subscribe id :: after ∧
    ∀ later ∈ after, later ≠ .unsubscribe id ∧ later ≠ .forget id

-- Put off, and neither handed over nor forgotten since.
def Posted (calls : List Call) (entry : ObjectId × Deferred) : Prop :=
  ∃ before after, calls = before ++ .defer entry.1 entry.2 :: after ∧
    ∀ later ∈ after, later ≠ .takeDeferred ∧ later ≠ .forget entry.1

structure Forgets (id : ObjectId) (before after : Schedule) : Prop where
  preStep : id ∉ after.preStep
  postStep : id ∉ after.postStep
  pending : ∀ request ∈ after.pending, request.id ≠ id
  deferred : ∀ entry ∈ after.deferred, entry.1 ≠ id
  otherPreStep : after.preStep.filter (· != id) = before.preStep.filter (· != id)
  otherPostStep : after.postStep.filter (· != id) = before.postStep.filter (· != id)
  otherPending : after.pending.filter (·.id != id) = before.pending.filter (·.id != id)
  otherDeferred : after.deferred.filter (·.1 != id) = before.deferred.filter (·.1 != id)

theorem after_concat (calls : List Call) (call : Call) : after (calls ++ [call]) = (after calls).handle call :=
  List.foldl_append

theorem lineup_after {α : Type} [DecidableEq α] (view : Schedule → List α) (change : Call → LineupChange α)
    (start : view empty = [])
    (follows : ∀ schedule call, view (handle schedule call) = (change call).apply (view schedule))
    (calls : List Call) : view (after calls) = lineup change calls := by
  induction calls using List.reverseRecOn with
  | nil => exact start
  | append_singleton earlier call ih => rw [after_concat, follows, ih, lineup_concat]

theorem settled_handle (schedule : Schedule) (call : Call) :
    (schedule.handle call).settled = call.subscription.apply schedule.settled := by
  cases call with
  | subscribe id => exact List.foldl_append
  | unsubscribe id => exact List.foldl_append
  | applyPending => rfl
  | defer id action => exact settled_defer schedule id action
  | takeDeferred => rfl
  | forget id => exact settled_forget schedule id

theorem deferred_handle (schedule : Schedule) (call : Call) :
    (schedule.handle call).deferred = call.deferral.apply schedule.deferred := by
  cases call with
  | defer id action =>
      simp only [handle, defer, Call.deferral, LineupChange.apply]
      split <;> rfl
  | takeDeferred => simp [handle, takeDeferred, Call.deferral, LineupChange.apply]
  | _ => rfl

theorem subscribed_iff (calls : List Call) (id : ObjectId) :
    id ∈ lineup Call.subscription calls ↔ Subscribed calls id := by
  have asks (call : Call) : mentions Call.subscription id call = some true ↔ call = .subscribe id := by
    cases call <;> simp [mentions, Call.subscription, LineupChange.verdict]
  have ends (call : Call) : mentions Call.subscription id call ≠ some false ↔
      call ≠ .unsubscribe id ∧ call ≠ .forget id := by
    cases call <;> simp [mentions, Call.subscription, LineupChange.verdict, @eq_comm _ id]
  rw [mem_lineup, last_verdict_true_iff]
  simp [asks, ends, Subscribed]

theorem posted_iff (calls : List Call) (entry : ObjectId × Deferred) :
    entry ∈ lineup Call.deferral calls ↔ Posted calls entry := by
  have asks (call : Call) : mentions Call.deferral entry call = some true ↔ call = .defer entry.1 entry.2 := by
    cases call <;> simp [mentions, Call.deferral, LineupChange.verdict, Prod.ext_iff]
  have ends (call : Call) : mentions Call.deferral entry call ≠ some false ↔
      call ≠ .takeDeferred ∧ call ≠ .forget entry.1 := by
    cases call <;> simp [mentions, Call.deferral, LineupChange.verdict, @eq_comm _ entry.1]
  rw [mem_lineup, last_verdict_true_iff]
  simp [asks, ends, Posted]

structure Tidy (schedule : Schedule) : Prop where
  same : schedule.preStep = schedule.postStep
  distinct : schedule.preStep.Nodup

theorem hooks_kept (schedule : Schedule) (call : Call) (waits : call ≠ .applyPending)
    (remembers : ∀ id, call ≠ .forget id) :
    (schedule.handle call).preStep = schedule.preStep ∧ (schedule.handle call).postStep = schedule.postStep := by
  cases call with
  | defer id action =>
      obtain ⟨pre, post, _⟩ := defer_keeps_hooks schedule id action
      exact ⟨pre, post⟩
  | applyPending => exact absurd rfl waits
  | forget id => exact absurd rfl (remembers id)
  | _ => exact ⟨rfl, rfl⟩

theorem tidy_handle (schedule : Schedule) (call : Call) (tidy : schedule.Tidy) : (schedule.handle call).Tidy := by
  obtain ⟨same, distinct⟩ := tidy
  by_cases waits : call = .applyPending
  · subst waits
    exact ⟨congrArg (schedule.pending.foldl applyChange) same, nodup_foldl_apply_change schedule.pending _ distinct⟩
  · by_cases remembers : ∀ id, call ≠ .forget id
    · obtain ⟨pre, post⟩ := hooks_kept schedule call waits remembers
      refine ⟨?_, ?_⟩
      · rw [pre, post, same]
      · rwa [pre]
    · push Not at remembers
      obtain ⟨id, rfl⟩ := remembers
      exact ⟨congrArg (List.filter (· != id)) same, distinct.filter _⟩

theorem tidy_after (calls : List Call) : (after calls).Tidy := by
  induction calls using List.reverseRecOn with
  | nil => exact ⟨rfl, List.nodup_nil⟩
  | append_singleton earlier call ih =>
      rw [after_concat]
      exact tidy_handle _ call ih

theorem forgets_forget (schedule : Schedule) (id : ObjectId) : Forgets id schedule (schedule.forget id) := by
  constructor <;> simp [forget, List.filter_filter]

/-- Both lists of subscribers always hold the same ids, once each, and only applying the requests or forgetting an id
changes them. Once applied, they hold the ids whose last request since they were last forgotten is to subscribe, in the
order in which these last came in. What is handed over are the actions put off since the last time and not forgotten,
each once, in the order in which they were first put off. An id that is forgotten leaves nothing behind and moves no
other. -/
theorem schedule_follows_calls (calls : List Call) :
    let schedule := after calls
    (schedule.preStep = schedule.postStep ∧ schedule.preStep.Nodup ∧
        ∀ call, call ≠ .applyPending → (∀ id, call ≠ .forget id) →
          (schedule.handle call).preStep = schedule.preStep ∧ (schedule.handle call).postStep = schedule.postStep) ∧
      ((∀ id, schedule.applyPending.isSubscribed id = true ↔ Subscribed calls id) ∧
        (∀ id ∈ schedule.applyPending.preStep, ∃! moment, LastCame (mentions Call.subscription id) calls moment) ∧
        schedule.applyPending.preStep.Pairwise (CameEarlier Call.subscription calls)) ∧
      ((∀ entry, entry ∈ schedule.takeDeferred.1 ↔ Posted calls entry) ∧ schedule.takeDeferred.1.Nodup ∧
        (∀ entry ∈ schedule.takeDeferred.1, ∃! moment, LastCame (mentions Call.deferral entry) calls moment) ∧
        schedule.takeDeferred.1.Pairwise (CameEarlier Call.deferral calls)) ∧
      ∀ id, Forgets id schedule (schedule.forget id) := by
  intro schedule
  have tidy : schedule.Tidy := tidy_after calls
  have applied : schedule.applyPending.preStep = lineup Call.subscription calls :=
    lineup_after settled Call.subscription rfl settled_handle calls
  have handed : schedule.takeDeferred.1 = lineup Call.deferral calls :=
    lineup_after deferred Call.deferral rfl deferred_handle calls
  rw [applied, handed]
  refine ⟨⟨tidy.same, tidy.distinct, hooks_kept schedule⟩, ⟨fun id => ?_, ?_⟩, ⟨posted_iff calls, ?_⟩,
    forgets_forget schedule⟩
  · rw [isSubscribed, applied, decide_eq_true_iff]
    exact subscribed_iff calls id
  · exact ⟨dated_once Call.subscription calls, (lineup_dated Call.subscription calls).2⟩
  · exact ⟨nodup_lineup Call.deferral calls, dated_once Call.deferral calls, (lineup_dated Call.deferral calls).2⟩

example : (after [.subscribe 1, .subscribe 2, .forget 1, .subscribe 1]).applyPending.preStep = [2, 1] := by decide

end VehicleSim.Schedule
