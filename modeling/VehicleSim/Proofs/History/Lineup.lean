import Mathlib.Data.List.Induction
import Mathlib.Data.List.Nodup

/-!
What a history says last. Of something that goes by the last event that mentions it, and of a lineup that takes
newcomers in at its end, everything can be read off the history: what holds, who stands in the lineup, and in which
order.
-/

set_option autoImplicit false

namespace VehicleSim

section

variable {Event : Type} (verdict : Event → Option Bool) (history : List Event)

-- Of the events that say anything at all, the last one says this.
def LastVerdict (answer : Bool) : Prop :=
  ∃ before event after, history = before ++ event :: after ∧ verdict event = some answer ∧
    ∀ later ∈ after, verdict later = none

-- The event at this moment brought in what was out, and no event since has taken it out.
def LastCame (moment : Nat) : Prop :=
  ∃ before event after, history = before ++ event :: after ∧ before.length = moment ∧
    ¬ LastVerdict verdict before true ∧ verdict event = some true ∧ ∀ later ∈ after, verdict later ≠ some false

theorem last_verdict_concat (event : Event) (answer : Bool) :
    LastVerdict verdict (history ++ [event]) answer ↔
      verdict event = some answer ∨ verdict event = none ∧ LastVerdict verdict history answer := by
  constructor
  · rintro ⟨before, last, after, split, answered, quiet⟩
    cases after using List.reverseRecOn with
    | nil =>
        obtain ⟨_, same⟩ := List.append_inj' split rfl
        rw [List.singleton_inj.mp same]
        exact Or.inl answered
    | append_singleton between final =>
        rw [List.forall_mem_append, List.forall_mem_singleton] at quiet
        rw [← List.cons_append, ← List.append_assoc] at split
        obtain ⟨rest, same⟩ := List.append_inj' split rfl
        rw [List.singleton_inj.mp same]
        exact Or.inr ⟨quiet.2, before, last, between, rest, answered, quiet.1⟩
  · rintro (answered | ⟨silent, before, last, after, rfl, answered, quiet⟩)
    · exact ⟨history, event, [], rfl, answered, by simp⟩
    · refine ⟨before, last, after ++ [event], by simp, answered, ?_⟩
      rw [List.forall_mem_append, List.forall_mem_singleton]
      exact ⟨quiet, silent⟩

theorem last_verdict_of_unopposed (before after : List Event) (event : Event) (said : verdict event = some true)
    (unopposed : ∀ later ∈ after, verdict later ≠ some false) :
    LastVerdict verdict (before ++ event :: after) true := by
  induction after using List.reverseRecOn with
  | nil => exact ⟨before, event, [], rfl, said, by simp⟩
  | append_singleton between last ih =>
      rw [List.forall_mem_append, List.forall_mem_singleton] at unopposed
      rw [← List.cons_append, ← List.append_assoc, last_verdict_concat]
      cases answer : verdict last with
      | none => exact Or.inr ⟨rfl, ih unopposed.1⟩
      | some up =>
          cases up with
          | false => exact absurd answer unopposed.2
          | true => exact Or.inl rfl

theorem last_verdict_true_iff :
    LastVerdict verdict history true ↔ ∃ before event after, history = before ++ event :: after ∧
      verdict event = some true ∧ ∀ later ∈ after, verdict later ≠ some false := by
  constructor
  · rintro ⟨before, event, after, split, said, quiet⟩
    exact ⟨before, event, after, split, said, fun later member => by simp [quiet later member]⟩
  · rintro ⟨before, event, after, rfl, said, unopposed⟩
    exact last_verdict_of_unopposed verdict before after event said unopposed

theorem last_verdict_iff (holds : List Event → Bool) (unset : holds [] = false)
    (follows : ∀ history event, holds (history ++ [event]) = (verdict event).getD (holds history)) :
    holds history = true ↔ LastVerdict verdict history true := by
  induction history using List.reverseRecOn with
  | nil => simp [LastVerdict, unset]
  | append_singleton earlier event ih =>
      rw [follows, last_verdict_concat]
      cases verdict event with
      | none => simpa using ih
      | some answer => simp

theorem last_came_stays (event : Event) (moment : Nat) (came : LastCame verdict history moment)
    (kept : verdict event ≠ some false) : LastCame verdict (history ++ [event]) moment := by
  obtain ⟨before, first, after, rfl, length, out, enters, stays⟩ := came
  refine ⟨before, first, after ++ [event], by simp, length, out, enters, ?_⟩
  rw [List.forall_mem_append, List.forall_mem_singleton]
  exact ⟨stays, kept⟩

theorem last_came_now (event : Event) (out : ¬ LastVerdict verdict history true) (enters : verdict event = some true) :
    LastCame verdict (history ++ [event]) history.length :=
  ⟨history, event, [], rfl, rfl, out, enters, by simp⟩

theorem last_came_within (moment : Nat) (came : LastCame verdict history moment) : moment < history.length := by
  obtain ⟨before, first, after, rfl, rfl, _⟩ := came
  simp

theorem last_came_not_before (first second : Nat) (one : LastCame verdict history first)
    (other : LastCame verdict history second) : ¬ first < second := by
  intro less
  obtain ⟨before, event, after, rfl, rfl, _, enters, stays⟩ := one
  obtain ⟨later, again, rest, split, rfl, out, _⟩ := other
  rcases List.append_eq_append_iff.mp split with ⟨between, rfl, same⟩ | ⟨between, rfl, _⟩
  · cases between with
    | nil => simp at less
    | cons _ between =>
        obtain ⟨rfl, rfl⟩ := List.cons.inj same
        have unopposed : ∀ later ∈ between, verdict later ≠ some false := fun later member =>
          stays later (List.mem_append_left _ member)
        exact out (last_verdict_of_unopposed verdict before between event enters unopposed)
  · rw [List.length_append] at less
    omega

theorem last_came_unique (first second : Nat) (one : LastCame verdict history first)
    (other : LastCame verdict history second) : first = second :=
  Nat.le_antisymm (Nat.not_lt.mp (last_came_not_before verdict history second first other one))
    (Nat.not_lt.mp (last_came_not_before verdict history first second one other))

end

inductive LineupChange (α : Type) where
  | enter (entry : α)
  | leave (gone : α → Bool)
  | keep

namespace LineupChange

variable {α : Type} [DecidableEq α]

def apply (entries : List α) : LineupChange α → List α
  | .enter entry => if entry ∈ entries then entries else entries ++ [entry]
  | .leave gone => entries.filter (!gone ·)
  | .keep => entries

def verdict (entry : α) : LineupChange α → Option Bool
  | .enter other => if other = entry then some true else none
  | .leave gone => if gone entry then some false else none
  | .keep => none

theorem mem_apply (change : LineupChange α) (entries : List α) (entry : α) :
    decide (entry ∈ change.apply entries) = (change.verdict entry).getD (decide (entry ∈ entries)) := by
  cases change with
  | enter other =>
      by_cases same : other = entry
      · subst same
        by_cases known : other ∈ entries <;> simp [apply, verdict, known]
      · by_cases known : other ∈ entries <;> simp [apply, verdict, known, same, Ne.symm same]
  | leave gone => by_cases out : gone entry = true <;> simp [apply, verdict, out]
  | keep => rfl

theorem apply_cases (change : LineupChange α) (entries : List α) :
    (change.apply entries).Sublist entries ∨
      ∃ entry, entry ∉ entries ∧ change.verdict entry = some true ∧ change.apply entries = entries ++ [entry] := by
  cases change with
  | enter entry =>
      by_cases known : entry ∈ entries
      · rw [apply, if_pos known]
        exact Or.inl (List.Sublist.refl entries)
      · exact Or.inr ⟨entry, known, if_pos rfl, if_neg known⟩
  | leave gone => exact Or.inl List.filter_sublist
  | keep => exact Or.inl (List.Sublist.refl entries)

end LineupChange

section

variable {Event α : Type} [DecidableEq α] (change : Event → LineupChange α) (history : List Event)

def lineup : List α := history.foldl (fun entries event => (change event).apply entries) []

def mentions (entry : α) (event : Event) : Option Bool := (change event).verdict entry

def CameEarlier (first second : α) : Prop :=
  ∃ early late, LastCame (mentions change first) history early ∧ LastCame (mentions change second) history late ∧
    early < late

theorem lineup_concat (event : Event) :
    lineup change (history ++ [event]) = (change event).apply (lineup change history) :=
  List.foldl_append

theorem mem_lineup (entry : α) : entry ∈ lineup change history ↔ LastVerdict (mentions change entry) history true := by
  have follows : decide (entry ∈ lineup change history) = true ↔ LastVerdict (mentions change entry) history true := by
    apply last_verdict_iff (mentions change entry) history fun history => decide (entry ∈ lineup change history)
    · rfl
    · intro earlier event
      rw [lineup_concat, LineupChange.mem_apply]
      rfl
  rwa [decide_eq_true_iff] at follows

theorem nodup_lineup : (lineup change history).Nodup := by
  induction history using List.reverseRecOn with
  | nil => exact List.nodup_nil
  | append_singleton earlier event ih =>
      rw [lineup_concat]
      rcases (change event).apply_cases (lineup change earlier) with fewer | ⟨entry, missing, _, grown⟩
      · exact ih.sublist fewer
      · rw [grown, ← List.concat_eq_append]
        exact ih.concat missing

theorem standing_stays (event : Event) (entry : α) (moment : Nat)
    (came : LastCame (mentions change entry) history moment) (standing : entry ∈ lineup change (history ++ [event])) :
    LastCame (mentions change entry) (history ++ [event]) moment := by
  apply last_came_stays _ _ _ _ came
  intro sent
  rw [mem_lineup, last_verdict_concat, sent] at standing
  simp at standing

theorem came_earlier_stays (event : Event) (first second : α) (earlier : CameEarlier change history first second)
    (one : first ∈ lineup change (history ++ [event])) (other : second ∈ lineup change (history ++ [event])) :
    CameEarlier change (history ++ [event]) first second := by
  obtain ⟨early, late, came, cameLater, before⟩ := earlier
  exact ⟨early, late, standing_stays change history event first early came one,
    standing_stays change history event second late cameLater other, before⟩

theorem newcomer_dated (event : Event) (entry : α) (missing : entry ∉ lineup change history)
    (enters : mentions change entry event = some true) :
    LastCame (mentions change entry) (history ++ [event]) history.length :=
  last_came_now _ history event (fun known => missing ((mem_lineup change history entry).mpr known)) enters

theorem lineup_dated :
    (∀ entry ∈ lineup change history, ∃ moment, LastCame (mentions change entry) history moment) ∧
      (lineup change history).Pairwise (CameEarlier change history) := by
  induction history using List.reverseRecOn with
  | nil => exact ⟨fun _ member => absurd member List.not_mem_nil, List.Pairwise.nil⟩
  | append_singleton earlier event ih =>
      obtain ⟨dated, ordered⟩ := ih
      rcases (change event).apply_cases (lineup change earlier) with fewer | ⟨newcomer, missing, enters, grown⟩
      · rw [← lineup_concat] at fewer
        constructor
        · intro entry member
          obtain ⟨moment, came⟩ := dated entry (fewer.subset member)
          exact ⟨moment, standing_stays change earlier event entry moment came member⟩
        · refine (ordered.sublist fewer).imp_of_mem ?_
          intro first second one other before
          exact came_earlier_stays change earlier event first second before one other
      · rw [← lineup_concat] at grown
        have now := newcomer_dated change earlier event newcomer missing enters
        have stands : ∀ entry ∈ lineup change earlier, entry ∈ lineup change (earlier ++ [event]) := by
          intro entry member
          rw [grown]
          exact List.mem_append_left _ member
        constructor
        · intro entry member
          rw [grown] at member
          rcases List.mem_append.mp member with here | new
          · obtain ⟨moment, came⟩ := dated entry here
            exact ⟨moment, standing_stays change earlier event entry moment came (stands entry here)⟩
          · rw [List.mem_singleton.mp new]
            exact ⟨earlier.length, now⟩
        · have before : (lineup change earlier).Pairwise (CameEarlier change (earlier ++ [event])) := by
            refine ordered.imp_of_mem ?_
            intro first second one other before
            exact came_earlier_stays change earlier event first second before (stands first one) (stands second other)
          rw [grown, List.pairwise_append]
          refine ⟨before, List.pairwise_singleton _ _, ?_⟩
          intro entry member last newest
          rw [List.mem_singleton.mp newest]
          obtain ⟨moment, came⟩ := dated entry member
          have stays := standing_stays change earlier event entry moment came (stands entry member)
          exact ⟨moment, earlier.length, stays, now, last_came_within _ _ _ came⟩

theorem dated_once (entry : α) (member : entry ∈ lineup change history) :
    ∃! moment, LastCame (mentions change entry) history moment := by
  obtain ⟨moment, came⟩ := (lineup_dated change history).1 entry member
  exact ⟨moment, came, fun other again => last_came_unique _ history other moment again came⟩

end

end VehicleSim
