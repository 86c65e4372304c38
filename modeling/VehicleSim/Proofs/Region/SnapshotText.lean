import VehicleSim.Proofs.Json.Decimals
import VehicleSim.Proofs.Json.Reading
import VehicleSim.Region.Game

/-!
What the text of a snapshot says. It is JSON with the tick and with one object for each entry, and it can be read back:
two snapshots with one text agree in all that they list, coordinates that are no finite numbers apart.
-/

set_option autoImplicit false

namespace VehicleSim

open Json (Spells)

def Binary32.Shown (x : Float32) (json : Json) : Prop :=
  x.isFinite = true ∧ (∃ numeral, json = .number numeral ∧ Shows numeral (parts x)) ∨ x.isFinite = false ∧ json = .null

def Binary32.Alike (x y : Float32) : Prop := x = y ∨ x.isFinite = false ∧ y.isFinite = false

def Json.Counts (json : Json) (number : Nat) : Prop :=
  ∃ digits, json = .number ⟨false, digits, none, none⟩ ∧ Numeral.natOfDigits digits = number

namespace Binary32

theorem coordinate_shown (x : Float32) :
    ∃ json, Spells (.padded json) (SnapshotEntry.coordinate x).toList ∧ Shown x json := by
  unfold SnapshotEntry.coordinate
  cases finite : x.isFinite with
  | false =>
      rw [decimal_text_none x finite]
      exact ⟨.null, Json.spells_bare _ _ .null, Or.inr ⟨finite, rfl⟩⟩
  | true =>
      obtain ⟨text, numeral, written, spells, shows⟩ := decimal_text_shows x finite
      rw [written]
      exact ⟨.number numeral, Json.spells_bare _ _ (.number numeral _ spells), Or.inl ⟨finite, numeral, rfl, shows⟩⟩

theorem shown_alike (x y : Float32) (json : Json) (shown : Shown x json) (again : Shown y json) : Alike x y := by
  rcases shown with ⟨-, numeral, rfl, shows⟩ | ⟨infinite, rfl⟩ <;>
    rcases again with ⟨-, other, same, also⟩ | ⟨alsoInfinite, same⟩
  · cases same
    exact Or.inl (shows_unique _ x y shows also)
  · cases same
  · cases same
  · exact Or.inr ⟨infinite, alsoInfinite⟩

end Binary32

namespace Json

theorem count_spelled (number : Nat) :
    ∃ json, Spells (.padded json) (toString number).toList ∧ json.Counts number := by
  obtain ⟨digits, spells, value⟩ := whole_spells number
  have token := SpellsNumber.parts Bool.false digits none none _ [] [] spells .none .none
  rw [if_neg Bool.false_ne_true, List.append_nil, List.append_nil] at token
  exact ⟨.number _, spells_bare _ _ (.number _ _ token), digits, rfl, value⟩

theorem counts_unique (json : Json) (first second : Nat) (counts : json.Counts first) (again : json.Counts second) :
    first = second := by
  obtain ⟨digits, rfl, rfl⟩ := counts
  obtain ⟨others, same, rfl⟩ := again
  cases same
  rfl

theorem quoted_spelled (text : String) : Spells (.padded (.text (some text))) (quote text).toList :=
  spells_bare _ _ (.text _ _ (quote_spells text))

end Json

namespace SnapshotEntry

structure Alike (entry other : SnapshotEntry) : Prop where
  name : entry.name = other.name
  id : entry.id = other.id
  kind : entry.kind = other.kind
  x : Binary32.Alike entry.position.x other.position.x
  y : Binary32.Alike entry.position.y other.position.y
  z : Binary32.Alike entry.position.z other.position.z

def Shown (entry : SnapshotEntry) (json : Json) : Prop :=
  ∃ id x y z, id.Counts entry.id ∧ Binary32.Shown entry.position.x x ∧ Binary32.Shown entry.position.y y ∧
    Binary32.Shown entry.position.z z ∧ json = .object
      [(some "id", .text (some entry.name)), (some "local_id", id), (some "vehicle", .text (some entry.kind.name)),
        (some "x", x), (some "y", y), (some "z", z)]

theorem text_shown (entry : SnapshotEntry) :
    ∃ json, Spells (.padded json) entry.text.toList ∧ entry.Shown json := by
  obtain ⟨id, ids, counts⟩ := Json.count_spelled entry.id
  obtain ⟨x, xs, shownX⟩ := Binary32.coordinate_shown entry.position.x
  obtain ⟨y, ys, shownY⟩ := Binary32.coordinate_shown entry.position.y
  obtain ⟨z, zs, shownZ⟩ := Binary32.coordinate_shown entry.position.z
  refine ⟨_, ?_, id, x, y, z, counts, shownX, shownY, shownZ, rfl⟩
  have name := Json.plain_member ['i', 'd'] rfl _ _ (Json.quoted_spelled entry.name)
  have number := Json.plain_member ['l', 'o', 'c', 'a', 'l', '_', 'i', 'd'] rfl _ _ ids
  have vehicle := Json.plain_member ['v', 'e', 'h', 'i', 'c', 'l', 'e'] rfl _ _ (Json.quoted_spelled entry.kind.name)
  have first := Json.plain_member ['x'] rfl _ _ xs
  have second := Json.plain_member ['y'] rfl _ _ ys
  have third := Json.plain_member ['z'] rfl _ _ zs
  have object := Json.spells_bare _ _ (.object _ _ (.nextMember _ _ _ _ _ name (.nextMember _ _ _ _ _ number
    (.nextMember _ _ _ _ _ vehicle (.nextMember _ _ _ _ _ first (.nextMember _ _ _ _ _ second
      (.lastMember _ _ _ third)))))))
  unfold text
  simp only [String.toList_append, String.reduceToList, List.append_assoc, List.cons_append, List.nil_append] at object ⊢
  exact object

theorem shown_alike (entry other : SnapshotEntry) (json : Json) (shown : entry.Shown json) (again : other.Shown json) :
    entry.Alike other := by
  obtain ⟨id, x, y, z, counts, shownX, shownY, shownZ, rfl⟩ := shown
  obtain ⟨otherId, otherX, otherY, otherZ, otherCounts, alsoX, alsoY, alsoZ, same⟩ := again
  simp only [Json.object.injEq, List.cons.injEq, Prod.mk.injEq, Json.text.injEq, Option.some.injEq, true_and,
    and_true] at same
  obtain ⟨name, rfl, kind, rfl, rfl, rfl⟩ := same
  have kinds := congrArg Kind.ofName? kind
  rw [Kind.of_name_name, Kind.of_name_name, Option.some.injEq] at kinds
  exact ⟨name, Json.counts_unique id _ _ counts otherCounts, kinds, Binary32.shown_alike _ _ x shownX alsoX,
    Binary32.shown_alike _ _ y shownY alsoY, Binary32.shown_alike _ _ z shownZ alsoZ⟩

theorem items_shown (entry : SnapshotEntry) (rest : List SnapshotEntry) :
    ∃ items, Spells (.items items) (",".toList.intercalate (((entry :: rest).map text).map String.toList)) ∧
      List.Forall₂ Shown (entry :: rest) items := by
  obtain ⟨json, spells, shown⟩ := entry.text_shown
  induction rest generalizing entry json with
  | nil =>
      refine ⟨[json], ?_, .cons shown .nil⟩
      rw [List.map_cons, List.map_nil, List.map_cons, List.map_nil, List.intercalate_singleton]
      exact .lastItem json _ spells
  | cons next rest ih =>
      obtain ⟨second, others, also⟩ := next.text_shown
      obtain ⟨items, more, shownRest⟩ := ih next second others also
      refine ⟨json :: items, ?_, .cons shown shownRest⟩
      rw [List.map_cons, List.map_cons, List.map_cons, List.map_cons, List.intercalate_cons_cons, List.append_assoc]
      exact .nextItem json items _ _ spells more

theorem texts_shown (entries : List SnapshotEntry) :
    ∃ items, Spells (.padded (.array items)) ('[' :: ((",".intercalate (entries.map text)).toList ++ [']'])) ∧
      List.Forall₂ Shown entries items := by
  rw [String.toList_intercalate]
  cases entries with
  | nil => exact ⟨[], Json.spells_bare _ _ (.emptyArray [] Json.blank_nil), .nil⟩
  | cons entry rest =>
      obtain ⟨items, inside, shown⟩ := items_shown entry rest
      exact ⟨items, Json.spells_bare _ _ (.array items _ inside), shown⟩

theorem shown_all_alike (entries others : List SnapshotEntry) (items : List Json)
    (shown : List.Forall₂ Shown entries items) (again : List.Forall₂ Shown others items) :
    List.Forall₂ Alike entries others := by
  induction shown generalizing others with
  | nil =>
      cases again
      exact .nil
  | cons first rest ih =>
      cases again with
      | cons also more => exact .cons (shown_alike _ _ _ first also) (ih _ more)

end SnapshotEntry

namespace Snapshot

def Shown (snapshot : Snapshot) (json : Json) : Prop :=
  ∃ tick items, tick.Counts snapshot.tick ∧ List.Forall₂ SnapshotEntry.Shown snapshot.entries items ∧
    json = .object [(some "type", .text (some "snapshot")), (some "tick", tick), (some "objects", .array items)]

/-- The text of a snapshot is JSON, with what the snapshot lists and nothing else. -/
theorem text_shown (snapshot : Snapshot) : ∃ json, Json.Text json snapshot.text ∧ snapshot.Shown json := by
  obtain ⟨tick, ticks, counts⟩ := Json.count_spelled snapshot.tick
  obtain ⟨items, spells, shown⟩ := SnapshotEntry.texts_shown snapshot.entries
  refine ⟨_, ?_, tick, items, counts, shown, rfl⟩
  have type := Json.plain_member ['t', 'y', 'p', 'e'] rfl _ _
    (Json.plain_value ['s', 'n', 'a', 'p', 's', 'h', 'o', 't'] rfl)
  have time := Json.plain_member ['t', 'i', 'c', 'k'] rfl _ _ ticks
  have objects := Json.plain_member ['o', 'b', 'j', 'e', 'c', 't', 's'] rfl _ _ spells
  have object := Json.spells_bare _ _ (.object _ _ (.nextMember _ _ _ _ _ type (.nextMember _ _ _ _ _ time
    (.lastMember _ _ _ objects))))
  unfold Json.Text text
  simp only [String.toList_append, String.reduceToList, List.append_assoc, List.cons_append, List.nil_append] at object ⊢
  exact object

theorem shown_alike (snapshot other : Snapshot) (json : Json) (shown : snapshot.Shown json) (again : other.Shown json) :
    snapshot.tick = other.tick ∧ List.Forall₂ SnapshotEntry.Alike snapshot.entries other.entries := by
  obtain ⟨tick, items, counts, shown, rfl⟩ := shown
  obtain ⟨otherTick, others, otherCounts, alsoShown, same⟩ := again
  simp only [Json.object.injEq, List.cons.injEq, Prod.mk.injEq, Json.array.injEq, true_and, and_true] at same
  obtain ⟨rfl, rfl⟩ := same
  exact ⟨Json.counts_unique tick _ _ counts otherCounts, SnapshotEntry.shown_all_alike _ _ items shown alsoShown⟩

end Snapshot

end VehicleSim
