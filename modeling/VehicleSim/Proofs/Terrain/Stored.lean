import VehicleSim.Number.Binary32
import VehicleSim.Terrain

/-!
Which samples a height is read from. The cell of a point lies within the sides of the grid whatever the point is, so
the heights of a grid that is kept are all read off stored samples.
-/

set_option autoImplicit false

namespace VehicleSim

variable {α : Type} [Scalar α]

namespace Grid

variable (grid : Grid α)

def corners (x y : α) : List (Nat × Nat) :=
  let column := (place grid.originX grid.cellSize grid.columns x).1
  let row := (place grid.originY grid.cellSize grid.rows y).1
  [(column, row), (column + 1, row), (column, row + 1), (column + 1, row + 1)]

theorem corners_inside (x y : α) (usable : grid.Usable) (corner : Nat × Nat)
    (member : corner ∈ grid.corners x y) : corner.1 < grid.columns.toNat ∧ corner.2 < grid.rows.toNat := by
  have column := place_inside grid.originX grid.cellSize x grid.columns usable.columns
  have row := place_inside grid.originY grid.cellSize y grid.rows usable.rows
  simp only [corners, List.mem_cons, List.not_mem_nil, or_false] at member
  rcases member with rfl | rfl | rfl | rfl <;> constructor <;> dsimp only <;> omega

theorem corners_stored (x y : α) (usable : grid.Usable) (corner : Nat × Nat) (member : corner ∈ grid.corners x y) :
    ∃ index, grid.index? corner.1 corner.2 = some index ∧ index < grid.heights.size := by
  obtain ⟨column, row⟩ := grid.corners_inside x y usable corner member
  exact ⟨_, grid.index_vertex corner.1 corner.2 usable.few column row,
    grid.vertex_stored corner.1 corner.2 usable.filled column row⟩

def lower (least : Option α) (height : α) : Option α :=
  if Scalar.isNaN height then least
  else
    match least with
    | some low => some (Scalar.min low height)
    | none => some height

theorem lowest_eq : grid.lowest? = grid.heights.toList.foldl lower none := (Array.foldl_toList _).symm

theorem lower_either (least : Option α) (height : α) :
    lower least height = least ∨ lower least height = some height := by
  by_cases unknown : Scalar.isNaN height = true
  · exact Or.inl (if_pos unknown)
  · unfold lower
    rw [if_neg unknown]
    cases least with
    | none => exact Or.inr rfl
    | some low =>
        by_cases skipped : Scalar.isNaN low = true
        · exact Or.inr (congrArg some (if_pos skipped))
        · by_cases less : height < low
          · exact Or.inr (congrArg some ((if_neg skipped).trans (if_pos less)))
          · exact Or.inl (congrArg some ((if_neg skipped).trans (if_neg less)))

theorem foldl_lower_either (heights : List α) (least : Option α) :
    heights.foldl lower least = least ∨ ∃ height ∈ heights, heights.foldl lower least = some height := by
  induction heights generalizing least with
  | nil => exact Or.inl rfl
  | cons height rest ih =>
      rcases ih (lower least height) with kept | ⟨lower, member, found⟩
      · rcases lower_either least height with same | new
        · exact Or.inl (kept.trans same)
        · exact Or.inr ⟨height, List.mem_cons_self, kept.trans new⟩
      · exact Or.inr ⟨lower, List.mem_cons_of_mem height member, found⟩

theorem foldl_lower_some (heights : List α) (low : α) : ∃ lowest, heights.foldl lower (some low) = some lowest := by
  induction heights generalizing low with
  | nil => exact ⟨low, rfl⟩
  | cons height rest ih =>
      rcases lower_either (some low) height with same | new
      · simpa only [List.foldl_cons, same] using ih low
      · simpa only [List.foldl_cons, new] using ih height

theorem foldl_lower_none (heights : List α) (none : heights.foldl lower Option.none = Option.none) (height : α)
    (member : height ∈ heights) : Scalar.isNaN height = true := by
  induction heights with
  | nil => cases member
  | cons first rest ih =>
      by_cases unknown : Scalar.isNaN first = true
      · have passed : lower Option.none first = Option.none := if_pos unknown
        rw [List.foldl_cons, passed] at none
        rcases List.mem_cons.mp member with rfl | later
        · exact unknown
        · exact ih none later
      · have kept : lower Option.none first = some first := if_neg unknown
        obtain ⟨lowest, found⟩ := foldl_lower_some rest first
        rw [List.foldl_cons, kept, found] at none
        cases none

theorem lowest_stored (low : α) (found : grid.lowest? = some low) : low ∈ grid.heights := by
  rw [lowest_eq] at found
  rcases foldl_lower_either grid.heights.toList none with none | ⟨height, member, lowest⟩
  · rw [none] at found
    cases found
  · rw [lowest] at found
    cases found
    exact Array.mem_toList_iff.mp member

theorem lowest_none (none : grid.lowest? = none) (height : α) (member : height ∈ grid.heights) :
    Scalar.isNaN height = true := by
  rw [lowest_eq] at none
  exact foldl_lower_none grid.heights.toList none height (Array.mem_toList_iff.mpr member)

end Grid

namespace Terrain

-- Every height is read off samples that are there, and so is the lowest, which has none to choose from if no sample is
-- a number.
structure ReadsStored (terrain : Terrain α) (grid : Grid α) : Prop where
  inBounds : ∀ x y, ∀ corner ∈ grid.corners x y,
    ∃ index, grid.index? corner.1 corner.2 = some index ∧ index < grid.heights.size
  answered : ∀ x y, grid.heightAt? x y = some (terrain.heightAt x y)
  base : terrain.baseHeight ∈ grid.heights ∨
    (∀ height ∈ grid.heights, Scalar.isNaN height = true) ∧ terrain.baseHeight = Scalar.infinity

-- What is made of a grid: the grid as it is, or flat ground.
structure MadeOf (terrain : Terrain α) (ground water : α) (grid : Grid α) : Prop where
  kept : grid.Usable → terrain.grid = some grid ∧ terrain.groundHeight = ground ∧ terrain.waterLevel = water
  flat : ¬ grid.Usable → terrain = .flat ground water
  unfilled : ¬ grid.Filled → terrain = .flat ground water
  stored : terrain.grid = some grid → terrain.ReadsStored grid

theorem of_settings_none_iff (ground water : α) (grid : Grid α) :
    ofSettings? ⟨ground, water, some grid⟩ = none ↔ UInt64.size ≤ grid.vertices := by
  rw [← grid.usable_none_iff]
  simp only [ofSettings?]
  split
  · rename_i countless
    exact iff_of_true rfl countless
  · rename_i malformed
    exact iff_of_false nofun (by rw [malformed]; nofun)
  · rename_i found
    exact iff_of_false nofun (by rw [found]; nofun)

theorem of_settings_some (settings : TerrainSettings α) (terrain : Terrain α)
    (made : ofSettings? settings = some terrain) :
    (∃ grid usable, settings.grid = some grid ∧
        terrain = .ofGrid settings.groundHeight settings.waterLevel grid usable) ∨
      (∀ grid, settings.grid = some grid → ¬ grid.Usable) ∧
        terrain = .flat settings.groundHeight settings.waterLevel := by
  unfold ofSettings? at made
  split at made
  · rename_i bare
    refine Or.inr ⟨fun grid given => ?_, (Option.some.inj made).symm⟩
    cases bare.symm.trans given
  · rename_i grid given
    split at made
    · cases made
    · rename_i malformed
      refine Or.inr ⟨fun other also usable => ?_, (Option.some.inj made).symm⟩
      obtain rfl : grid = other := Option.some.inj (given.symm.trans also)
      cases malformed.symm.trans (grid.usable_iff.mpr usable)
    · exact Or.inl ⟨grid, _, given, (Option.some.inj made).symm⟩

theorem height_kept (terrain : Terrain α) (grid : Grid α) (kept : terrain.grid = some grid) (x y : α) :
    grid.heightAt? x y = some (terrain.heightAt x y) := by
  unfold heightAt
  split
  · rename_i other found
    obtain rfl : other = grid := Option.some.inj (found.symm.trans kept)
    exact (Option.some_get _).symm
  · rename_i bare
    cases bare.symm.trans kept

theorem base_stored (terrain : Terrain α) (grid : Grid α) (kept : terrain.grid = some grid) :
    terrain.baseHeight ∈ grid.heights ∨
      (∀ height ∈ grid.heights, Scalar.isNaN height = true) ∧ terrain.baseHeight = Scalar.infinity := by
  simp only [baseHeight, kept]
  cases found : grid.lowest? with
  | none => exact Or.inr ⟨grid.lowest_none found, rfl⟩
  | some low => exact Or.inl (grid.lowest_stored low found)

theorem reads_stored (terrain : Terrain α) (grid : Grid α) (kept : terrain.grid = some grid) :
    terrain.ReadsStored grid where
  inBounds x y := grid.corners_stored x y (terrain.usable grid kept)
  answered := terrain.height_kept grid kept
  base := terrain.base_stored grid kept

theorem made_of_settings (ground water : α) (grid : Grid α) (terrain : Terrain α)
    (made : ofSettings? ⟨ground, water, some grid⟩ = some terrain) : terrain.MadeOf ground water grid := by
  rcases of_settings_some _ terrain made with ⟨_, usable, ⟨⟩, rfl⟩ | ⟨malformed, rfl⟩
  · exact ⟨fun _ => ⟨rfl, rfl, rfl⟩, fun bad => absurd usable bad, fun bad => absurd usable.filled bad,
      reads_stored _ grid⟩
  · exact ⟨fun usable => absurd usable (malformed grid rfl), fun _ => rfl, fun _ => rfl, nofun⟩

end Terrain

/-- Terrain is made of a grid of fewer than 2 ^ 64 vertices, and then it is the grid as it is, with all heights read
off stored samples, or flat, as it is where the samples are not one for each vertex. Nothing is made of a grid with more
vertices. -/
theorem heights_are_stored_iff (ground water : Float32) (grid : Grid Float32) :
    let made := Terrain.ofSettings? ⟨ground, water, some grid⟩
    ((∃ terrain, made = some terrain ∧ terrain.MadeOf ground water grid) ↔ grid.vertices < UInt64.size) ∧
      (made = none ↔ UInt64.size ≤ grid.vertices) := by
  intro made
  have failed : made = none ↔ UInt64.size ≤ grid.vertices := Terrain.of_settings_none_iff ground water grid
  refine ⟨⟨?_, fun few => ?_⟩, failed⟩
  · rintro ⟨terrain, found, -⟩
    refine Nat.lt_of_not_le fun many => ?_
    cases (failed.mpr many).symm.trans found
  · obtain ⟨terrain, found⟩ := Option.ne_none_iff_exists'.mp fun none => Nat.not_le.mpr few (failed.mp none)
    exact ⟨terrain, found, Terrain.made_of_settings ground water grid terrain found⟩

def twoColumns (rows : UInt64) : Grid Float32 where
  originX := 0
  originY := 0
  cellSize := 1
  columns := 2
  rows
  heights := #[0, 2, 4, 6]

theorem two_rows_are_stored :
    (twoColumns 2).vertices < UInt64.size ∧
      ∃ terrain, Terrain.ofSettings? ⟨5, 2, some (twoColumns 2)⟩ = some terrain ∧
        terrain.MadeOf 5 2 (twoColumns 2) := by
  have few : (twoColumns 2).vertices < UInt64.size := by decide
  exact ⟨few, (heights_are_stored_iff 5 2 (twoColumns 2)).1.mpr few⟩

-- There are 2 ^ 64 + 4 vertices, and no terrain, where four samples are too few.
theorem countless_vertices_are_refused :
    let grid := twoColumns 0x8000000000000002
    ¬ grid.Filled ∧ Terrain.ofSettings? ⟨5, 2, some grid⟩ = none := by
  intro grid
  refine ⟨by decide +kernel, ?_⟩
  exact (Terrain.of_settings_none_iff 5 2 grid).mpr (by decide +kernel)

end VehicleSim
