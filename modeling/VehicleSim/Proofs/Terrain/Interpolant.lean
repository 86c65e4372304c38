import VehicleSim.Proofs.Terrain.Surface

/-!
Heights as points of space see them, in exact arithmetic. A filled grid is a surface through its samples: each cell is
the bilinear mean of its corners, cells agree on their edges, a point outside takes the height of the nearest point of
the grid, and no point lies below the lowest sample.
-/

set_option autoImplicit false

namespace VehicleSim

namespace Side

variable (origin cellSize : ℝ) (count : UInt64)

noncomputable def mark (vertex : ℕ) : ℝ := origin + vertex * cellSize

def Spans (coordinate : ℝ) : Prop :=
  mark origin cellSize 0 ≤ coordinate ∧ coordinate ≤ mark origin cellSize (count.toNat - 1)

noncomputable def nearest (coordinate : ℝ) : ℝ := origin + Grid.held origin cellSize count coordinate * cellSize

variable {origin cellSize}

theorem place_mark (positive : 0 < cellSize) (vertex : ℕ) :
    (mark origin cellSize vertex - origin) / cellSize = vertex := by
  rw [mark, add_sub_cancel_left, mul_div_cancel_right₀ _ positive.ne']

theorem mark_le_iff (positive : 0 < cellSize) (vertex : ℕ) (coordinate : ℝ) :
    mark origin cellSize vertex ≤ coordinate ↔ (vertex : ℝ) ≤ (coordinate - origin) / cellSize := by
  rw [mark, le_div_iff₀ positive, le_sub_iff_add_le, add_comm]

theorem le_mark_iff (positive : 0 < cellSize) (vertex : ℕ) (coordinate : ℝ) :
    coordinate ≤ mark origin cellSize vertex ↔ (coordinate - origin) / cellSize ≤ vertex := by
  rw [mark, div_le_iff₀ positive, sub_le_iff_le_add, add_comm]

theorem held_spanned (positive : 0 < cellSize) (coordinate : ℝ) (spanned : Spans origin cellSize count coordinate) :
    Grid.held origin cellSize count coordinate = (coordinate - origin) / cellSize := by
  obtain ⟨low, high⟩ := spanned
  rw [mark_le_iff positive, Nat.cast_zero] at low
  rw [le_mark_iff positive] at high
  rw [Grid.held, min_eq_left high, max_eq_right low]

theorem held_mark (positive : 0 < cellSize) (vertex : ℕ) (inside : vertex < count.toNat) :
    Grid.held origin cellSize count (mark origin cellSize vertex) = vertex := by
  have last : (vertex : ℝ) ≤ ((count.toNat - 1 : ℕ) : ℝ) := by exact_mod_cast (by omega : vertex ≤ count.toNat - 1)
  have spanned : Spans origin cellSize count (mark origin cellSize vertex) := by
    rw [Spans, mark_le_iff positive, le_mark_iff positive, place_mark positive, Nat.cast_zero]
    exact ⟨Nat.cast_nonneg vertex, last⟩
  rw [held_spanned count positive _ spanned, place_mark positive]

theorem place_nearest (positive : 0 < cellSize) (coordinate : ℝ) :
    (nearest origin cellSize count coordinate - origin) / cellSize = Grid.held origin cellSize count coordinate := by
  rw [nearest, add_sub_cancel_left, mul_div_cancel_right₀ _ positive.ne']

theorem nearest_spanned (positive : 0 < cellSize) (coordinate : ℝ) :
    Spans origin cellSize count (nearest origin cellSize count coordinate) := by
  obtain ⟨low, high⟩ := Grid.held_bounds origin cellSize count coordinate
  rw [Spans, mark_le_iff positive, le_mark_iff positive, place_nearest count positive, Nat.cast_zero]
  exact ⟨low, high⟩

theorem held_nearest (positive : 0 < cellSize) (coordinate : ℝ) :
    Grid.held origin cellSize count (nearest origin cellSize count coordinate) =
      Grid.held origin cellSize count coordinate := by
  rw [held_spanned count positive _ (nearest_spanned count positive coordinate), place_nearest count positive]

theorem nearest_cases (positive : 0 < cellSize) (coordinate : ℝ) :
    (coordinate ≤ mark origin cellSize 0 ∧ nearest origin cellSize count coordinate = mark origin cellSize 0) ∨
      (mark origin cellSize (count.toNat - 1) ≤ coordinate ∧
        nearest origin cellSize count coordinate = mark origin cellSize (count.toNat - 1)) ∨
      nearest origin cellSize count coordinate = coordinate := by
  by_cases low : mark origin cellSize 0 ≤ coordinate
  · by_cases high : coordinate ≤ mark origin cellSize (count.toNat - 1)
    · refine Or.inr (Or.inr ?_)
      rw [nearest, held_spanned count positive coordinate ⟨low, high⟩, div_mul_cancel₀ _ positive.ne',
        add_sub_cancel]
    · have past := (mark_le_iff positive _ _).mp (not_le.mp high).le
      refine Or.inr (Or.inl ⟨(not_le.mp high).le, ?_⟩)
      rw [nearest, Grid.held, min_eq_right past, max_eq_right (Nat.cast_nonneg _), mark]
  · have before := (le_mark_iff positive _ _).mp (not_le.mp low).le
    rw [Nat.cast_zero] at before
    refine Or.inl ⟨(not_le.mp low).le, ?_⟩
    rw [nearest, Grid.held, max_eq_left ((min_le_left _ _).trans before), mark, Nat.cast_zero]

theorem nearest_unique (positive : 0 < cellSize) (coordinate other : ℝ) (spanned : Spans origin cellSize count other) :
    |coordinate - nearest origin cellSize count coordinate| ≤ |coordinate - other| ∧
      (|coordinate - other| ≤ |coordinate - nearest origin cellSize count coordinate| →
        other = nearest origin cellSize count coordinate) := by
  obtain ⟨low, high⟩ := spanned
  rcases nearest_cases count positive coordinate with ⟨below, first⟩ | ⟨above, last⟩ | inside
  · rw [first, abs_of_nonpos (by linarith), abs_of_nonpos (by linarith)]
    exact ⟨by linarith, fun _ => by linarith⟩
  · rw [last, abs_of_nonneg (by linarith), abs_of_nonneg (by linarith)]
    exact ⟨by linarith, fun _ => by linarith⟩
  · rw [inside, sub_self, abs_zero]
    refine ⟨abs_nonneg _, fun close => ?_⟩
    exact (sub_eq_zero.mp (abs_nonpos_iff.mp close)).symm

theorem held_in_cell (positive : 0 < cellSize) (cell : ℕ) (coordinate : ℝ) (inside : cell + 1 < count.toNat)
    (low : mark origin cellSize cell ≤ coordinate) (high : coordinate ≤ mark origin cellSize (cell + 1)) :
    Grid.held origin cellSize count coordinate = (coordinate - origin) / cellSize ∧
      Neighbours.Between cell (Grid.held origin cellSize count coordinate) := by
  rw [mark_le_iff positive] at low
  rw [le_mark_iff positive] at high
  have first : (0 : ℝ) ≤ cell := Nat.cast_nonneg cell
  have last : ((cell + 1 : ℕ) : ℝ) ≤ ((count.toNat - 1 : ℕ) : ℝ) := by
    exact_mod_cast (by omega : cell + 1 ≤ count.toNat - 1)
  have spanned : Spans origin cellSize count coordinate := by
    rw [Spans, mark_le_iff positive, le_mark_iff positive, Nat.cast_zero]
    exact ⟨first.trans low, high.trans last⟩
  rw [held_spanned count positive coordinate spanned]
  rw [Nat.cast_add, Nat.cast_one] at high
  exact ⟨rfl, low, high⟩

theorem nearest_in_cell (positive : 0 < cellSize) (cell : ℕ) (coordinate : ℝ)
    (between : Neighbours.Between cell (Grid.held origin cellSize count coordinate)) :
    mark origin cellSize cell ≤ nearest origin cellSize count coordinate ∧
      nearest origin cellSize count coordinate ≤ mark origin cellSize (cell + 1) := by
  rw [mark_le_iff positive, le_mark_iff positive, place_nearest count positive, Nat.cast_add, Nat.cast_one]
  exact between

end Side

namespace Grid

variable (grid : Grid ℝ)

noncomputable def markX (column : ℕ) : ℝ := Side.mark grid.originX grid.cellSize column

noncomputable def markY (row : ℕ) : ℝ := Side.mark grid.originY grid.cellSize row

def Spans (x y : ℝ) : Prop :=
  Side.Spans grid.originX grid.cellSize grid.columns x ∧ Side.Spans grid.originY grid.cellSize grid.rows y

-- Of the points that the grid spans, none is nearer to (x, y) than (a, b).
def Nearest (x y a b : ℝ) : Prop :=
  grid.Spans a b ∧
    ∀ c d, grid.Spans c d → (x - a) * (x - a) + (y - b) * (y - b) ≤ (x - c) * (x - c) + (y - d) * (y - d)

structure InCell (column row : ℕ) (x y : ℝ) : Prop where
  inColumns : column + 1 < grid.columns.toNat
  inRows : row + 1 < grid.rows.toNat
  inColumn : grid.markX column ≤ x ∧ x ≤ grid.markX (column + 1)
  inRow : grid.markY row ≤ y ∧ y ≤ grid.markY (row + 1)

theorem nearest_iff (positive : 0 < grid.cellSize) (x y a b : ℝ) :
    grid.Nearest x y a b ↔
      a = Side.nearest grid.originX grid.cellSize grid.columns x ∧
        b = Side.nearest grid.originY grid.cellSize grid.rows y := by
  have spannedX : Side.Spans grid.originX grid.cellSize grid.columns _ := Side.nearest_spanned grid.columns positive x
  have spannedY : Side.Spans grid.originY grid.cellSize grid.rows _ := Side.nearest_spanned grid.rows positive y
  constructor
  · rintro ⟨⟨inX, inY⟩, nearer⟩
    have closeX := nearer _ b ⟨spannedX, inY⟩
    have closeY := nearer a _ ⟨inX, spannedY⟩
    exact ⟨(Side.nearest_unique grid.columns positive x a inX).2 (abs_le_iff_mul_self_le.mpr (by linarith)),
      (Side.nearest_unique grid.rows positive y b inY).2 (abs_le_iff_mul_self_le.mpr (by linarith))⟩
  · rintro ⟨rfl, rfl⟩
    refine ⟨⟨spannedX, spannedY⟩, ?_⟩
    rintro c d ⟨inX, inY⟩
    exact add_le_add (abs_le_iff_mul_self_le.mp (Side.nearest_unique grid.columns positive x c inX).1)
      (abs_le_iff_mul_self_le.mp (Side.nearest_unique grid.rows positive y d inY).1)

theorem Usable.positive {grid : Grid ℝ} (usable : grid.Usable) : 0 < grid.cellSize := not_le.mp usable.cellSize

theorem nearest_covered (usable : grid.Usable) (x y : ℝ) :
    ∃ a b column row, grid.Nearest x y a b ∧ grid.InCell column row a b := by
  have positive := usable.positive
  obtain ⟨column, inColumns, inColumn, -⟩ := place_eq grid.originX grid.cellSize grid.columns x usable.columns
  obtain ⟨row, inRows, inRow, -⟩ := place_eq grid.originY grid.cellSize grid.rows y usable.rows
  exact ⟨_, _, column, row, (grid.nearest_iff positive x y _ _).mpr ⟨rfl, rfl⟩, inColumns, inRows,
    Side.nearest_in_cell grid.columns positive column x inColumn, Side.nearest_in_cell grid.rows positive row y inRow⟩

theorem lower_exact (least : Option ℝ) (height : ℝ) :
    lower least height = some (least.elim height fun low => min low height) := by
  cases least with
  | none => rfl
  | some low => exact congrArg some (Exact.min_eq low height)

theorem foldl_lower_le (heights : List ℝ) (least : Option ℝ) (lowest : ℝ)
    (found : heights.foldl lower least = some lowest) :
    (∀ low ∈ least, lowest ≤ low) ∧ ∀ height ∈ heights, lowest ≤ height := by
  induction heights generalizing least with
  | nil =>
      rw [List.foldl_nil] at found
      subst found
      exact ⟨fun low same => (Option.some.inj same).le, nofun⟩
  | cons height rest ih =>
      rw [List.foldl_cons, lower_exact] at found
      obtain ⟨lowered, later⟩ := ih _ found
      have bound := lowered _ rfl
      cases least with
      | none => exact ⟨nofun, List.forall_mem_cons.mpr ⟨bound, later⟩⟩
      | some low =>
          refine ⟨?_, List.forall_mem_cons.mpr ⟨bound.trans (min_le_right low height), later⟩⟩
          rintro _ ⟨⟩
          exact bound.trans (min_le_left low height)

theorem lowest_le (lowest height : ℝ) (found : grid.lowest? = some lowest) (member : height ∈ grid.heights) :
    lowest ≤ height := by
  rw [lowest_eq] at found
  exact (foldl_lower_le grid.heights.toList none lowest found).2 height (Array.mem_toList_iff.mpr member)

end Grid

namespace Terrain

-- The heights of the terrain are the bilinear interpolant of the samples of `grid`.
structure Interpolates (terrain : Terrain ℝ) (grid : Grid ℝ) : Prop where
  answered : ∀ x y, grid.heightAt? x y = some (terrain.heightAt x y)
  vertex : ∀ column row, column < grid.columns.toNat → row < grid.rows.toNat →
    grid.heights[row * grid.columns.toNat + column]? = some (terrain.heightAt (grid.markX column) (grid.markY row))
  cell : ∀ column row x y, grid.InCell column row x y →
    terrain.heightAt x y =
      Grid.blend (grid.stored column row) (grid.stored (column + 1) row) (grid.stored column (row + 1))
        (grid.stored (column + 1) (row + 1)) ((x - grid.originX) / grid.cellSize - column)
        ((y - grid.originY) / grid.cellSize - row)
  within : ∀ column row x y, grid.InCell column row x y →
    terrain.heightAt x y ∈ Set.Icc (grid.leastCorner column row) (grid.greatestCorner column row)
  outside : ∀ x y, (∃ a b column row, grid.Nearest x y a b ∧ grid.InCell column row a b) ∧
    ∀ a b, grid.Nearest x y a b → terrain.heightAt x y = terrain.heightAt a b
  base : ∀ x y, terrain.baseHeight ≤ terrain.heightAt x y

theorem base_le (terrain : Terrain ℝ) (grid : Grid ℝ) (kept : terrain.grid = some grid) (height : ℝ)
    (member : height ∈ grid.heights) : terrain.baseHeight ≤ height := by
  simp only [baseHeight, kept]
  cases found : grid.lowest? with
  | none => exact absurd (grid.lowest_none found height member) Bool.false_ne_true
  | some lowest => exact grid.lowest_le lowest height found member

variable (terrain : Terrain ℝ) (grid : Grid ℝ) (kept : terrain.grid = some grid)

include kept

theorem height_surface (column row : ℕ) (x y : ℝ)
    (inColumn : Neighbours.Between column (Grid.held grid.originX grid.cellSize grid.columns x))
    (inRow : Neighbours.Between row (Grid.held grid.originY grid.cellSize grid.rows y)) :
    terrain.heightAt x y = grid.surface column row (Grid.held grid.originX grid.cellSize grid.columns x)
      (Grid.held grid.originY grid.cellSize grid.rows y) := by
  have found := terrain.height_kept grid kept x y
  rw [grid.height_surface (terrain.usable grid kept) column row x y inColumn inRow] at found
  exact (Option.some.inj found).symm

theorem base_le_corner (column row : ℕ) (inColumns : column + 1 < grid.columns.toNat)
    (inRows : row + 1 < grid.rows.toNat) : terrain.baseHeight ≤ grid.leastCorner column row := by
  have corner (column row : ℕ) (inColumns : column < grid.columns.toNat) (inRows : row < grid.rows.toNat) :=
    terrain.base_le grid kept _ (grid.sample_stored (terrain.usable grid kept) column row inColumns inRows).2.2
  exact le_min (le_min (corner column row (by omega) (by omega)) (corner (column + 1) row inColumns (by omega)))
    (le_min (corner column (row + 1) (by omega) inRows) (corner (column + 1) (row + 1) inColumns inRows))

theorem height_vertex (column row : ℕ) (inColumns : column < grid.columns.toNat) (inRows : row < grid.rows.toNat) :
    terrain.heightAt (grid.markX column) (grid.markY row) = grid.stored column row := by
  have usable := terrain.usable grid kept
  have heldX : Grid.held grid.originX grid.cellSize grid.columns (grid.markX column) = column :=
    Side.held_mark grid.columns usable.positive column inColumns
  have heldY : Grid.held grid.originY grid.cellSize grid.rows (grid.markY row) = row :=
    Side.held_mark grid.rows usable.positive row inRows
  -- The last vertex of a side has no cell of its own; it ends the one before.
  have corner (vertex count : ℕ) (sides : 2 ≤ count) (inside : vertex < count) :
      min vertex (count - 2) ≤ vertex ∧ vertex ≤ min vertex (count - 2) + 1 := by omega
  obtain ⟨lowColumn, highColumn⟩ := corner column grid.columns.toNat usable.columns inColumns
  obtain ⟨lowRow, highRow⟩ := corner row grid.rows.toNat usable.rows inRows
  rw [terrain.height_surface grid kept (min column (grid.columns.toNat - 2)) (min row (grid.rows.toNat - 2)), heldX,
    heldY]
  · simp only [Grid.surface, Neighbours.mean_vertex _ _ _ lowColumn highColumn,
      Neighbours.mean_vertex _ _ _ lowRow highRow]
  · rw [heldX]
    exact ⟨by exact_mod_cast lowColumn, by exact_mod_cast highColumn⟩
  · rw [heldY]
    exact ⟨by exact_mod_cast lowRow, by exact_mod_cast highRow⟩

theorem height_in_cell (column row : ℕ) (x y : ℝ) (inside : grid.InCell column row x y) :
    terrain.heightAt x y =
        grid.surface column row ((x - grid.originX) / grid.cellSize) ((y - grid.originY) / grid.cellSize) ∧
      terrain.heightAt x y ∈ Set.Icc (grid.leastCorner column row) (grid.greatestCorner column row) := by
  have positive := (terrain.usable grid kept).positive
  obtain ⟨inColumns, inRows, inColumn, inRow⟩ := inside
  obtain ⟨heldX, betweenX⟩ := Side.held_in_cell grid.columns positive column x inColumns inColumn.1 inColumn.2
  obtain ⟨heldY, betweenY⟩ := Side.held_in_cell grid.rows positive row y inRows inRow.1 inRow.2
  have height := terrain.height_surface grid kept column row x y betweenX betweenY
  have within := grid.surface_within column row _ _ betweenX betweenY
  rw [← height] at within
  rw [heldX, heldY] at height
  exact ⟨height, within⟩

theorem height_nearest (x y a b : ℝ) (nearest : grid.Nearest x y a b) :
    terrain.heightAt x y = terrain.heightAt a b := by
  have usable := terrain.usable grid kept
  obtain ⟨rfl, rfl⟩ := (grid.nearest_iff usable.positive x y a b).mp nearest
  obtain ⟨column, -, betweenX, -⟩ := Grid.place_eq grid.originX grid.cellSize grid.columns x usable.columns
  obtain ⟨row, -, betweenY, -⟩ := Grid.place_eq grid.originY grid.cellSize grid.rows y usable.rows
  have heldX : Grid.held grid.originX grid.cellSize grid.columns _ = _ :=
    Side.held_nearest grid.columns usable.positive x
  have heldY : Grid.held grid.originY grid.cellSize grid.rows _ = _ := Side.held_nearest grid.rows usable.positive y
  rw [terrain.height_surface grid kept column row x y betweenX betweenY,
    terrain.height_surface grid kept column row _ _ (by rwa [heldX]) (by rwa [heldY]), heldX, heldY]

theorem base_below (x y : ℝ) : terrain.baseHeight ≤ terrain.heightAt x y := by
  obtain ⟨a, b, column, row, nearest, inside⟩ := grid.nearest_covered (terrain.usable grid kept) x y
  calc
    terrain.baseHeight ≤ grid.leastCorner column row :=
      terrain.base_le_corner grid kept column row inside.inColumns inside.inRows
    _ ≤ terrain.heightAt a b := (terrain.height_in_cell grid kept column row a b inside).2.1
    _ = terrain.heightAt x y := (terrain.height_nearest grid kept x y a b nearest).symm

theorem interpolates_kept : terrain.Interpolates grid where
  answered := terrain.height_kept grid kept
  vertex column row inColumns inRows := by
    rw [terrain.height_vertex grid kept column row inColumns inRows]
    exact (grid.sample_stored (terrain.usable grid kept) column row inColumns inRows).2.1
  cell column row x y inside := (terrain.height_in_cell grid kept column row x y inside).1
  within column row x y inside := (terrain.height_in_cell grid kept column row x y inside).2
  outside x y := ⟨grid.nearest_covered (terrain.usable grid kept) x y, terrain.height_nearest grid kept x y⟩
  base := terrain.base_below grid kept

end Terrain

/-- The heights of a grid that is kept are the bilinear interpolant of its samples, which meets the samples at the
vertices, stays between the corners of each cell, has no seams and nothing below the base. -/
theorem kept_grid_interpolates (settings : TerrainSettings ℝ) (terrain : Terrain ℝ) (grid : Grid ℝ)
    (made : Terrain.ofSettings? settings = some terrain) (kept : terrain.grid = some grid) :
    settings.grid = some grid ∧ terrain.Interpolates grid := by
  refine ⟨?_, terrain.interpolates_kept grid kept⟩
  rcases Terrain.of_settings_some settings terrain made with ⟨_, usable, given, rfl⟩ | ⟨-, rfl⟩
  · exact given.trans kept
  · cases kept

noncomputable def exactColumns : Grid ℝ where
  originX := 0
  originY := 0
  cellSize := 1
  columns := 2
  rows := 2
  heights := #[7.0, 2.0, 4.0, 6.0]

theorem exact_columns_usable : exactColumns.Usable where
  columns := le_rfl
  rows := le_rfl
  cellSize := by
    change ¬ (1 : ℝ) ≤ 0
    norm_num
  few := by decide
  filled := rfl

theorem two_rows_interpolate :
    let settings : TerrainSettings ℝ := ⟨5.0, 2.0, some exactColumns⟩
    ∃ terrain, Terrain.ofSettings? settings = some terrain ∧ terrain.grid = some exactColumns ∧
      settings.grid = some exactColumns ∧ terrain.Interpolates exactColumns := by
  intro settings
  have few : ¬ UInt64.size ≤ exactColumns.vertices := Nat.not_le.mpr exact_columns_usable.few
  obtain ⟨terrain, made⟩ := Option.ne_none_iff_exists'.mp
    fun none => few ((Terrain.of_settings_none_iff 5.0 2.0 exactColumns).mp none)
  have kept := ((terrain.made_of_settings 5.0 2.0 exactColumns made).kept exact_columns_usable).1
  exact ⟨terrain, made, kept, kept_grid_interpolates settings terrain exactColumns made kept⟩

end VehicleSim
