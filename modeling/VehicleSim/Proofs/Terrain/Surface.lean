import Mathlib.Algebra.Order.Floor.Semiring
import Mathlib.Analysis.Convex.Basic
import Mathlib.Tactic.Linarith
import VehicleSim.Proofs.Number.Exact
import VehicleSim.Proofs.Terrain.Stored

/-!
The surface of a grid in exact arithmetic. Along a row, and then across the rows, a height is a mean of two neighbours,
weighted by the place between them. Cells that share an edge agree on it, so it does not matter which of them the cap at
the last cell picks, and a point outside is read at the nearest point of the grid.
-/

set_option autoImplicit false

namespace VehicleSim

namespace Neighbours

def Between (cell : ℕ) (along : ℝ) : Prop := cell ≤ along ∧ along ≤ cell + 1

noncomputable def mean (heights : ℕ → ℝ) (cell : ℕ) (along : ℝ) : ℝ :=
  heights cell + (heights (cell + 1) - heights cell) * (along - cell)

variable (heights : ℕ → ℝ) (cell other : ℕ) (along : ℝ)

theorem mean_start : mean heights cell cell = heights cell := by simp [mean]

theorem mean_end : mean heights cell (cell + 1 : ℕ) = heights (cell + 1) := by simp [mean]

theorem mean_vertex (vertex : ℕ) (low : cell ≤ vertex) (high : vertex ≤ cell + 1) :
    mean heights cell vertex = heights vertex := by
  rcases Nat.lt_or_ge cell vertex with above | below
  · obtain rfl : vertex = cell + 1 := Nat.le_antisymm high above
    exact mean_end heights cell
  · obtain rfl : vertex = cell := Nat.le_antisymm below low
    exact mean_start heights vertex

theorem mean_edge (before : cell < other) (low : other ≤ along) (high : along ≤ cell + 1) :
    mean heights cell along = mean heights other along := by
  have next : (cell : ℝ) + 1 ≤ other := by exact_mod_cast before
  have edge : along = other := le_antisymm (high.trans next) low
  have neighbour : other = cell + 1 := by
    have above : (other : ℝ) ≤ cell + 1 := low.trans high
    exact Nat.le_antisymm (by exact_mod_cast above) before
  rw [edge, mean_start, neighbour, mean_end]

theorem mean_seam (first : Between cell along) (second : Between other along) :
    mean heights cell along = mean heights other along := by
  rcases Nat.lt_trichotomy cell other with before | rfl | after
  · exact mean_edge heights cell other along before second.1 first.2
  · rfl
  · exact (mean_edge heights other cell along after first.1 second.2).symm

theorem mean_within (least greatest : ℝ) (between : Between cell along)
    (start : heights cell ∈ Set.Icc least greatest) (next : heights (cell + 1) ∈ Set.Icc least greatest) :
    mean heights cell along ∈ Set.Icc least greatest := by
  obtain ⟨low, high⟩ := between
  have weighted : mean heights cell along =
      (1 - (along - cell)) • heights cell + (along - cell) • heights (cell + 1) := by
    rw [mean, smul_eq_mul, smul_eq_mul]
    ring
  rw [weighted]
  exact convex_Icc least greatest start next (by linarith) (by linarith) (by ring)

end Neighbours

namespace Grid

variable (grid : Grid ℝ)

noncomputable def stored (column row : ℕ) : ℝ := grid.heights.getD (row * grid.columns.toNat + column) 0

noncomputable def held (origin cellSize : ℝ) (count : UInt64) (coordinate : ℝ) : ℝ :=
  max 0 (min ((coordinate - origin) / cellSize) ((count.toNat - 1 : ℕ) : ℝ))

theorem held_bounds (origin cellSize : ℝ) (count : UInt64) (coordinate : ℝ) :
    0 ≤ held origin cellSize count coordinate ∧
      held origin cellSize count coordinate ≤ ((count.toNat - 1 : ℕ) : ℝ) :=
  ⟨le_max_left _ _, max_le (Nat.cast_nonneg _) (min_le_right _ _)⟩

-- The cap at the last word has no part in it: there are fewer cells than words.
theorem place_floor (origin cellSize : ℝ) (count : UInt64) (coordinate : ℝ) :
    let along := held origin cellSize count coordinate
    let cell := min ⌊along⌋₊ (count.toNat - 2)
    place origin cellSize count coordinate = (cell, along - cell) := by
  intro along cell
  have word : count.toNat - 2 ≤ UInt64.size - 1 := by
    have := count.toNat_lt_size
    omega
  have clamped : Scalar.clamp ((coordinate - origin) / cellSize) 0 (Scalar.ofNat (count.toNat - 1)) = along :=
    Exact.hold_eq _ _ _ (Nat.cast_nonneg _)
  have floored : Nat.min (Scalar.floorNat along) (count.toNat - 2) = cell := by
    change min (min ⌊along⌋₊ (UInt64.size - 1)) (count.toNat - 2) = _
    rw [min_assoc, min_eq_right word]
  simp only [place, clamped, floored]
  rfl

theorem place_eq (origin cellSize : ℝ) (count : UInt64) (coordinate : ℝ) (sides : 2 ≤ count.toNat) :
    let along := held origin cellSize count coordinate
    ∃ cell, cell + 1 < count.toNat ∧ Neighbours.Between cell along ∧
      place origin cellSize count coordinate = (cell, along - cell) := by
  intro along
  obtain ⟨positive, most⟩ := held_bounds origin cellSize count coordinate
  refine ⟨min ⌊along⌋₊ (count.toNat - 2), by omega, ⟨?_, ?_⟩, place_floor origin cellSize count coordinate⟩
  · calc
      ((min ⌊along⌋₊ (count.toNat - 2) : ℕ) : ℝ) ≤ ⌊along⌋₊ := by exact_mod_cast min_le_left _ _
      _ ≤ along := Nat.floor_le positive
  · rcases Nat.le_total ⌊along⌋₊ (count.toNat - 2) with inner | last
    · rw [min_eq_left inner]
      exact (Nat.lt_floor_add_one along).le
    · rw [min_eq_right last]
      calc
        along ≤ ((count.toNat - 1 : ℕ) : ℝ) := most
        _ = ((count.toNat - 2 : ℕ) : ℝ) + 1 := by exact_mod_cast (by omega : count.toNat - 1 = count.toNat - 2 + 1)

noncomputable def surface (column row : ℕ) (u v : ℝ) : ℝ :=
  Neighbours.mean (fun row => Neighbours.mean (fun column => grid.stored column row) column u) row v

theorem surface_eq_blend (column row : ℕ) (u v : ℝ) :
    grid.surface column row u v =
      blend (grid.stored column row) (grid.stored (column + 1) row) (grid.stored column (row + 1))
        (grid.stored (column + 1) (row + 1)) (u - column) (v - row) := rfl

theorem surface_seam (column row otherColumn otherRow : ℕ) (u v : ℝ) (inColumn : Neighbours.Between column u)
    (inOther : Neighbours.Between otherColumn u) (inRow : Neighbours.Between row v)
    (inOtherRow : Neighbours.Between otherRow v) :
    grid.surface column row u v = grid.surface otherColumn otherRow u v := by
  have along (row : ℕ) : Neighbours.mean (fun column => grid.stored column row) column u =
      Neighbours.mean (fun column => grid.stored column row) otherColumn u :=
    Neighbours.mean_seam _ column otherColumn u inColumn inOther
  simp only [surface, along]
  exact Neighbours.mean_seam _ row otherRow v inRow inOtherRow

noncomputable def leastCorner (column row : ℕ) : ℝ :=
  min (min (grid.stored column row) (grid.stored (column + 1) row))
    (min (grid.stored column (row + 1)) (grid.stored (column + 1) (row + 1)))

noncomputable def greatestCorner (column row : ℕ) : ℝ :=
  max (max (grid.stored column row) (grid.stored (column + 1) row))
    (max (grid.stored column (row + 1)) (grid.stored (column + 1) (row + 1)))

theorem surface_within (column row : ℕ) (u v : ℝ) (inColumn : Neighbours.Between column u)
    (inRow : Neighbours.Between row v) :
    grid.surface column row u v ∈ Set.Icc (grid.leastCorner column row) (grid.greatestCorner column row) := by
  have bottom := Neighbours.mean_within (fun column => grid.stored column row) column u _ _ inColumn
    ⟨min_le_left _ _, le_max_left _ _⟩ ⟨min_le_right _ _, le_max_right _ _⟩
  have top := Neighbours.mean_within (fun column => grid.stored column (row + 1)) column u _ _ inColumn
    ⟨min_le_left _ _, le_max_left _ _⟩ ⟨min_le_right _ _, le_max_right _ _⟩
  exact Neighbours.mean_within _ row v _ _ inRow
    ⟨(min_le_left _ _).trans bottom.1, bottom.2.trans (le_max_left _ _)⟩
    ⟨(min_le_right _ _).trans top.1, top.2.trans (le_max_right _ _)⟩

theorem sample_stored (usable : grid.Usable) (column row : ℕ) (inColumns : column < grid.columns.toNat)
    (inRows : row < grid.rows.toNat) :
    grid.sample? column row = some (grid.stored column row) ∧
      grid.heights[row * grid.columns.toNat + column]? = some (grid.stored column row) ∧
      grid.stored column row ∈ grid.heights := by
  have inside := grid.vertex_stored column row usable.filled inColumns inRows
  have there : grid.heights[row * grid.columns.toNat + column]? = some (grid.stored column row) := by
    rw [stored, Array.getD_eq_getD_getElem?, Array.getElem?_eq_getElem inside, Option.getD_some]
  refine ⟨?_, there, Array.mem_of_getElem? there⟩
  rw [grid.sample_vertex column row usable.few inColumns inRows, there]

theorem height_surface (usable : grid.Usable) (column row : ℕ) (x y : ℝ)
    (inColumn : Neighbours.Between column (held grid.originX grid.cellSize grid.columns x))
    (inRow : Neighbours.Between row (held grid.originY grid.cellSize grid.rows y)) :
    grid.heightAt? x y =
      some (grid.surface column row (held grid.originX grid.cellSize grid.columns x)
        (held grid.originY grid.cellSize grid.rows y)) := by
  obtain ⟨c, cInside, cBetween, cPlace⟩ := place_eq grid.originX grid.cellSize grid.columns x usable.columns
  obtain ⟨r, rInside, rBetween, rPlace⟩ := place_eq grid.originY grid.cellSize grid.rows y usable.rows
  have sample (column row : ℕ) (inColumns : column < grid.columns.toNat) (inRows : row < grid.rows.toNat) :=
    (grid.sample_stored usable column row inColumns inRows).1
  rw [← grid.surface_seam c r column row _ _ cBetween inColumn rBetween inRow, surface_eq_blend]
  simp only [heightAt?, cPlace, rPlace, sample c r (by omega) (by omega), sample (c + 1) r cInside (by omega),
    sample c (r + 1) (by omega) rInside, sample (c + 1) (r + 1) cInside rInside]
  rfl

end Grid

end VehicleSim
