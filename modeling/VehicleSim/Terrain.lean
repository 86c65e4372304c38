import VehicleSim.Number.Scalar
import VehicleSim.Space.Landscape

/-!
Ground and water of the region. The ground is one height, or a grid of samples read bilinearly;
outside the grid the nearest point of its edge counts. The water is one level.
-/

set_option autoImplicit false

namespace VehicleSim

structure Grid (α : Type) where
  originX : α
  originY : α
  cellSize : α
  columns : UInt64
  rows : UInt64
  heights : Array α

namespace Grid

-- Sums and products of sides are words; none holds a number from 2 ^ 64 on.
def word? (number : Nat) : Option Nat := if number < UInt64.size then some number else none

variable {α : Type} (grid : Grid α)

def vertices : Nat := grid.columns.toNat * grid.rows.toNat

def Filled : Prop := grid.heights.size = grid.vertices

instance : Decidable grid.Filled := inferInstanceAs (Decidable (grid.heights.size = grid.vertices))

theorem vertex_lt (column row : Nat) (inColumns : column < grid.columns.toNat) (inRows : row < grid.rows.toNat) :
    row * grid.columns.toNat + column < grid.vertices :=
  calc
    row * grid.columns.toNat + column < (row + 1) * grid.columns.toNat := by rw [Nat.succ_mul]; omega
    _ ≤ grid.rows.toNat * grid.columns.toNat := Nat.mul_le_mul_right _ inRows
    _ = grid.vertices := Nat.mul_comm _ _

def index? (column row : Nat) : Option Nat := do
  let before ← word? (row * grid.columns.toNat)
  word? (before + column)

theorem index_vertex (column row : Nat) (few : grid.vertices < UInt64.size)
    (inColumns : column < grid.columns.toNat) (inRows : row < grid.rows.toNat) :
    grid.index? column row = some (row * grid.columns.toNat + column) := by
  have inside := grid.vertex_lt column row inColumns inRows
  have before : word? (row * grid.columns.toNat) = some (row * grid.columns.toNat) := if_pos (by omega)
  rw [index?, before]
  exact if_pos (by omega)

def sample? (column row : Nat) : Option α := do
  let index ← grid.index? column row
  grid.heights[index]?

theorem sample_vertex (column row : Nat) (few : grid.vertices < UInt64.size)
    (inColumns : column < grid.columns.toNat) (inRows : row < grid.rows.toNat) :
    grid.sample? column row = grid.heights[row * grid.columns.toNat + column]? := by
  rw [sample?, grid.index_vertex column row few inColumns inRows]
  rfl

theorem vertex_stored (column row : Nat) (filled : grid.Filled) (inColumns : column < grid.columns.toNat)
    (inRows : row < grid.rows.toNat) : row * grid.columns.toNat + column < grid.heights.size := by
  rw [filled]
  exact grid.vertex_lt column row inColumns inRows

variable [Scalar α]

structure Usable : Prop where
  columns : 2 ≤ grid.columns.toNat
  rows : 2 ≤ grid.rows.toNat
  cellSize : ¬ grid.cellSize ≤ 0
  few : grid.vertices < UInt64.size
  filled : grid.Filled

-- Nothing where the number of vertices is not a word.
def usable? : Option Bool := do
  let samples ← word? grid.vertices
  return 2 ≤ grid.columns && 2 ≤ grid.rows && !(grid.cellSize ≤ 0 : Bool) && grid.heights.size == samples

theorem usable_none_iff : grid.usable? = none ↔ UInt64.size ≤ grid.vertices := by
  by_cases few : grid.vertices < UInt64.size
  · simp [usable?, word?, few, Nat.not_le.mpr few]
  · simp [usable?, word?, few, Nat.not_lt.mp few]

theorem usable_iff : grid.usable? = some true ↔ grid.Usable := by
  by_cases few : grid.vertices < UInt64.size
  · have samples : word? grid.vertices = some grid.vertices := if_pos few
    simp only [usable?, samples, Option.bind_eq_bind, Option.bind_some, Option.pure_def, Option.some.injEq,
      Bool.and_eq_true, decide_eq_true_eq, Bool.not_eq_true', decide_eq_false_iff_not, beq_iff_eq,
      UInt64.le_iff_toNat_le]
    exact ⟨fun ⟨⟨⟨columns, rows⟩, cellSize⟩, filled⟩ => ⟨columns, rows, cellSize, few, filled⟩,
      fun usable => ⟨⟨⟨usable.columns, usable.rows⟩, usable.cellSize⟩, usable.filled⟩⟩
  · have none : grid.usable? = none := grid.usable_none_iff.mpr (Nat.not_lt.mp few)
    rw [none]
    exact ⟨nofun, fun usable => absurd usable.few few⟩

-- Place along one side in units of cells, held to the side: the cell and the part of it passed.
def place (origin cellSize : α) (count : UInt64) (coordinate : α) : Nat × α :=
  let along :=
    Scalar.clamp ((coordinate - origin) / cellSize) 0 (Scalar.ofNat (count.toNat - 1))
  let cell := Nat.min (Scalar.floorNat along) (count.toNat - 2)
  (cell, along - Scalar.ofNat cell)

def blend (h00 h10 h01 h11 fu fv : α) : α :=
  let bottom := h00 + (h10 - h00) * fu
  let top := h01 + (h11 - h01) * fu
  bottom + (top - bottom) * fv

theorem place_inside (origin cellSize coordinate : α) (count : UInt64) (sides : 2 ≤ count.toNat) :
    (place origin cellSize count coordinate).1 + 1 < count.toNat := by
  have held : (place origin cellSize count coordinate).1 ≤ count.toNat - 2 := Nat.min_le_right _ _
  omega

def heightAt? (x y : α) : Option α := do
  let (column, fu) := place grid.originX grid.cellSize grid.columns x
  let (row, fv) := place grid.originY grid.cellSize grid.rows y
  let h00 ← grid.sample? column row
  let h10 ← grid.sample? (column + 1) row
  let h01 ← grid.sample? column (row + 1)
  let h11 ← grid.sample? (column + 1) (row + 1)
  return blend h00 h10 h01 h11 fu fv

theorem height_some (usable : grid.Usable) (x y : α) : (grid.heightAt? x y).isSome = true := by
  have inColumns := place_inside grid.originX grid.cellSize x grid.columns usable.columns
  have inRows := place_inside grid.originY grid.cellSize y grid.rows usable.rows
  rw [heightAt?]
  generalize place grid.originX grid.cellSize grid.columns x = column at inColumns ⊢
  generalize place grid.originY grid.cellSize grid.rows y = row at inRows ⊢
  have sample (column row : Nat) (inColumns : column < grid.columns.toNat) (inRows : row < grid.rows.toNat) :
      ∃ height, grid.sample? column row = some height := by
    rw [grid.sample_vertex column row usable.few inColumns inRows]
    exact ⟨_, Array.getElem?_eq_getElem (grid.vertex_stored column row usable.filled inColumns inRows)⟩
  obtain ⟨h00, first⟩ := sample column.1 row.1 (by omega) (by omega)
  obtain ⟨h10, second⟩ := sample (column.1 + 1) row.1 inColumns (by omega)
  obtain ⟨h01, third⟩ := sample column.1 (row.1 + 1) (by omega) inRows
  obtain ⟨h11, fourth⟩ := sample (column.1 + 1) (row.1 + 1) inColumns inRows
  simp only [first, second, third, fourth]
  rfl

def lowest? : Option α :=
  grid.heights.foldl
    (fun least height =>
      if Scalar.isNaN height then least
      else
        match least with
        | some low => some (Scalar.min low height)
        | none => some height)
    none

end Grid

structure TerrainSettings (α : Type) where
  groundHeight : α
  waterLevel : α
  grid : Option (Grid α)

namespace TerrainSettings

variable {α : Type} [Scalar α]

def initial : TerrainSettings α where
  groundHeight := 21.0
  waterLevel := 20.0
  grid := none

end TerrainSettings

structure Terrain (α : Type) [Scalar α] where
  groundHeight : α
  waterLevel : α
  grid : Option (Grid α)
  usable : ∀ kept, grid = some kept → kept.Usable

namespace Terrain

variable {α : Type} [Scalar α]

def flat (groundHeight waterLevel : α) : Terrain α := ⟨groundHeight, waterLevel, none, nofun⟩

def ofGrid (groundHeight waterLevel : α) (grid : Grid α) (usable : grid.Usable) : Terrain α where
  groundHeight
  waterLevel
  grid := some grid
  usable _ kept := Option.some.inj kept ▸ usable

-- A grid that is not usable leaves the ground flat. Nothing comes of one with more vertices than a word can count.
def ofSettings? (settings : TerrainSettings α) : Option (Terrain α) :=
  match settings.grid with
  | none => some (.flat settings.groundHeight settings.waterLevel)
  | some grid =>
      match usable : grid.usable? with
      | none => none
      | some false => some (.flat settings.groundHeight settings.waterLevel)
      | some true => some (.ofGrid settings.groundHeight settings.waterLevel grid (grid.usable_iff.mp usable))

def heightAt (terrain : Terrain α) (x y : α) : α :=
  match kept : terrain.grid with
  | some grid => (grid.heightAt? x y).get (grid.height_some (terrain.usable grid kept) x y)
  | none => terrain.groundHeight

def baseHeight (terrain : Terrain α) : α :=
  match terrain.grid with
  | some grid => grid.lowest?.getD Scalar.infinity
  | none => terrain.groundHeight

def landscape (terrain : Terrain α) : Landscape α where
  groundAt := terrain.heightAt
  waterAt _ _ := terrain.waterLevel

end Terrain

end VehicleSim
