import VehicleSim.Proofs.Json.Overlay
import VehicleSim.Proofs.Json.Reading
import VehicleSim.Settings.Text

/-!
Settings as a text lays them over the defaults: the keys of every level, and what a text with some of them is read as.
-/

set_option autoImplicit false

namespace VehicleSim

open Json (Schema Key Level Members Record)

namespace Settings

def floatForm : Schema Float32 := .leaf Json.toBinary32? Json.MeansFloat Json.float_iff

def flagForm : Schema Bool := .leaf Json.toBool? (fun json value => json = .bool value) Json.bool_iff

def nameForm : Schema String := .leaf Json.toText? (fun json value => json = .text (some value)) Json.text_iff

def vectorForm : Schema (Vec3 Float32) := .leaf Json.toVec3? Json.MeansVector Json.vector_iff

def word32Form : Schema UInt32 := .leaf Json.toWord32? Json.MeansWord32 Json.word32_iff

def word64Form : Schema UInt64 := .leaf Json.toWord64? Json.MeansWord64 Json.word64_iff

def listForm {β : Type} (make : List Float32 → Option β) (items : β → List Float32)
    (made : ∀ list value, make list = some value ↔ list = items value) : Schema β :=
  .leaf (fun json => json.toList? Json.toBinary32? >>= make) (fun json value => Json.MeansFloats json (items value))
    (by
      intro json value
      rw [← Json.floats_iff, Option.bind_eq_bind, Option.bind_eq_some_iff]
      simp only [made, exists_eq_right])

def gather? (list : List Float32) : Option (Array Float32) := some list.toArray

theorem gather_iff (list : List Float32) (value : Array Float32) : gather? list = some value ↔ list = value.toList := by
  rw [gather?, Option.some.injEq]
  exact ⟨fun same => same ▸ rfl, fun same => same ▸ rfl⟩

def samplesForm : Schema (Array Float32) := listForm gather? Array.toList gather_iff

def pair? : List Float32 → Option (Float32 × Float32)
  | [x, y] => some (x, y)
  | _ => none

theorem pair_iff (list : List Float32) (value : Float32 × Float32) :
    pair? list = some value ↔ list = [value.1, value.2] := by
  constructor
  · intro paired
    unfold pair? at paired
    split at paired <;> cases paired
    rfl
  · rintro rfl
    rfl

def pairForm : Schema (Float32 × Float32) := listForm pair? (fun value => [value.1, value.2]) pair_iff

theorem bind_four {α β γ δ σ : Type} {first : Option α} {second : Option β} {third : Option γ} {fourth : Option δ}
    {make : α → β → γ → δ → Option σ} {made : σ} :
    (first.bind fun a => second.bind fun b => third.bind fun c => fourth.bind fun d => make a b c d) = some made ↔
      ∃ a b c d, (first = some a ∧ second = some b ∧ third = some c ∧ fourth = some d) ∧ make a b c d = some made := by
  constructor
  · intro read
    obtain ⟨a, one, read⟩ := Option.bind_eq_some_iff.mp read
    obtain ⟨b, two, read⟩ := Option.bind_eq_some_iff.mp read
    obtain ⟨c, three, read⟩ := Option.bind_eq_some_iff.mp read
    obtain ⟨d, four, read⟩ := Option.bind_eq_some_iff.mp read
    exact ⟨a, b, c, d, ⟨one, two, three, four⟩, read⟩
  · rintro ⟨a, b, c, d, ⟨rfl, rfl, rfl, rfl⟩, read⟩
    exact read

theorem required_then {β γ : Type} (record : Record) (name : String) (read : Json → Option β) (make : β → Option γ)
    (value : γ) :
    record.required name (fun json => read json >>= make) = some value ↔
      ∃ first, record.required name read = some first ∧ make first = some value := by
  rw [← Option.bind_eq_some_iff]
  exact iff_of_eq (congrArg (· = some value) (Option.bind_assoc (record.lookup name) read make).symm)

def gridKeys : List (Key (Grid Float32)) :=
  [⟨"origin", _, pairForm, fun grid => (grid.originX, grid.originY)⟩,
    ⟨"cell_size", _, floatForm, (·.cellSize)⟩,
    ⟨"columns", _, word64Form, (·.columns)⟩,
    ⟨"rows", _, word64Form, (·.rows)⟩,
    ⟨"heights", _, samplesForm, (·.heights)⟩]

def gridLevel : Level (Grid Float32) where
  keys := gridKeys
  usual := none
  ofJson? := Grid.ofJson?
  reads members made := by
    simp only [gridKeys, List.forall_mem_cons]
    constructor
    · intro read
      obtain ⟨record, found, read⟩ := Option.bind_eq_some_iff.mp read
      obtain ⟨origin, _, _, _, ⟨a, b, c, d⟩, read⟩ := bind_four.mp read
      obtain ⟨heights, e, paired⟩ := Option.bind_eq_some_iff.mp read
      split at paired <;> cases paired
      have corner := (required_then record "origin" (Json.toList? Json.toBinary32?) pair? _).mpr ⟨_, a, rfl⟩
      have samples := (required_then record "heights" (Json.toList? Json.toBinary32?) gather? _).mpr ⟨heights, e, rfl⟩
      exact ⟨record, found, corner, b, c, d, samples, List.forall_mem_nil _⟩
    · rintro ⟨record, found, a, b, c, d, e, -⟩
      obtain ⟨origin, corner, paired⟩ := (required_then record "origin" (Json.toList? Json.toBinary32?) pair? _).mp a
      obtain ⟨heights, samples, same⟩ := (required_then record "heights" (Json.toList? Json.toBinary32?) gather? _).mp e
      obtain rfl := (pair_iff _ _).mp paired
      refine Option.bind_eq_some_iff.mpr ⟨record, found, ?_⟩
      refine bind_four.mpr ⟨_, _, _, _, ⟨corner, b, c, d⟩, ?_⟩
      obtain rfl := (gather_iff _ _).mp same
      exact Option.bind_eq_some_iff.mpr ⟨_, samples, rfl⟩
  whole P choose := by
    simp only [gridKeys, List.forall_mem_cons] at choose ⊢
    obtain ⟨⟨_, a⟩, ⟨_, b⟩, ⟨_, c⟩, ⟨_, d⟩, ⟨_, e⟩, -⟩ := choose
    exact ⟨⟨_, _, _, _, _, _⟩, a, b, c, d, e, List.forall_mem_nil _⟩

def terrainKeys : List (Key (TerrainSettings Float32)) :=
  [⟨"ground_height", _, floatForm, (·.groundHeight)⟩,
    ⟨"water_level", _, floatForm, (·.waterLevel)⟩,
    ⟨"grid", _, gridLevel.schema.nullable, (·.grid)⟩]

def terrainLevel : Level (TerrainSettings Float32) where
  keys := terrainKeys
  usual := some .initial
  ofJson? := TerrainSettings.ofJson?
  reads members made := by
    simp only [terrainKeys, List.forall_mem_cons]
    constructor
    · intro read
      obtain ⟨record, found, read⟩ := Option.bind_eq_some_iff.mp read
      obtain ⟨_, a, read⟩ := Option.bind_eq_some_iff.mp read
      obtain ⟨_, b, read⟩ := Option.bind_eq_some_iff.mp read
      obtain ⟨_, c, same⟩ := Option.bind_eq_some_iff.mp read
      cases same
      exact ⟨record, found, a, b, c, List.forall_mem_nil _⟩
    · rintro ⟨record, found, a, b, c, -⟩
      refine Option.bind_eq_some_iff.mpr ⟨record, found, ?_⟩
      refine Option.bind_eq_some_iff.mpr ⟨_, a, ?_⟩
      refine Option.bind_eq_some_iff.mpr ⟨_, b, ?_⟩
      exact Option.bind_eq_some_iff.mpr ⟨_, c, rfl⟩
  whole P choose := by
    simp only [terrainKeys, List.forall_mem_cons] at choose ⊢
    obtain ⟨⟨_, a⟩, ⟨_, b⟩, ⟨_, c⟩, -⟩ := choose
    exact ⟨⟨_, _, _⟩, a, b, c, List.forall_mem_nil _⟩

def tuningKeys : List (Key (Tuning Float32)) :=
  [⟨"max_linear_velocity", _, floatForm, (·.maxLinearVelocity)⟩,
    ⟨"min_linear_velocity", _, floatForm, (·.minLinearVelocity)⟩,
    ⟨"max_angular_velocity", _, floatForm, (·.maxAngularVelocity)⟩,
    ⟨"linear_damping", _, floatForm, (·.linearDamping)⟩,
    ⟨"angular_damping", _, floatForm, (·.angularDamping)⟩,
    ⟨"friction", _, floatForm, (·.friction)⟩,
    ⟨"restitution", _, floatForm, (·.restitution)⟩,
    ⟨"inertia_factor", _, vectorForm, (·.inertiaFactor)⟩,
    ⟨"ground_gravity_fudge", _, floatForm, (·.groundGravityFudge)⟩,
    ⟨"enable_linear_deflection", _, flagForm, (·.enableLinearDeflection)⟩,
    ⟨"linear_deflection_not_colliding_no_z", _, flagForm, (·.linearDeflectionNotCollidingNoZ)⟩,
    ⟨"enable_angular_vertical_attraction", _, flagForm, (·.enableAngularVerticalAttraction)⟩,
    ⟨"enable_angular_deflection", _, flagForm, (·.enableAngularDeflection)⟩,
    ⟨"enable_angular_banking", _, flagForm, (·.enableAngularBanking)⟩,
    ⟨"hover_timescale_cutoff", _, floatForm, (·.hoverTimescaleCutoff)⟩,
    ⟨"vertical_attraction_cutoff", _, floatForm, (·.verticalAttractionCutoff)⟩,
    ⟨"rotational_velocity_epsilon", _, floatForm, (·.rotationalVelocityEpsilon)⟩]

def tuningLevel : Level (Tuning Float32) where
  keys := tuningKeys
  usual := some .initial
  ofJson? := Tuning.ofJson?
  reads members made := by
    simp only [tuningKeys, List.forall_mem_cons]
    constructor
    · intro read
      obtain ⟨record, found, read⟩ := Option.bind_eq_some_iff.mp read
      obtain ⟨_, _, _, _, ⟨a, b, c, d⟩, read⟩ := bind_four.mp read
      obtain ⟨_, _, _, _, ⟨e, f, g, h⟩, read⟩ := bind_four.mp read
      obtain ⟨_, _, _, _, ⟨i, j, k, l⟩, read⟩ := bind_four.mp read
      obtain ⟨_, _, _, _, ⟨m, n, o, p⟩, read⟩ := bind_four.mp read
      obtain ⟨_, q, same⟩ := Option.bind_eq_some_iff.mp read
      cases same
      exact ⟨record, found, a, b, c, d, e, f, g, h, i, j, k, l, m, n, o, p, q, List.forall_mem_nil _⟩
    · rintro ⟨record, found, a, b, c, d, e, f, g, h, i, j, k, l, m, n, o, p, q, -⟩
      refine Option.bind_eq_some_iff.mpr ⟨record, found, ?_⟩
      refine bind_four.mpr ⟨_, _, _, _, ⟨a, b, c, d⟩, ?_⟩
      refine bind_four.mpr ⟨_, _, _, _, ⟨e, f, g, h⟩, ?_⟩
      refine bind_four.mpr ⟨_, _, _, _, ⟨i, j, k, l⟩, ?_⟩
      refine bind_four.mpr ⟨_, _, _, _, ⟨m, n, o, p⟩, ?_⟩
      exact Option.bind_eq_some_iff.mpr ⟨_, q, rfl⟩
  whole P choose := by
    simp only [tuningKeys, List.forall_mem_cons] at choose ⊢
    obtain ⟨⟨_, a⟩, ⟨_, b⟩, ⟨_, c⟩, ⟨_, d⟩, ⟨_, e⟩, ⟨_, f⟩, ⟨_, g⟩, ⟨_, h⟩, ⟨_, i⟩, ⟨_, j⟩, ⟨_, k⟩, ⟨_, l⟩, ⟨_, m⟩,
      ⟨_, n⟩, ⟨_, o⟩, ⟨_, p⟩, ⟨_, q⟩, -⟩ := choose
    exact ⟨⟨_, _, _, _, _, _, _, _, _, _, _, _, _, _, _, _, _⟩, a, b, c, d, e, f, g, h, i, j, k, l, m, n, o, p, q,
      List.forall_mem_nil _⟩

def settingsKeys : List (Key (Settings Float32)) :=
  [⟨"bind_addr", _, nameForm, (·.bindAddress)⟩,
    ⟨"tick_hz", _, word32Form, (·.ticksPerSecond)⟩,
    ⟨"gravity", _, vectorForm, (·.gravity)⟩,
    ⟨"terrain", _, terrainLevel.schema, (·.terrain)⟩,
    ⟨"vehicle", _, tuningLevel.schema, (·.vehicle)⟩]

def level : Level (Settings Float32) where
  keys := settingsKeys
  usual := some .initial
  ofJson? := Settings.ofJson?
  reads members made := by
    simp only [settingsKeys, List.forall_mem_cons]
    constructor
    · intro read
      obtain ⟨record, found, read⟩ := Option.bind_eq_some_iff.mp read
      obtain ⟨_, _, _, _, ⟨a, b, c, d⟩, read⟩ := bind_four.mp read
      obtain ⟨_, e, same⟩ := Option.bind_eq_some_iff.mp read
      cases same
      exact ⟨record, found, a, b, c, d, e, List.forall_mem_nil _⟩
    · rintro ⟨record, found, a, b, c, d, e, -⟩
      refine Option.bind_eq_some_iff.mpr ⟨record, found, ?_⟩
      exact bind_four.mpr ⟨_, _, _, _, ⟨a, b, c, d⟩, Option.bind_eq_some_iff.mpr ⟨_, e, rfl⟩⟩
  whole P choose := by
    simp only [settingsKeys, List.forall_mem_cons] at choose ⊢
    obtain ⟨⟨_, a⟩, ⟨_, b⟩, ⟨_, c⟩, ⟨_, d⟩, ⟨_, e⟩, -⟩ := choose
    exact ⟨⟨_, _, _, _, _⟩, a, b, c, d, e, List.forall_mem_nil _⟩

theorem settings_read (members : Members) (text : String) (spelled : Json.Text (.object members) text) :
    Json.read? .unchecked text >>= Settings.ofJson? = Settings.ofJson? (.object members) := by
  rw [Json.read_spelled .unchecked _ text spelled, if_pos (Json.fits_unchecked 0 _), Option.bind_eq_bind,
    Option.bind_some]

/-- Whatever text spells an object with fitting values under some of the known keys, it is read as the default settings
with just these values in their places, through all levels; a text that differs in the order of its keys and in unknown
keys is read as the same; and a known key that stands twice, that is missing where it may not, or whose value is wrong,
spoils the whole text. -/
theorem settings_texts (members : Members) (text : String) (spelled : Json.Text (.object members) text) :
    (level.Fits members → ∃ settings, level.Overlaid members settings ∧ ofText text = .ok settings) ∧
      (∀ settings, level.Overlaid members settings → ofText text = .ok settings) ∧
      (∀ others otherText, Json.Text (.object others) otherText → level.Alike members others →
        ofText otherText = ofText text) ∧
      (level.Flawed members → ofText text = .error .malformed) := by
  have overlaid : ∀ settings, level.Overlaid members settings → ofText text = .ok settings := by
    intro settings overlaid
    have read : Settings.ofJson? (.object members) = some settings := level.reads_overlaid members settings overlaid
    rw [ofText, settings_read members text spelled, read]
  refine ⟨?_, overlaid, ?_, ?_⟩
  · intro fits
    obtain ⟨settings, made⟩ := level.overlaid_of_fits members fits
    exact ⟨settings, made, overlaid settings made⟩
  · intro others otherText otherSpelled alike
    have same : Settings.ofJson? (.object members) = Settings.ofJson? (.object others) :=
      level.alike_reads members others alike
    rw [ofText, ofText, settings_read others otherText otherSpelled, settings_read members text spelled, same]
  · intro flawed
    have refused : Settings.ofJson? (.object members) = none := level.flawed_refused members flawed
    rw [ofText, settings_read members text spelled, refused]

def slowSettings : Settings Float32 :=
  { initial with
    ticksPerSecond := 30
    terrain := { TerrainSettings.initial with waterLevel := 0.5 } }

theorem slow_settings_read :
    ofText "\x7b\"terrain\":\x7b\"water_level\":0.5\x7d,\"x\":null,\"tick_hz\":30\x7d" = .ok slowSettings ∧
      ofText "\x7b\"tick_hz\":30,\"terrain\":\x7b\"water_level\":0.5\x7d\x7d" = .ok slowSettings ∧
      ofText "\x7b\"terrain\":\x7b\"grid\":\x7b\x7d\x7d\x7d" = .error .malformed := by
  have half : Json.SpellsNumber ⟨false, [0], some [5], none⟩ ['0', '.', '5'] :=
    .parts false [0] (some [5]) none ['0'] ['.', '5'] [] .zero (.digits 5 []) .none
  have thirty : Json.SpellsNumber ⟨false, [3, 0], none, none⟩ ['3', '0'] :=
    .parts false [3, 0] none none ['3', '0'] [] [] (.digits 3 [0] (by decide)) .none .none
  have water := Json.plain_member "water_level".toList (by decide) _ _ (Json.spells_bare _ _ (.number _ _ half))
  have grid := Json.plain_member "grid".toList (by decide) _ _ (Json.spells_bare _ _ (.emptyObject [] Json.blank_nil))
  have terrain (key : Option String) (json : Json) (chars : List Char)
      (inside : Json.Spells (.member key json) chars) :=
    Json.plain_member "terrain".toList (by decide) _ _
      (Json.spells_bare _ _ (.object _ _ (.lastMember _ _ _ inside)))
  have other := Json.plain_member "x".toList (by decide) _ _ (Json.spells_bare _ _ .null)
  have rate := Json.plain_member "tick_hz".toList (by decide) _ _ (Json.spells_bare _ _ (.number _ _ thirty))
  have tail := Json.Spells.nextMember _ _ _ _ _ other (.lastMember _ _ _ rate)
  have object := Json.text_of_chars _ _ (Json.spells_bare _ _
    (.object _ _ (.nextMember _ _ _ _ _ (terrain _ _ _ water) tail)))
  have read : ofText "\x7b\"terrain\":\x7b\"water_level\":0.5\x7d,\"x\":null,\"tick_hz\":30\x7d" =
      .ok slowSettings := by
    have wet : terrainLevel.Overlaid [(some "water_level", .number ⟨false, [0], some [5], none⟩)]
        slowSettings.terrain := by
      refine ⟨by simp [Members.Proper], ?_⟩
      change ∀ key ∈ terrainKeys, _
      simp only [terrainKeys, List.forall_mem_cons]
      exact ⟨Or.inl ⟨rfl, _, rfl, rfl⟩, Or.inr ⟨_, rfl, _, rfl, rfl⟩, Or.inl ⟨rfl, _, rfl, rfl⟩, List.forall_mem_nil _⟩
    refine (settings_texts _ _ object).2.1 slowSettings ⟨by simp [Members.Proper], ?_⟩
    change ∀ key ∈ settingsKeys, _
    simp only [settingsKeys, List.forall_mem_cons]
    exact ⟨Or.inl ⟨rfl, _, rfl, rfl⟩, Or.inr ⟨_, rfl, _, rfl, rfl⟩, Or.inl ⟨rfl, _, rfl, rfl⟩,
      Or.inr ⟨_, rfl, _, rfl, wet⟩, Or.inl ⟨rfl, _, rfl, rfl⟩, List.forall_mem_nil _⟩
  refine ⟨read, ?_, ?_⟩
  · have turned := Json.text_of_chars _ _ (Json.spells_bare _ _
      (.object _ _ (.nextMember _ _ _ _ _ rate (.lastMember _ _ _ (terrain _ _ _ water)))))
    have alike := (settings_texts _ _ object).2.2.1 _ _ turned
      ⟨by simp [Members.Proper], by simp [Members.Proper], _, .swap _ _ _, level.same_members _⟩
    exact alike.trans read
  · have object := Json.text_of_chars _ _
      (Json.spells_bare _ _ (.object _ _ (.lastMember _ _ _ (terrain _ _ _ grid))))
    have cornerless : gridLevel.Flawed [] := .missing _ (.head _) rfl rfl
    have gridless : terrainLevel.Flawed [(some "grid", .object [])] :=
      .wrong _ (.tail _ (.tail _ (.head _))) (.object []) (.head _) ⟨nofun, [], rfl, cornerless⟩
    exact (settings_texts _ _ object).2.2.2
      (.wrong _ (.tail _ (.tail _ (.tail _ (.head _)))) _ (.head _) ⟨_, rfl, gridless⟩)

end Settings

end VehicleSim
