import CorpusForge.Proofs.Config.Fields
import CorpusForge.Proofs.Config.Writing

/-!
# Settings laid over a configuration

Flags replace settings of a configuration that was loaded before (`Overrides.Replaces`), and the
result is loaded once more. Nothing is missing from it, so no default is filled in; but variables
are put in again, into the texts of the configuration as well as into those of the flags.

* `Overrides.apply_eq_ok_iff`: what comes out of the second loading;
* `Overrides.apply_eq_replaced_iff`: the configuration with its settings replaced, just when
  putting in variables leaves that alone, as it does when no text names one;
* `Overrides.apply_ne_replaced_user`: a text that names a variable is not kept.
-/

namespace CorpusForge

/-! ### Texts changed -/

def Seed.mapTexts (f : String → String) : Seed → Seed
  | .text s => .text (f s)
  | .number n => .number n

def Contributor.mapTexts (f : String → String) (c : Contributor) : Contributor :=
  ⟨f c.name, f c.email⟩

def Category.mapTexts (f : String → String) (c : Category) : Category :=
  ⟨f c.name, c.count, c.templates.map f⟩

def Language.mapTexts (f : String → String) (l : Language) : Language :=
  ⟨f l.name, l.weight, l.extensions.map f⟩

/-- A configuration with every text in it changed. -/
def Config.mapTexts (f : String → String) (c : Config) : Config :=
  { c with
    outputDir := f c.outputDir
    seed := c.seed.map (Seed.mapTexts f)
    categories := c.categories.map (Category.mapTexts f)
    languages := c.languages.map (Language.mapTexts f)
    contributors := c.contributors.map (Contributor.mapTexts f) }

section MapTexts

variable {α : Type} {f : String → String}

theorem Value.mapTextsItems_map {write : α → Value} {change : α → α}
    (h : ∀ a, (write a).mapTexts f = write (change a)) (as : List α) :
    mapTextsItems f (as.map write) = as.map (write ∘ change) := by
  rw [mapTextsItems_eq_map, List.map_map]
  exact List.map_congr_left fun a _ => h a

theorem Value.mapTexts_array_map {write : α → Value} {change : α → α}
    (h : ∀ a, (write a).mapTexts f = write (change a)) (as : List α) :
    (Value.array (as.map write)).mapTexts f = .array ((as.map change).map write) := by
  rw [Value.mapTexts, mapTextsItems_map h, List.map_map]

theorem Value.mapTexts_strings (texts : List String) :
    (Value.strings texts).mapTexts f = .strings (texts.map f) :=
  mapTexts_array_map (fun _ => by rw [Value.mapTexts]) texts

theorem Seed.mapTexts_toValue (seed : Seed) :
    seed.toValue.mapTexts f = (seed.mapTexts f).toValue := by
  cases seed <;> simp [toValue, mapTexts, Value.mapTexts]

theorem Contributor.mapTexts_toValue (c : Contributor) :
    c.toValue.mapTexts f = (c.mapTexts f).toValue := by
  simp [toValue, mapTexts, Value.mapTexts, Value.mapTextsFields]

theorem Category.mapTexts_toValue (c : Category) :
    c.toValue.mapTexts f = (c.mapTexts f).toValue := by
  simp [toValue, mapTexts, Value.mapTexts, Value.mapTextsFields, Value.mapTexts_strings]

theorem Language.mapTexts_toValue (l : Language) :
    l.toValue.mapTexts f = (l.mapTexts f).toValue := by
  simp [toValue, mapTexts, Value.mapTexts, Value.mapTextsFields, Value.mapTexts_strings]

theorem Range.mapTexts_toValue (r : Range) : r.toValue.mapTexts f = r.toValue := by
  simp [toValue, Value.mapTexts, Value.mapTextsItems]

theorem Ranges.mapTexts_toValue (r : Ranges) : r.toValue.mapTexts f = r.toValue := by
  simp [toValue, Value.mapTexts, Value.mapTextsFields, Range.mapTexts_toValue]

theorem Timeline.mapTexts_toValue (t : Timeline) : t.toValue.mapTexts f = t.toValue := by
  simp [toValue, Value.mapTexts, Value.mapTextsFields]

theorem FaultInjection.mapTexts_toValue (r : FaultInjection) :
    r.toValue.mapTexts f = r.toValue := by
  simp [toValue, Value.mapTexts, Value.mapTextsFields]

/-- The fields of a configuration with their texts changed are those of the changed one. -/
theorem Config.IsWritten.mapTexts {field : String → Option Value} {c : Config}
    (h : c.IsWritten field) : (c.mapTexts f).IsWritten fun key => (field key).map (·.mapTexts f) where
  outputDir := by rw [h.outputDir, Option.map_some, Value.mapTexts]; rfl
  targetCount := by rw [h.targetCount, Option.map_some]; simp [Value.mapTexts, Config.mapTexts]
  startIndex := by rw [h.startIndex, Option.map_some]; simp [Value.mapTexts, Config.mapTexts]
  seed := by
    rw [h.seed, Config.mapTexts, Option.map_map, Option.map_map]
    exact congrArg (Option.map · c.seed) (funext Seed.mapTexts_toValue)
  concurrency := by rw [h.concurrency, Option.map_some]; simp [Value.mapTexts, Config.mapTexts]
  skipExisting := by rw [h.skipExisting, Option.map_some]; simp [Value.mapTexts, Config.mapTexts]
  ranges := by rw [h.ranges, Option.map_some, Ranges.mapTexts_toValue]; rfl
  timeline := by rw [h.timeline, Option.map_some, Timeline.mapTexts_toValue]; rfl
  faultInjection := by rw [h.faultInjection, Option.map_some, FaultInjection.mapTexts_toValue]; rfl
  categories := by
    rw [h.categories, Option.map_some, Value.mapTexts_array_map Category.mapTexts_toValue]; rfl
  languages := by
    rw [h.languages, Option.map_some, Value.mapTexts_array_map Language.mapTexts_toValue]; rfl
  contributors := by
    rw [h.contributors, Option.map_some, Value.mapTexts_array_map Contributor.mapTexts_toValue]; rfl

theorem Config.mapTexts_toValue (c : Config) : c.toValue.mapTexts f = (c.mapTexts f).toValue := by
  cases hseed : c.seed <;>
    simp [toValue, toFields, Corpus.toFields, mapTexts, Value.mapTexts, Value.mapTextsFields, hseed,
      Seed.mapTexts_toValue, Ranges.mapTexts_toValue, Timeline.mapTexts_toValue,
      FaultInjection.mapTexts_toValue, Value.mapTextsItems_map Category.mapTexts_toValue,
      Value.mapTextsItems_map Language.mapTexts_toValue,
      Value.mapTextsItems_map Contributor.mapTexts_toValue]

end MapTexts

/-! ### Plain forms -/

section IsPlain

open Value

theorem Value.isPlain_array_map {α : Type} {write : α → Value} (h : ∀ a, (write a).IsPlain)
    (as : List α) : (Value.array (as.map write)).IsPlain :=
  .array (List.forall_mem_map.2 fun a _ => h a)

theorem Value.isPlain_strings (texts : List String) : (Value.strings texts).IsPlain :=
  isPlain_array_map .string texts

theorem Seed.isPlain_toValue (seed : Seed) : seed.toValue.IsPlain := by
  cases seed <;> constructor

theorem Contributor.isPlain_toValue (c : Contributor) : c.toValue.IsPlain :=
  .object (by simp) (by simp [IsPlain.string])

theorem Category.isPlain_toValue (c : Category) : c.toValue.IsPlain :=
  .object (by simp) (by simp [IsPlain.string, IsPlain.number, isPlain_strings])

theorem Language.isPlain_toValue (l : Language) : l.toValue.IsPlain :=
  .object (by simp) (by simp [IsPlain.string, IsPlain.number, isPlain_strings])

theorem Range.isPlain_toValue (r : Range) : r.toValue.IsPlain :=
  .array (by simp [IsPlain.number])

theorem Ranges.isPlain_toValue (r : Ranges) : r.toValue.IsPlain :=
  .object (by simp) (by simp [IsPlain.number, Range.isPlain_toValue])

theorem Timeline.isPlain_toValue (t : Timeline) : t.toValue.IsPlain :=
  .object (by simp) (by simp [IsPlain.number])

theorem FaultInjection.isPlain_toValue (r : FaultInjection) : r.toValue.IsPlain :=
  .object (by simp) (by simp [IsPlain.bool, IsPlain.number])

/-- The plain form of a configuration has no field `__proto__` anywhere. -/
theorem Config.isPlain_toValue (c : Config) : c.toValue.IsPlain := by
  refine .object (fun field hfield heq => ?_) ?_
  · exact absurd (heq ▸ c.keys_toFields field hfield) (by decide)
  · cases hseed : c.seed <;>
      simp [toFields, Corpus.toFields, hseed, IsPlain.string, IsPlain.number, IsPlain.bool,
        Seed.isPlain_toValue, Ranges.isPlain_toValue, Timeline.isPlain_toValue,
        FaultInjection.isPlain_toValue, isPlain_array_map Category.isPlain_toValue,
        isPlain_array_map Language.isPlain_toValue, isPlain_array_map Contributor.isPlain_toValue]

end IsPlain

/-! ### Settings replaced -/

namespace Overrides

variable {o : Overrides} {env : Environment} {c c' d : Config} {key : String}

/-- `c'` is `c` with the given settings in the place of its own, and everything else as in `c`. Of
    the faults only the probability is replaced. -/
structure Replaces (o : Overrides) (c c' : Config) : Prop where
  outputDir : .string c'.outputDir = o.outputDir.getD (.string c.outputDir)
  targetCount : .number c'.targetCount = o.targetCount.getD (.number c.targetCount)
  startIndex : .number c'.startIndex = o.startIndex.getD (.number c.startIndex)
  seed : c'.seed.map Seed.toValue = o.seed.or (c.seed.map Seed.toValue)
  concurrency : .number c'.concurrency = o.concurrency.getD (.number c.concurrency)
  skipExisting : .bool c'.skipExisting = o.skipExisting.getD (.bool c.skipExisting)
  enabled : c'.faultInjection.enabled = c.faultInjection.enabled
  probability : .number c'.faultInjection.probability =
    o.faultProbability.getD (.number c.faultInjection.probability)
  ranges : c'.ranges = c.ranges
  timeline : c'.timeline = c.timeline
  categories : c'.categories = c.categories
  languages : c'.languages = c.languages
  contributors : c'.contributors = c.contributors

/-- No setting replaces nothing. -/
theorem replaces_nothing (c : Config) : ({} : Overrides).Replaces c c :=
  ⟨rfl, rfl, rfl, rfl, rfl, rfl, rfl, rfl, rfl, rfl, rfl, rfl, rfl⟩

/-- The settings that are plain fields, by their names. -/
def settings (o : Overrides) : List (String × Option Value) :=
  [("outputDir", o.outputDir), ("targetCount", o.targetCount), ("startIndex", o.startIndex),
   ("seed", o.seed), ("concurrency", o.concurrency), ("skipExisting", o.skipExisting)]

theorem fields_eq_given : o.fields = Fields.given o.settings := rfl

theorem nodup_keys_settings : (o.settings.map Prod.fst).Nodup := by
  simp [settings]

theorem nodup_keys_fields : (o.fields.map Prod.fst).Nodup :=
  nodup_keys_settings.sublist (Fields.keys_given_sublist o.settings)

theorem mem_keys_of_mem_fields : ∀ setting ∈ o.fields, setting.1 ∈ Config.keys := by
  intro setting hmem
  have hname := (Fields.keys_given_sublist o.settings).subset (List.mem_map_of_mem hmem)
  have hkeys : ∀ name ∈ o.settings.map Prod.fst, name ∈ Config.keys := by
    simp [settings, Config.keys]
  exact hkeys _ hname

/-- The fields of a configuration with the settings laid over them. -/
def laid (o : Overrides) (c : Config) : Fields :=
  (o.fields.foldl (fun fields (key, value) => fields.set key value) c.toFields).set
    "faultInjection" (o.faults c.faultInjection)

theorem lay_eq : o.lay c = .object (o.laid c) := rfl

theorem get?_laid : Fields.get? key (o.laid c) = if "faultInjection" = key then
    some (o.faults c.faultInjection) else
      (Fields.get? key o.fields).or (Fields.get? key c.toFields) := by
  rw [laid, Fields.get?_set, Fields.get?_foldl_set nodup_keys_fields]

theorem nodup_keys_laid : ((o.laid c).map Prod.fst).Nodup :=
  Fields.nodup_set (Fields.foldl_set_induction (p := fun fields => (fields.map Prod.fst).Nodup)
    (fun _ h _ _ => Fields.nodup_set h) c.nodup_keys_toFields)

theorem mem_keys_of_mem_laid : ∀ field ∈ o.laid c, field.1 ∈ Config.keys := by
  refine Fields.forall_mem_set (Fields.foldl_set_induction (p := fun fields =>
    ∀ field ∈ fields, field.1 ∈ Config.keys) ?_ c.keys_toFields) (by decide)
  exact fun fields h setting hmem => Fields.forall_mem_set h (mem_keys_of_mem_fields setting hmem)

theorem get?_laid_of_mem (setting : Option Value) (hkey : "faultInjection" ≠ key)
    (h : (key, setting) ∈ o.settings) :
    Fields.get? key (o.laid c) = setting.or (Fields.get? key c.toFields) := by
  rw [get?_laid, if_neg hkey, fields_eq_given, Fields.get?_given nodup_keys_settings h]

theorem get?_laid_of_notMem (hkey : "faultInjection" ≠ key) (h : key ∉ o.settings.map Prod.fst) :
    Fields.get? key (o.laid c) = Fields.get? key c.toFields := by
  have hnone : Fields.get? key o.fields = none := Fields.get?_eq_none_iff.2 fun hmem =>
    h ((Fields.keys_given_sublist o.settings).subset hmem)
  rw [get?_laid, if_neg hkey, hnone, Option.none_or]

/-- What is laid over a configuration is the configuration with its settings replaced. -/
theorem Replaces.isWritten (h : o.Replaces c c') : c'.IsWritten (Fields.get? · (o.laid c)) := by
  have hc := c.isWritten_toFields
  constructor
  case outputDir =>
    rw [get?_laid_of_mem o.outputDir (by decide) (by simp [settings]), hc.outputDir, h.outputDir,
      Option.or_some]
  case targetCount =>
    rw [get?_laid_of_mem o.targetCount (by decide) (by simp [settings]), hc.targetCount, h.targetCount,
      Option.or_some]
  case startIndex =>
    rw [get?_laid_of_mem o.startIndex (by decide) (by simp [settings]), hc.startIndex, h.startIndex,
      Option.or_some]
  case concurrency =>
    rw [get?_laid_of_mem o.concurrency (by decide) (by simp [settings]), hc.concurrency, h.concurrency,
      Option.or_some]
  case skipExisting =>
    rw [get?_laid_of_mem o.skipExisting (by decide) (by simp [settings]), hc.skipExisting, h.skipExisting,
      Option.or_some]
  case seed =>
    rw [get?_laid_of_mem o.seed (by decide) (by simp [settings]), hc.seed, h.seed]
  case faultInjection =>
    rw [get?_laid, if_pos rfl, faults, ← h.probability, ← h.enabled]
    rfl
  case ranges =>
    rw [get?_laid_of_notMem (by decide) (by simp [settings]), hc.ranges, h.ranges]
  case timeline =>
    rw [get?_laid_of_notMem (by decide) (by simp [settings]), hc.timeline, h.timeline]
  case categories =>
    rw [get?_laid_of_notMem (by decide) (by simp [settings]), hc.categories, h.categories]
  case languages =>
    rw [get?_laid_of_notMem (by decide) (by simp [settings]), hc.languages, h.languages]
  case contributors =>
    rw [get?_laid_of_notMem (by decide) (by simp [settings]), hc.contributors, h.contributors]

end Overrides

namespace Environment

variable {env : Environment} {fields more : Fields}

/-- The variables of the texts that are found are set, when no name occurs twice. -/
theorem sets_object_iff (h : (fields.map Prod.fst).Nodup) :
    env.Sets (.object fields) ↔
      ∀ key value, Fields.get? key fields = some value → env.Sets value := by
  simp only [Fields.get?_eq_some_iff h]
  constructor
  · rintro (_ | _ | _ | _ | _ | hfields) key value hmem
    exact hfields (key, value) hmem
  · exact fun hfields => .object fun field hmem => hfields field.1 field.2 hmem

/-- Records in which the same is found need the same variables. -/
theorem sets_object_congr (hfields : (fields.map Prod.fst).Nodup) (hmore : (more.map Prod.fst).Nodup)
    (h : ∀ key, Fields.get? key fields = Fields.get? key more) :
    env.Sets (.object fields) ↔ env.Sets (.object more) := by
  simp only [sets_object_iff hfields, sets_object_iff hmore, h]

end Environment

/-- Loading a plain source gives what is read once the variables are put in. -/
theorem Config.load_eq_ok_iff_sets {env : Environment} {source : Value} {c : Config}
    (hplain : source.IsPlain) :
    load env source = .ok c ↔
      env.Sets source ∧ (read ⟨some (source.mapTexts env.resolve), []⟩).Gives c := by
  simp [load_eq_ok_iff, Environment.interpolate_eq_ok_iff, and_assoc,
    (hplain.mapTexts env.resolve).built_eq]

/-- Putting variables into the plain form of a configuration changes its texts. -/
theorem Config.interpolate_toValue_eq_ok_iff {env : Environment} {c : Config} {v : Value} :
    c.toValue.interpolate env [] = .ok v ↔
      env.Sets c.toValue ∧ (c.mapTexts env.resolve).toValue = v := by
  rw [Environment.interpolate_eq_ok_iff, Config.mapTexts_toValue, (isPlain_toValue _).built_eq]

namespace Overrides

variable {o : Overrides} {env : Environment} {c c' d : Config} {source : Value}

/-- What is found in the fields laid over a configuration is found in the replaced one. -/
theorem Replaces.get?_laid_eq (h : o.Replaces c c') (key : String) :
    Fields.get? key (o.laid c) = Fields.get? key c'.toFields := by
  by_cases hkey : key ∈ Config.keys
  · exact h.isWritten.eq_get?_toFields hkey
  · rw [Fields.get?_eq_none_iff.2 fun hmem => hkey (List.forall_mem_map.2 mem_keys_of_mem_laid _ hmem),
      Fields.get?_eq_none_iff.2 fun hmem => hkey (List.forall_mem_map.2 c'.keys_toFields _ hmem)]

/-- What is laid over a configuration has no field `__proto__` anywhere. -/
theorem Replaces.isPlain_lay (h : o.Replaces c c') : (o.lay c).IsPlain := by
  have hplain : ∀ field ∈ c'.toFields, field.2.IsPlain := by
    rcases c'.isPlain_toValue with _ | _ | _ | _ | _ | ⟨-, hplain⟩
    exact hplain
  refine .object (fun field hmem heq => ?_) fun field hmem => ?_
  · exact absurd (heq ▸ mem_keys_of_mem_laid field hmem) (by decide)
  · -- the field is found in the replaced configuration as well
    have hget := (Fields.get?_eq_some_iff nodup_keys_laid).2 (show (field.1, field.2) ∈ _ from hmem)
    rw [h.get?_laid_eq, Fields.get?_eq_some_iff c'.nodup_keys_toFields] at hget
    exact hplain _ hget

/-- The second loading puts the variables into the configuration with its settings replaced; the
    result must keep the rules again. -/
theorem apply_eq_ok_iff (h : o.Replaces c c') : o.apply env (some c) = .ok d ↔
    env.Sets c'.toValue ∧ d = c'.mapTexts env.resolve ∧ Config.IsValid d.toValue := by
  let fields := (o.laid c).map fun field => (field.1, field.2.mapTexts env.resolve)
  have hsets : env.Sets (o.lay c) ↔ env.Sets c'.toValue :=
    Environment.sets_object_congr nodup_keys_laid c'.nodup_keys_toFields h.get?_laid_eq
  have hlaid : (o.lay c).mapTexts env.resolve = .object fields := by
    rw [lay_eq, Value.mapTexts, Value.mapTextsFields_eq_map]
  have hknown : ∀ field ∈ fields, field.1 ∈ Config.keys :=
    List.forall_mem_map.2 fun field hmem => mem_keys_of_mem_laid field hmem
  have hwritten : (c'.mapTexts env.resolve).IsWritten (Fields.get? · fields) := by
    have hget : (Fields.get? · fields) =
        fun key => (Fields.get? key (o.laid c)).map (·.mapTexts env.resolve) :=
      funext fun key => Value.get?_mapFields (fun _ value => value.mapTexts env.resolve) key
        (.object (o.laid c))
    rw [hget]
    exact h.isWritten.mapTexts
  calc
    o.apply env (some c) = .ok d ↔ Config.load env (o.lay c) = .ok d := Iff.rfl
    _ ↔ env.Sets c'.toValue ∧ (Config.read ⟨some (.object fields), []⟩).Gives d := by
      rw [Config.load_eq_ok_iff_sets h.isPlain_lay, hsets, hlaid]
    _ ↔ env.Sets c'.toValue ∧ d = c'.mapTexts env.resolve ∧ Config.IsValid d.toValue := by
      rw [Config.gives_iff_of_isWritten hknown hwritten]
      refine and_congr_right fun _ => and_congr_right ?_
      rintro rfl
      rfl

/-- Flags replace settings of a loaded configuration and change nothing else, just when putting
    variables into the result changes nothing. That is so when no text of it names a variable. -/
theorem apply_eq_replaced_iff (hload : Config.load env source = .ok c) (h : o.Replaces c c')
    (hvalid : Config.IsValid c'.toValue) :
    (o.apply env (some c) = .ok c' ↔ c'.toValue.interpolate env [] = .ok c'.toValue) ∧
      (Environment.Sets [] c'.toValue → o.apply env (some c) = .ok c') ∧
      (({} : Overrides).apply env (some c) = .ok c ↔
        c.toValue.interpolate env [] = .ok c.toValue) := by
  have hkept : ∀ {o : Overrides} {c' : Config}, o.Replaces c c' → Config.IsValid c'.toValue →
      (o.apply env (some c) = .ok c' ↔ c'.toValue.interpolate env [] = .ok c'.toValue) := by
    intro o c' h hvalid
    rw [apply_eq_ok_iff h, Config.interpolate_toValue_eq_ok_iff]
    refine and_congr_right fun _ => ⟨fun ⟨hsame, _⟩ => by rw [← hsame], fun hsame => ?_⟩
    -- the plain form says which configuration it is of, as reading it shows
    have hread : (Config.read ⟨some (c'.mapTexts env.resolve).toValue, []⟩).Gives c' := by
      rw [hsame]
      exact Config.gives_toValue_iff.2 ⟨rfl, hvalid⟩
    exact ⟨(Config.gives_toValue_iff.1 hread).1, hvalid⟩
  refine ⟨hkept h hvalid, fun hnone => ?_,
    hkept (replaces_nothing c) (Config.isValid_toValue hload)⟩
  obtain ⟨hsets, hsame⟩ := hnone.of_nil env
  rw [Config.mapTexts_toValue] at hsame
  exact (hkept h hvalid).2 (Config.interpolate_toValue_eq_ok_iff.2 ⟨hsets, hsame⟩)

theorem apply_eq_replaced_iff_outputDir :
    let made : Overrides := { outputDir := some (.string "made") }
    let env : Environment := [("USER", "out")]
    let tables : Fields :=
      [("categories", .array [.object [("name", .string "tools"), ("count", .number 1),
          ("templates", .strings ["cli"])]]),
       ("languages", .array [.object [("name", .string "ada"), ("weight", .number 1),
          ("extensions", .strings [".adb"])]]),
       ("contributors", .array [.object [("name", .string "Ada"),
          ("email", .string "ada@example.com")]])]
    ∃ c c' : Config, Config.load env (.object tables) = .ok c ∧ made.Replaces c c' ∧
      Config.IsValid c'.toValue ∧ Environment.Sets [] c'.toValue ∧
      made.apply env (some c) = .ok c' := by
  intro made env tables
  let c : Config :=
    { Config.standard with
      categories := [⟨"tools", 1, ["cli"]⟩]
      languages := [⟨"ada", 1, [".adb"]⟩]
      contributors := [⟨"Ada", "ada@example.com"⟩] }
  let c' : Config := { c with outputDir := "made" }
  have hload : Config.load env (.object tables) = .ok c := rfl
  have hmade : Config.load env (.object (("outputDir", .string "made") :: tables)) = .ok c' := rfl
  have hreplaces : made.Replaces c c' :=
    ⟨rfl, rfl, rfl, rfl, rfl, rfl, rfl, rfl, rfl, rfl, rfl, rfl, rfl⟩
  have hvalid : Config.IsValid c'.toValue := Config.isValid_toValue hmade
  have hkept : c'.toValue.interpolate [] [] = .ok c'.toValue := by
    simp only [c', c]
    rfl
  have hnone := Environment.sets_of_interpolate_eq_ok _ hkept
  exact ⟨c, c', hload, hreplaces, hvalid, hnone,
    (apply_eq_replaced_iff hload hreplaces hvalid).2.1 hnone⟩

/-- A text that names a variable is not kept: neither one of a flag, nor one that a variable put
    into the configuration. -/
theorem apply_ne_replaced_user :
    let user : Overrides := { outputDir := some (.string "$\x7bUSER\x7d") }
    let env : Environment := [("DIR", "$\x7bUSER\x7d"), ("USER", "out")]
    (∃ c c' : Config, Config.load env (.object []) = .ok c ∧ user.Replaces c c' ∧
      Config.IsValid c'.toValue ∧ user.apply env (some c) ≠ .ok c') ∧
    ∃ c, Config.load env (.object [("outputDir", .string "$\x7bDIR\x7d")]) = .ok c ∧
      ({} : Overrides).apply env (some c) ≠ .ok c := by
  intro user env
  let named : Config := { Config.standard with outputDir := "$\x7bUSER\x7d" }
  have hload : Config.load env (.object [("outputDir", .string "$\x7bDIR\x7d")]) = .ok named := rfl
  have hreplaces : user.Replaces Config.standard named :=
    ⟨rfl, rfl, rfl, rfl, rfl, rfl, rfl, rfl, rfl, rfl, rfl, rfl, rfl⟩
  -- the directory is the value of the variable, and not the text that names it
  have hne : ∀ {o : Overrides} {c : Config}, o.Replaces c named →
      o.apply env (some c) ≠ .ok named := fun h heq => by
    obtain ⟨-, hsame, -⟩ := (apply_eq_ok_iff h).1 heq
    have hdir : "$\x7bUSER\x7d" = env.resolve "$\x7bUSER\x7d" := congrArg Config.outputDir hsame
    exact absurd hdir (by decide)
  exact ⟨⟨_, named, rfl, hreplaces, Config.isValid_toValue hload, hne hreplaces⟩,
    named, hload, hne (replaces_nothing named)⟩

end Overrides

end CorpusForge
