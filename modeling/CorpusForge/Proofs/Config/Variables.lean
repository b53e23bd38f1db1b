import CorpusForge.Proofs.Config.Fields
import CorpusForge.Proofs.Text

/-!
# Sources whose variables are set

An environment *sets* a source when it has every variable that a text of the source names
(`Environment.Sets`). Then putting in the variables replaces each reference by its value, in every
text of the source, and builds every record of it anew. That changes nothing else, as long as no
record has a field `__proto__` (`Value.IsPlain`).

* `Environment.resolve`: a text with the values in the place of the references;
* `Value.mapTexts`: a value with every text changed;
* `Value.built`: a value with every record built anew;
* `Environment.Sets.interpolate_eq`: the variables put in.
-/

namespace CorpusForge

namespace Value

mutual

/-- A value with every text in it changed. -/
def mapTexts (f : String → String) : Value → Value
  | .string s => .string (f s)
  | .array items => .array (mapTextsItems f items)
  | .object fields => .object (mapTextsFields f fields)
  | v => v

def mapTextsItems (f : String → String) : List Value → List Value
  | [] => []
  | item :: rest => mapTexts f item :: mapTextsItems f rest

def mapTextsFields (f : String → String) : List (String × Value) → List (String × Value)
  | [] => []
  | (key, item) :: rest => (key, mapTexts f item) :: mapTextsFields f rest

end

theorem mapTextsItems_eq_map (f : String → String) (items : List Value) :
    mapTextsItems f items = items.map (mapTexts f) := by
  induction items with
  | nil => rw [mapTextsItems, List.map_nil]
  | cons item rest ih => rw [mapTextsItems, ih, List.map_cons]

theorem mapTextsFields_eq_map (f : String → String) (fields : Fields) :
    mapTextsFields f fields = fields.map fun field => (field.1, field.2.mapTexts f) := by
  induction fields with
  | nil => rw [mapTextsFields, List.map_nil]
  | cons field rest ih => rw [mapTextsFields, ih, List.map_cons]

/-! ### Records built anew -/

mutual

/-- A value with every record in it built anew. -/
def built : Value → Value
  | .array items => .array (builtItems items)
  | .object fields => .object (Fields.built (builtFields fields))
  | v => v

def builtItems : List Value → List Value
  | [] => []
  | item :: rest => built item :: builtItems rest

def builtFields : List (String × Value) → List (String × Value)
  | [] => []
  | (key, item) :: rest => (key, built item) :: builtFields rest

end

theorem builtItems_eq_map (items : List Value) : builtItems items = items.map built := by
  induction items with
  | nil => rw [builtItems, List.map_nil]
  | cons item rest ih => rw [builtItems, ih, List.map_cons]

theorem builtFields_eq_map (fields : Fields) :
    builtFields fields = fields.map fun field => (field.1, field.2.built) := by
  induction fields with
  | nil => rw [builtFields, List.map_nil]
  | cons field rest ih => rw [builtFields, ih, List.map_cons]

/-- No record in the value has a field `__proto__`. -/
inductive IsPlain : Value → Prop
  | null : IsPlain .null
  | bool (b : Bool) : IsPlain (.bool b)
  | number (n : Number) : IsPlain (.number n)
  | string (s : String) : IsPlain (.string s)
  | array {items : List Value} (h : ∀ item ∈ items, IsPlain item) : IsPlain (.array items)
  | object {fields : Fields} (hkeys : ∀ field ∈ fields, field.1 ≠ "__proto__")
    (h : ∀ field ∈ fields, IsPlain field.2) : IsPlain (.object fields)

/-- A plain value stays as it is when its records are built anew. -/
theorem IsPlain.built_eq {v : Value} (h : v.IsPlain) : v.built = v := by
  induction h with
  | null | bool | number | string => rw [built] <;> exact nofun
  | array _ ih => rw [built, builtItems_eq_map, List.map_congr_left ih, List.map_id']
  | object hkeys _ ih =>
    rw [built, builtFields_eq_map, List.map_congr_left fun field hfield =>
      congrArg (Prod.mk field.1) (ih field hfield), List.map_id', Fields.built_eq_self hkeys]

/-- A change of its texts leaves a value plain. -/
theorem IsPlain.mapTexts {v : Value} (h : v.IsPlain) (f : String → String) :
    (v.mapTexts f).IsPlain := by
  induction h with
  | null | bool | number | string => simp only [Value.mapTexts]; constructor
  | array _ ih =>
    rw [Value.mapTexts, mapTextsItems_eq_map]
    exact .array (List.forall_mem_map.2 ih)
  | object hkeys _ ih =>
    rw [Value.mapTexts, mapTextsFields_eq_map]
    exact .object (List.forall_mem_map.2 hkeys) (List.forall_mem_map.2 ih)

end Value

namespace Environment

variable {env : Environment}

/-- A text with the values of variables in the place of the references to them. -/
def resolve (env : Environment) (text : String) : String :=
  String.ofList ((variableStyle.scan text.toList).flatMap (Piece.filled env.get?))

/-- The variables that a text names are set. -/
def Fills (env : Environment) (text : String) : Prop :=
  ∀ name, .reference name ∈ variableStyle.scan text.toList →
    ∃ value, env.get? (String.ofList name) = some value

/-- The variables that the texts of a value name are set. -/
inductive Sets (env : Environment) : Value → Prop
  | null : Sets env .null
  | bool (b : Bool) : Sets env (.bool b)
  | number (n : Number) : Sets env (.number n)
  | string {text : String} (h : env.Fills text) : Sets env (.string text)
  | array {items : List Value} (h : ∀ item ∈ items, Sets env item) : Sets env (.array items)
  | object {fields : Fields} (h : ∀ field ∈ fields, Sets env field.2) : Sets env (.object fields)

theorem Fills.interpolate_eq {text : String} (h : env.Fills text) (path : List String) :
    interpolate env path text = .ok (env.resolve text) := by
  have hfill : ReferenceStyle.fill env.get? (variableStyle.scan text.toList) =
      .ok ((variableStyle.scan text.toList).flatMap (Piece.filled env.get?)) :=
    ReferenceStyle.fill_eq h
  rw [interpolate, ReferenceStyle.expand, hfill]
  rfl

theorem interpolateItems_eq {items : List Value}
    (h : ∀ item ∈ items, ∀ path,
      item.interpolate env path = .ok (item.mapTexts env.resolve).built)
    (path : List String) (index : Nat) :
    Value.interpolateItems env path index items =
      .ok (Value.builtItems (Value.mapTextsItems env.resolve items)) := by
  induction items generalizing index with
  | nil => rw [Value.interpolateItems, Value.mapTextsItems, Value.builtItems]
  | cons item rest ih =>
    obtain ⟨hitem, hrest⟩ := List.forall_mem_cons.1 h
    rw [Value.interpolateItems, hitem, ih hrest, Value.mapTextsItems, Value.builtItems]
    rfl

theorem interpolateFields_eq {fields : Fields}
    (h : ∀ field ∈ fields, ∀ path,
      field.2.interpolate env path = .ok (field.2.mapTexts env.resolve).built)
    (path : List String) :
    Value.interpolateFields env path fields =
      .ok (Value.builtFields (Value.mapTextsFields env.resolve fields)) := by
  induction fields with
  | nil => rw [Value.interpolateFields, Value.mapTextsFields, Value.builtFields]
  | cons field rest ih =>
    obtain ⟨hfield, hrest⟩ := List.forall_mem_cons.1 h
    rw [Value.interpolateFields, hfield, ih hrest, Value.mapTextsFields, Value.builtFields]
    rfl

/-- With every variable set, the variables are put in. -/
theorem Sets.interpolate_eq {source : Value} (h : env.Sets source) (path : List String) :
    source.interpolate env path = .ok (source.mapTexts env.resolve).built := by
  induction h generalizing path with
  | null | bool | number => simp [Value.interpolate, Value.mapTexts, Value.built]
  | string htext =>
    rw [Value.interpolate, htext.interpolate_eq, Value.mapTexts, Value.built]
    · rfl
    all_goals exact nofun
  | array _ ih =>
    rw [Value.interpolate, interpolateItems_eq ih, Value.mapTexts, Value.built]
    rfl
  | object _ ih =>
    rw [Value.interpolate, interpolateFields_eq ih, Value.mapTexts, Value.built]
    rfl

theorem fills_of_interpolate_eq_ok {text filled : String} {path : List String}
    (h : interpolate env path text = .ok filled) : env.Fills text := by
  rw [interpolate, ReferenceStyle.expand] at h
  cases hfill : ReferenceStyle.fill env.get? (variableStyle.scan text.toList) with
  | error name => simp [hfill, bind, Except.bind] at h
  | ok cs => exact ReferenceStyle.exists_value_of_fill hfill

mutual

/-- When the variables are put in, every one of them is set. -/
theorem sets_of_interpolate_eq_ok {path : List String} {value : Value} :
    (source : Value) → source.interpolate env path = .ok value → env.Sets source
  | .null, _ => .null
  | .bool b, _ => .bool b
  | .number n, _ => .number n
  | .string s, h => by
    rw [Value.interpolate] at h
    cases hs : interpolate env path s with
    | error failure => simp [hs, Except.map] at h
    | ok filled => exact .string (fills_of_interpolate_eq_ok hs)
  | .array items, h => by
    rw [Value.interpolate] at h
    cases hitems : Value.interpolateItems env path 0 items with
    | error failure => simp [hitems, Except.map] at h
    | ok filled => exact .array (sets_of_interpolateItems_eq_ok items hitems)
  | .object fields, h => by
    rw [Value.interpolate] at h
    cases hfields : Value.interpolateFields env path fields with
    | error failure => simp [hfields, Except.map] at h
    | ok filled => exact .object (sets_of_interpolateFields_eq_ok fields hfields)

theorem sets_of_interpolateItems_eq_ok {path : List String} {index : Nat} {filled : List Value} :
    (items : List Value) → Value.interpolateItems env path index items = .ok filled →
      ∀ item ∈ items, env.Sets item
  | [], _ => List.forall_mem_nil _
  | item :: rest, h => by
    rw [Value.interpolateItems] at h
    cases hitem : item.interpolate env (path ++ [Decimal.natText index]) with
    | error failure => simp [hitem, bind, Except.bind] at h
    | ok first =>
      cases hrest : Value.interpolateItems env path (index + 1) rest with
      | error failure => simp [hitem, hrest, bind, Except.bind] at h
      | ok more =>
        have hall := sets_of_interpolateItems_eq_ok rest hrest
        exact List.forall_mem_cons.2 ⟨sets_of_interpolate_eq_ok item hitem, hall⟩

theorem sets_of_interpolateFields_eq_ok {path : List String} {filled : Fields} :
    (fields : Fields) → Value.interpolateFields env path fields = .ok filled →
      ∀ field ∈ fields, env.Sets field.2
  | [], _ => List.forall_mem_nil _
  | (key, item) :: rest, h => by
    rw [Value.interpolateFields] at h
    cases hitem : item.interpolate env (path ++ [key]) with
    | error failure => simp [hitem, bind, Except.bind] at h
    | ok first =>
      cases hrest : Value.interpolateFields env path rest with
      | error failure => simp [hitem, hrest, bind, Except.bind] at h
      | ok more =>
        have hall := sets_of_interpolateFields_eq_ok rest hrest
        exact List.forall_mem_cons.2 ⟨sets_of_interpolate_eq_ok item hitem, hall⟩

end

/-- Putting in the variables says that all of them are set, and replaces the references. -/
theorem interpolate_eq_ok_iff {source value : Value} {path : List String} :
    source.interpolate env path = .ok value ↔
      env.Sets source ∧ (source.mapTexts env.resolve).built = value := by
  constructor
  · intro h
    have hsets := sets_of_interpolate_eq_ok source h
    exact ⟨hsets, Except.ok.inj ((hsets.interpolate_eq path).symm.trans h)⟩
  · rintro ⟨hsets, rfl⟩
    exact hsets.interpolate_eq path

/-! ### Texts that name no variable -/

/-- A text whose variables are all set where none is names none, and is kept. -/
theorem Fills.of_nil {text : String} (h : Fills [] text) (env : Environment) :
    env.Fills text ∧ env.resolve text = text := by
  have hnone : ∀ name, .reference name ∉ variableStyle.scan text.toList := fun name hmem => by
    obtain ⟨value, hvalue⟩ := h name hmem
    exact nomatch hvalue
  refine ⟨fun name hmem => absurd hmem (hnone name), ?_⟩
  rw [resolve, ReferenceStyle.scan_eq_map_literal hnone, List.flatMap_map]
  have hliteral : (fun c => Piece.filled env.get? (.literal c)) = fun c => [c] := rfl
  rw [hliteral, List.flatMap_singleton', String.ofList_toList]

/-- A source whose variables are all set where none is stays as it is in every environment. -/
theorem Sets.of_nil {source : Value} (h : Sets [] source) (env : Environment) :
    env.Sets source ∧ source.mapTexts env.resolve = source := by
  induction h with
  | null | bool | number => exact ⟨by constructor, by simp [Value.mapTexts]⟩
  | string htext =>
    obtain ⟨hfills, hresolve⟩ := htext.of_nil env
    exact ⟨.string hfills, by rw [Value.mapTexts, hresolve]⟩
  | array _ ih =>
    refine ⟨.array fun item hitem => (ih item hitem).1, ?_⟩
    rw [Value.mapTexts, Value.mapTextsItems_eq_map, List.map_congr_left fun item hitem =>
      (ih item hitem).2, List.map_id']
  | object _ ih =>
    refine ⟨.object fun field hfield => (ih field hfield).1, ?_⟩
    rw [Value.mapTexts, Value.mapTextsFields_eq_map, List.map_congr_left fun field hfield =>
      congrArg (Prod.mk field.1) (ih field hfield).2, List.map_id']

end Environment

end CorpusForge
