import CorpusForge.Config.Load
import Mathlib.Data.List.Nodup

/-!
# Records whose fields are set

The fields of a record are looked up by their names. Setting a field changes what is found under its
name and nothing else, and never makes a name occur twice. In a record that is built from fields,
setting `__proto__` adds what is found in its value.

* `Fields.get?_set`, `Fields.get?_foldl_set`: what is found after one field or several are set;
* `Fields.get?_eq_some_iff`: what is found, when no name occurs twice;
* `Fields.get?_built`, `Fields.built_eq_self`: what is found in a record that is built;
* `Fields.given`: the settings that are given, of several that may be.
-/

namespace CorpusForge

namespace Fields

variable {key name : String} {value : Value} {fields settings : Fields}

theorem get?_set (key name : String) (value : Value) (fields : Fields) :
    get? key (set name value fields) = if name = key then some value else get? key fields := by
  induction fields with
  | nil => rfl
  | cons field rest ih =>
    obtain ⟨other, old⟩ := field
    by_cases hname : other = name
    · subst hname
      simp only [set, if_pos, get?]
      split <;> rfl
    · simp only [set, if_neg hname, get?, ih]
      by_cases hkey : other = key
      · subst hkey
        rw [if_pos rfl, if_neg (Ne.symm hname), if_pos rfl]
      · rw [if_neg hkey, if_neg hkey]

theorem keys_set : (set name value fields).map Prod.fst =
    if name ∈ fields.map Prod.fst then fields.map Prod.fst else fields.map Prod.fst ++ [name] := by
  induction fields with
  | nil => rfl
  | cons field rest ih =>
    obtain ⟨other, old⟩ := field
    by_cases hname : other = name
    · simp [set, hname]
    · simp only [set, if_neg hname, List.map_cons, ih, List.mem_cons, Ne.symm hname, false_or]
      split <;> rfl

theorem nodup_set (h : (fields.map Prod.fst).Nodup) :
    ((set name value fields).map Prod.fst).Nodup := by
  rw [keys_set]
  split
  next => exact h
  next hmem =>
    rw [← List.concat_eq_append]
    exact h.concat hmem

theorem forall_mem_set {p : String → Prop} (hfields : ∀ field ∈ fields, p field.1) (hname : p name) :
    ∀ field ∈ set name value fields, p field.1 := by
  have hkeys : ∀ other ∈ (set name value fields).map Prod.fst, p other := by
    rw [keys_set]
    split
    next => exact List.forall_mem_map.2 hfields
    next =>
      refine List.forall_mem_append.2 ⟨List.forall_mem_map.2 hfields, ?_⟩
      exact List.forall_mem_singleton.2 hname
  exact List.forall_mem_map.1 hkeys

theorem get?_eq_none_iff : get? key fields = none ↔ key ∉ fields.map Prod.fst := by
  induction fields with
  | nil => simp [get?]
  | cons field rest ih =>
    by_cases heq : field.1 = key
    · simp [get?, heq]
    · simp [get?, heq, Ne.symm heq, ih]

theorem get?_eq_some_iff (h : (fields.map Prod.fst).Nodup) :
    get? key fields = some value ↔ (key, value) ∈ fields := by
  induction fields with
  | nil => simp [get?]
  | cons field rest ih =>
    obtain ⟨other, old⟩ := field
    obtain ⟨hother, hrest⟩ := List.nodup_cons.1 h
    by_cases heq : other = key
    · subst heq
      have hnot : (other, value) ∉ rest := fun hmem =>
        hother (List.mem_map.2 ⟨(other, value), hmem, rfl⟩)
      simp [get?, hnot, eq_comm]
    · simp [get?, heq, Ne.symm heq, ih hrest]

theorem get?_append (key : String) (fields more : Fields) :
    get? key (fields ++ more) = (get? key fields).or (get? key more) := by
  induction fields with
  | nil => rfl
  | cons field rest ih =>
    simp only [List.cons_append, get?]
    split
    · rfl
    · exact ih

theorem get?_filter {key : String} {keep : String → Bool} (hkeep : keep key = true)
    (fields : Fields) :
    get? key (fields.filter fun field => keep field.1) = get? key fields := by
  induction fields with
  | nil => rfl
  | cons field rest ih =>
    rw [List.filter_cons]
    by_cases heq : field.1 = key
    · simp [get?, heq, hkeep]
    · split <;> simp [get?, heq, ih]

/-- Of two records laid behind each other, the first hides the fields of the second. -/
theorem get?_append_filter (key : String) (fields more : Fields) :
    get? key (fields ++ more.filter fun field => (get? field.1 fields).isNone) =
      (get? key fields).or (get? key more) := by
  rw [get?_append]
  cases h : get? key fields with
  | some value => rfl
  | none =>
    have hkeep : (get? key fields).isNone = true := by rw [h]; rfl
    rw [Option.none_or, Option.none_or, @get?_filter key (fun k => (get? k fields).isNone) hkeep]

/-- In a record that is built, the fields are found that are set, and behind them what is found in
    the value that `__proto__` was set to. -/
theorem get?_built (hkey : key ≠ "__proto__") :
    get? key (built fields) =
      (get? key fields).or ((get? "__proto__" fields).bind fun v => get? key v.inherited) := by
  have hown : get? key (fields.drop "__proto__") = get? key fields :=
    @get?_filter key (fun k => k != "__proto__") (by simpa using hkey) fields
  rw [built, get?_append_filter, hown]
  cases get? "__proto__" fields <;> rfl

/-- A record without a field `__proto__` is built as it stands. -/
theorem built_eq_self (hkeys : ∀ field ∈ fields, field.1 ≠ "__proto__") : built fields = fields := by
  have hown : fields.drop "__proto__" = fields :=
    List.filter_eq_self.2 fun field hmem => by simpa using hkeys field hmem
  have hnone : get? "__proto__" fields = none := get?_eq_none_iff.2 fun hmem => by
    obtain ⟨field, hfield, heq⟩ := List.mem_map.1 hmem
    exact hkeys field hfield heq
  rw [built, hown, hnone]
  exact List.append_nil fields

/-- Settings laid over fields, one after the other. -/
theorem get?_foldl_set (h : (settings.map Prod.fst).Nodup) (fields : Fields) :
    get? key (settings.foldl (fun fields (name, value) => fields.set name value) fields) =
      (get? key settings).or (get? key fields) := by
  induction settings generalizing fields with
  | nil => rfl
  | cons setting rest ih =>
    obtain ⟨name, value⟩ := setting
    obtain ⟨hname, hrest⟩ := List.nodup_cons.1 h
    rw [List.foldl_cons, ih hrest, get?_set]
    by_cases heq : name = key
    · subst heq
      rw [get?_eq_none_iff.2 hname]
      simp [get?]
    · simp [get?, heq]

/-- What every setting that is laid over keeps, all of them keep. -/
theorem foldl_set_induction {p : Fields → Prop}
    (hset : ∀ fields, p fields → ∀ setting ∈ settings, p (fields.set setting.1 setting.2))
    (hfields : p fields) :
    p (settings.foldl (fun fields (name, value) => fields.set name value) fields) := by
  induction settings generalizing fields with
  | nil => exact hfields
  | cons setting rest ih =>
    exact ih (fun fields hp other hmem => hset fields hp other (.tail _ hmem))
      (hset fields hfields setting (.head _))

/-- The settings that are given, of several that may be. -/
def given (settings : List (String × Option Value)) : Fields :=
  settings.filterMap fun (name, setting) => setting.map fun value => (name, value)

theorem keys_given_sublist (settings : List (String × Option Value)) :
    ((given settings).map Prod.fst).Sublist (settings.map Prod.fst) := by
  induction settings with
  | nil => exact .slnil
  | cons setting rest ih =>
    obtain ⟨name, value⟩ := setting
    cases value with
    | none => exact ih.cons name
    | some value => exact ih.cons_cons name

theorem get?_given {settings : List (String × Option Value)} {setting : Option Value}
    (h : (settings.map Prod.fst).Nodup) (hmem : (key, setting) ∈ settings) :
    get? key (given settings) = setting := by
  induction settings with
  | nil => exact nomatch hmem
  | cons head rest ih =>
    obtain ⟨name, value⟩ := head
    obtain ⟨hname, hrest⟩ := List.nodup_cons.1 h
    rcases List.mem_cons.1 hmem with heq | hrestMem
    · cases heq
      cases setting with
      | some value => simp [given, get?]
      | none =>
        refine get?_eq_none_iff.2 fun hkey => hname ((keys_given_sublist rest).subset ?_)
        simpa [given] using hkey
    · have hne : name ≠ key := fun heq =>
        hname (List.mem_map.2 ⟨(key, setting), hrestMem, heq.symm⟩)
      cases value with
      | none => exact ih hrest hrestMem
      | some value =>
        rw [← ih hrest hrestMem]
        simp [given, get?, hne]

end Fields

end CorpusForge
