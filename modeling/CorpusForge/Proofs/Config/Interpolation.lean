import CorpusForge.Proofs.Config.Variables
import CorpusForge.Proofs.Text.Reference

/-!
# Variables put into a source

A source is walked in the order of its items and fields. Each text in it is split at its references
and these are replaced once, so that what a variable holds is not looked at again; all else stays as
it is, but for records with a field `__proto__`, which lose it when they are built anew. The first
mention of a variable that is not set stops the walk, and is told with the path of its text.

* `Value.texts`: the texts of a source with their paths, in walking order;
* `Environment.grant`: what comes of a source that mentions variables;
* `Value.interpolate_eq_grant`: the variables put into a source;
* `Config.interpolates_once`: the same for a configuration that is loaded;
* `Config.interpolate_ne_mapTexts`: a field that is lost.
-/

namespace CorpusForge

/-- The closing brace is not part of a variable's name. -/
theorem variableStyle_endsNames : variableStyle.EndsNames := ⟨'\x7d', [], rfl, rfl⟩

/-- A variable that a source mentions, and the path of the text in which it does. -/
structure Mention where
  path : List String
  name : String

/-- The variables that texts mention, given how a text is split. -/
def mentions (split : String → List Piece) (texts : List (List String × String)) : List Mention :=
  texts.flatMap fun text => (ReferenceStyle.names (split text.2)).map (Mention.mk text.1)

theorem mentions_append (split : String → List Piece) (texts texts' : List (List String × String)) :
    mentions split (texts ++ texts') = mentions split texts ++ mentions split texts' :=
  List.flatMap_append

namespace Value

mutual

/-- The texts in a value with their paths, in walking order. -/
def texts (path : List String) : Value → List (List String × String)
  | .string s => [(path, s)]
  | .array items => textsItems path 0 items
  | .object fields => textsFields path fields
  | _ => []

def textsItems (path : List String) : (index : Nat) → List Value → List (List String × String)
  | _, [] => []
  | index, item :: rest =>
    texts (path ++ [Decimal.natText index]) item ++ textsItems path (index + 1) rest

def textsFields (path : List String) : List (String × Value) → List (List String × String)
  | [] => []
  | (key, item) :: rest => texts (path ++ [key]) item ++ textsFields path rest

end

end Value

namespace Environment

/-- The first mention of a variable that is not set. -/
def firstUnset? (env : Environment) (mentioned : List Mention) : Option Mention :=
  mentioned.find? fun mention => (env.get? mention.name).isNone

/-- What is made of something that mentions variables: the failure that tells the first one that is
    not set, if there is one. -/
def grant {α : Type} (env : Environment) (mentioned : List Mention) (made : α) :
    Except Failure α :=
  match env.firstUnset? mentioned with
  | none => .ok made
  | some mention => .error (.secretMissing mention.name mention.path)

variable {α β γ : Type}

theorem map_grant (env : Environment) (f : α → β) (mentioned : List Mention) (made : α) :
    (env.grant mentioned made).map f = env.grant mentioned (f made) := by
  rw [grant, grant]
  cases env.firstUnset? mentioned <;> rfl

/-- Of two things that are made one after the other, the first is told first. -/
theorem grant_append (env : Environment) (f : α → β → γ) (mentioned mentioned' : List Mention)
    (a : α) (b : β) :
    env.grant (mentioned ++ mentioned') (f a b) =
      (do
        let a ← env.grant mentioned a
        let b ← env.grant mentioned' b
        return f a b) := by
  simp only [grant, firstUnset?, List.find?_append]
  cases mentioned.find? fun mention => (env.get? mention.name).isNone with
  | some mention => rfl
  | none => cases mentioned'.find? fun mention => (env.get? mention.name).isNone <;> rfl

end Environment

/-! ### The walk -/

/-- The pieces of a text, as the scanner finds them. -/
def scanned (text : String) : List Piece := variableStyle.scan text.toList

theorem interpolate_eq_grant (env : Environment) (path : List String) (text : String) :
    interpolate env path text = env.grant (mentions scanned [(path, text)]) (env.resolve text) := by
  have hmentions : mentions scanned [(path, text)] =
      (ReferenceStyle.names (scanned text)).map (Mention.mk path) := List.append_nil _
  have hname : (fun mention : Mention => (env.get? mention.name).isNone) ∘ Mention.mk path =
      fun name => (env.get? name).isNone := rfl
  rw [interpolate, ReferenceStyle.expand_eq_match, hmentions, Environment.grant,
    Environment.firstUnset?, List.find?_map, hname, ← scanned]
  cases (ReferenceStyle.names (scanned text)).find? fun name => (env.get? name).isNone <;> rfl

namespace Value

mutual

/-- The variables are put into every text, unless one that is mentioned is not set. -/
theorem interpolate_eq_grant (env : Environment) (path : List String) :
    (source : Value) → source.interpolate env path =
      env.grant (mentions scanned (source.texts path)) (source.mapTexts env.resolve).built
  | .null | .bool _ | .number _ => by
    simp only [interpolate, texts, mapTexts, built]
    rfl
  | .string s => by
    simp only [interpolate, CorpusForge.interpolate_eq_grant, Environment.map_grant, texts, mapTexts,
      built]
  | .array items => by
    rw [interpolate, interpolateItems_eq_grant env path 0 items, Environment.map_grant, texts,
      mapTexts, built]
  | .object fields => by
    rw [interpolate, interpolateFields_eq_grant env path fields, Environment.map_grant, texts,
      mapTexts, built]

theorem interpolateItems_eq_grant (env : Environment) (path : List String) (index : Nat) :
    (items : List Value) → interpolateItems env path index items =
      env.grant (mentions scanned (textsItems path index items))
        (builtItems (mapTextsItems env.resolve items))
  | [] => by
    rw [interpolateItems, textsItems, mapTextsItems, builtItems]
    rfl
  | item :: rest => by
    rw [interpolateItems, interpolate_eq_grant env _ item,
      interpolateItems_eq_grant env path (index + 1) rest, textsItems, mapTextsItems, builtItems,
      mentions_append, Environment.grant_append]

theorem interpolateFields_eq_grant (env : Environment) (path : List String) :
    (fields : List (String × Value)) → interpolateFields env path fields =
      env.grant (mentions scanned (textsFields path fields))
        (builtFields (mapTextsFields env.resolve fields))
  | [] => by
    rw [interpolateFields, textsFields, mapTextsFields, builtFields]
    rfl
  | (key, item) :: rest => by
    rw [interpolateFields, interpolate_eq_grant env _ item,
      interpolateFields_eq_grant env path rest, textsFields, mapTextsFields, builtFields,
      mentions_append, Environment.grant_append env fun item rest => (key, item) :: rest]

end

end Value

/-! ### Loading -/

namespace Config

theorem load_of_interpolate_eq_error {env : Environment} {source : Value} {failure : Failure}
    (h : source.interpolate env [] = .error failure) : load env source = .error failure := by
  rw [load, h]
  rfl

/-- Once the variables are put in, only the rules can fail. -/
theorem code_of_load_eq_error {env : Environment} {source value : Value} {failure : Failure}
    (h : source.interpolate env [] = .ok value) (hload : load env source = .error failure) :
    failure.code = .configInvalid := by
  rw [load, h] at hload
  cases hresult : (read ⟨some value, []⟩).result with
  | ok config => simp only [bind, Except.bind, hresult, reduceCtorEq] at hload
  | error issues =>
    simp only [bind, Except.bind, hresult, Except.error.injEq] at hload
    rw [← hload]
    rfl

/-- Variables are put in once, and the first one that is not set is told. Every text has one split
    into characters and references. When all the variables that a source mentions are set, it keeps
    all but its texts, and in every text each reference is replaced by what the variable holds; then
    its records are built anew, which changes nothing unless one of them has a field `__proto__`. A
    configuration loaded from it may break the rules, but misses no variable. Otherwise the first
    mention of one that is not set fails, with the path of its text. -/
theorem interpolates_once (env : Environment) (source : Value) :
    ∃ split : String → List Piece,
      (∀ text pieces, variableStyle.Splits text.toList pieces ↔ split text = pieces) ∧
      match (mentions split (source.texts [])).find? fun m => (env.get? m.name).isNone with
      | none =>
        let put := source.mapTexts fun text =>
          String.ofList ((split text).flatMap (Piece.filled env.get?))
        source.interpolate env [] = .ok put.built ∧ (source.IsPlain → put.built = put) ∧
          ∀ failure, load env source = .error failure → failure.code ≠ .secretMissing
      | some m =>
        source.interpolate env [] = .error (.secretMissing m.name m.path) ∧
        load env source = .error (.secretMissing m.name m.path) := by
  refine ⟨scanned, fun text pieces => ReferenceStyle.splits_iff variableStyle_endsNames, ?_⟩
  have hgrant := Value.interpolate_eq_grant env [] source
  rw [Environment.grant, Environment.firstUnset?] at hgrant
  split
  next hnone =>
    rw [hnone] at hgrant
    refine ⟨hgrant, fun hplain => (hplain.mapTexts _).built_eq, fun failure hload => ?_⟩
    rw [code_of_load_eq_error hgrant hload]
    decide
  next m hsome =>
    rw [hsome] at hgrant
    exact ⟨hgrant, load_of_interpolate_eq_error hgrant⟩

/-- A field `__proto__` is lost when its record is built anew, and what its value holds is found in
    the record instead. -/
theorem interpolate_ne_mapTexts :
    let source : Value := .object [("__proto__", .object [("seed", .number 5)])]
    source.interpolate [] [] = .ok (.object [("seed", .number 5)]) ∧
      (∀ f, source.interpolate [] [] ≠ .ok (source.mapTexts f)) ∧
      (Value.object [("__proto__", .number 1)]).interpolate [] [] = .ok (.object []) := by
  intro source
  have hseed : source.interpolate [] [] = .ok (.object [("seed", .number 5)]) := by
    simp only [source]
    rfl
  refine ⟨hseed, fun f heq => ?_, by rfl⟩
  rw [hseed] at heq
  simp [source, Value.mapTexts, Value.mapTextsFields] at heq

/-- A mark in front of a reference, and a reference that is no name. -/
example : interpolate [("A", "$\x7bB\x7d")] [] "$$\x7bA\x7d$\x7b1A\x7d" =
    .ok "$$\x7bB\x7d$\x7b1A\x7d" :=
  rfl

end Config

end CorpusForge
