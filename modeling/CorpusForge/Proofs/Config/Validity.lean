import CorpusForge.Proofs.Config.Acceptance
import CorpusForge.Proofs.Config.Email
import CorpusForge.Proofs.Config.Variables

/-!
# Valid configurations

Which plain values describe a configuration can be said without reading them: with the variables put
in and the missing fields filled by their defaults, every field has a certain form, and no other
field is there (`Config.IsValid`).

* `Config.filled`: the missing fields filled in;
* `Config.accepts_read`: what is read as a configuration;
* `Config.exists_load_iff_isValid`: loading gives a configuration just for valid ones.
-/

namespace CorpusForge

open Reading Spot

/-! ### Defaults -/

namespace Value

/-- A record with the fields of another one that it does not have. -/
def filledFrom (v defaults : Value) : Value :=
  match v, defaults with
  | .object fields, .object more =>
    .object (fields ++ more.filter fun field => (Fields.get? field.1 fields).isNone)
  | _, _ => v

/-- A record with the values of its fields changed. -/
def mapFields (f : String → Value → Value) : Value → Value
  | .object fields => .object (fields.map fun field => (field.1, f field.1 field.2))
  | v => v

variable {known : List String} {key : String} {fields : Fields} {defaults plain : Value}
  {p : Value → Prop}

theorem get?_filledFrom (key : String) (fields : Fields) (defaults : Value) :
    ((object fields).filledFrom defaults).get? key =
      (Fields.get? key fields).or (defaults.get? key) := by
  cases defaults with
  | object more => exact Fields.get?_append_filter key fields more
  | null | bool | number | string | array => exact Option.or_none.symm

theorem get?_mapFields (f : String → Value → Value) (key : String) (v : Value) :
    (v.mapFields f).get? key = (v.get? key).map (f key) := by
  cases v with
  | object fields =>
    induction fields with
    | nil => rfl
    | cons field rest ih =>
      simp only [mapFields, get?, List.map_cons, Fields.get?] at ih ⊢
      split
      next heq => rw [heq]; rfl
      next => exact ih
  | null | bool | number | string | array => rfl

theorem isRecord_filledFrom (h : defaults.IsRecord known) (v : Value) :
    (v.filledFrom defaults).IsRecord known ↔ v.IsRecord known := by
  obtain ⟨more, rfl, hmore⟩ := h
  cases v with
  | object fields =>
    constructor
    · rintro ⟨_, ⟨⟩, hkeys⟩
      exact ⟨fields, rfl, (List.forall_mem_append.1 hkeys).1⟩
    · rintro ⟨_, ⟨⟩, hkeys⟩
      exact ⟨_, rfl, List.forall_mem_append.2
        ⟨hkeys, fun field hmem => hmore field (List.mem_filter.1 hmem).1⟩⟩
  | null | bool | number | string | array => exact Iff.rfl

theorem isRecord_mapFields (f : String → Value → Value) (v : Value) :
    (v.mapFields f).IsRecord known ↔ v.IsRecord known := by
  cases v with
  | object fields =>
    constructor
    · rintro ⟨_, ⟨⟩, hkeys⟩
      exact ⟨fields, rfl, fun field hmem => hkeys (field.1, f field.1 field.2)
        (List.mem_map.2 ⟨field, hmem, rfl⟩)⟩
    · rintro ⟨_, ⟨⟩, hkeys⟩
      exact ⟨_, rfl, List.forall_mem_map.2 hkeys⟩
  | null | bool | number | string | array => exact Iff.rfl

theorem has_mapFields_iff {f : String → Value → Value} {v : Value} :
    (v.mapFields f).Has key p ↔ v.Has key fun value => p (f key value) := by
  simp [Has, get?_mapFields]

/-- A field that is filled in has the form that its default has or what is given. -/
theorem has_filledFrom_iff (hplain : defaults.get? key = some plain) :
    ((object fields).filledFrom defaults).Has key p ↔
      p ((Fields.get? key fields).getD plain) := by
  rw [Has, get?_filledFrom, hplain]
  cases Fields.get? key fields <;> simp

end Value

namespace Spot

variable {α : Type} {read : Spot → Reading α} {p : Value → Prop} {fields : Fields}
  {defaults : Value}

/-- A field that may be missing, with a default that its reader accepts. -/
theorem AcceptsOptional.succeeds_iff_has (h : AcceptsOptional read p) {key : String}
    {plain : Value} (hplain : defaults.get? key = some plain)
    (hread : (read ⟨some plain, []⟩).Succeeds) {path : List String} :
    (read ⟨Fields.get? key fields, path⟩).Succeeds ↔
      ((Value.object fields).filledFrom defaults).Has key p := by
  have hp : p plain := (h _).1 hread plain rfl
  rw [h, Value.has_filledFrom_iff hplain]
  cases Fields.get? key fields <;> simp [hp]

/-- A record with known keys only, said of the record with its missing fields filled in. -/
theorem accepts_record_filledFrom {known : List String} {valid : Value → Prop}
    {readFields : (String → Spot) → Reading α} (hdefaults : defaults.IsRecord known)
    (hvalid : ∀ v, valid v ↔ v.IsRecord known ∧ p v)
    (h : ∀ fields path,
      (readFields fun key => ⟨Fields.get? key fields, path ++ [key]⟩).Succeeds ↔
        p ((Value.object fields).filledFrom defaults)) :
    Accepts (fun spot => spot.record known readFields) fun v => valid (v.filledFrom defaults) := by
  simp only [hvalid, Value.isRecord_filledFrom hdefaults]
  exact accepts_record h

end Spot

/-! ### Tables -/

/-- A plain value of a contributor. -/
@[mk_iff]
structure Contributor.IsValid (v : Value) : Prop where
  keys : v.IsRecord ["name", "email"]
  name : v.Has "name" Value.IsName
  email : v.Has "email" (Value.IsText Email.IsAddress)

theorem Contributor.accepts_read : Accepts read IsValid := by
  intro spot
  simp only [isValid_iff]
  refine accepts_record (fun fields path => ?_) spot
  simp only [succeeds_seq_iff, succeeds_map_iff]
  exact and_congr (accepts_name _) (accepts_text (fun _ => Email.isValid_iff) _)

/-- A plain value of a category. -/
@[mk_iff]
structure Category.IsValid (v : Value) : Prop where
  keys : v.IsRecord ["name", "count", "templates"]
  name : v.Has "name" Value.IsName
  count : v.Has "count" (Value.IsInteger (0 ≤ ·))
  templates : v.Has "templates" (Value.IsTable Value.IsName)

theorem Category.accepts_read : Accepts read IsValid := by
  have hcount : ∀ (number : Number) (k : ℤ), number.Denotes k →
      (Number.defectsBelow 0 number = [] ↔ 0 ≤ k) := fun number k hk => by
    rw [hk.defectsBelow_iff (by norm_num), Int.cast_le]
  intro spot
  simp only [isValid_iff]
  refine accepts_record (fun fields path => ?_) spot
  simp only [succeeds_seq_iff, succeeds_map_iff, and_assoc]
  exact and_congr (accepts_name _)
    (and_congr (accepts_whole hcount _) (accepts_list accepts_name _))

/-- A number from zero on. There is no greatest one. -/
def Number.IsWeight (number : Number) : Prop :=
  number = .infinite false ∨ ∃ q, number.Denotes q ∧ 0 ≤ q

theorem Number.isWeight_iff {number : Number} :
    number ≠ .nan ∧ defectsBelow 0 number = [] ↔ number.IsWeight := by
  cases number with
  | nan => exact ⟨fun h => absurd rfl h.1, by rintro (h | ⟨q, h, -⟩) <;> exact nomatch h⟩
  | infinite negative =>
    cases negative with
    | false => exact ⟨fun _ => .inl rfl, fun _ => ⟨nofun, rfl⟩⟩
    | true =>
      refine ⟨fun h => absurd h.2 (List.cons_ne_nil _ _), ?_⟩
      rintro (h | ⟨q, h, -⟩) <;> exact nomatch h
  | negZero | real =>
    refine (limited_iff rfl fun q hq => hq.defectsBelow_iff (by norm_num)).trans ?_
    simp [IsWeight]

/-- A plain value of a language. -/
@[mk_iff]
structure Language.IsValid (v : Value) : Prop where
  keys : v.IsRecord ["name", "weight", "extensions"]
  name : v.Has "name" Value.IsName
  weight : v.Has "weight" (Value.IsNumber Number.IsWeight)
  extensions : v.Has "extensions" (Value.IsTable (Value.IsText fun s => s.toList.head? = some '.'))

theorem Language.accepts_read : Accepts read IsValid := by
  have hextension : Accepts readExtension (Value.IsText fun s => s.toList.head? = some '.') :=
    accepts_text fun _ => decide_eq_true_iff
  intro spot
  simp only [isValid_iff]
  refine accepts_record (fun fields path => ?_) spot
  simp only [succeeds_seq_iff, succeeds_map_iff, and_assoc]
  exact and_congr (accepts_name _)
    (and_congr (accepts_limited (fun _ => Number.isWeight_iff) _) (accepts_list hextension _))

/-! ### Settings -/

/-- A plain value of a seed. -/
def Seed.IsValid (v : Value) : Prop := v.IsName ∨ v.IsInteger fun _ => True

theorem Seed.accepts_read : AcceptsOptional read IsValid := by
  have hwhole : ∀ (number : Number) (k : ℤ), number.Denotes k → (([] : List Defect) = [] ↔ True) :=
    fun _ _ _ => iff_of_true rfl trivial
  rintro ⟨value, path⟩
  cases value with
  | none => exact ⟨fun _ => nofun, fun _ => ⟨none, gives_ok_iff.2 rfl⟩⟩
  | some value =>
    simp only [Option.some.injEq, forall_eq']
    cases value with
    | string s =>
      refine succeeds_map_iff.trans ((accepts_name _).trans ⟨?_, ?_⟩)
      · rintro ⟨_, ⟨⟩, hname⟩
        exact .inl hname
      · rintro (hname | ⟨_, ⟨⟩, _⟩)
        exact ⟨_, rfl, hname⟩
    | number n =>
      cases n with
      | nan =>
        refine ⟨fun ⟨_, h⟩ => absurd h not_gives_fail, ?_⟩
        rintro (⟨_, ⟨⟩, _⟩ | ⟨_, ⟨⟩, _, ⟨hfinite, -⟩, -⟩)
        exact nomatch hfinite
      | infinite | negZero | real =>
        refine succeeds_map_iff.trans ((accepts_whole hwhole _).trans ⟨?_, ?_⟩)
        · rintro ⟨_, ⟨⟩, hinteger⟩
          exact .inr hinteger
        · rintro (⟨_, ⟨⟩, _⟩ | hinteger)
          exact ⟨_, rfl, hinteger⟩
    | null | bool | array | object =>
      refine ⟨fun ⟨_, h⟩ => absurd h not_gives_fail, ?_⟩
      rintro (⟨_, ⟨⟩, _⟩ | ⟨_, ⟨⟩, _⟩)

/-- A plain value of the sizes of a repository. -/
@[mk_iff]
structure Ranges.IsValid (v : Value) : Prop where
  keys : v.IsRecord ["lines", "commits", "maxContributors"]
  lines : v.Has "lines" (Value.IsRange 1)
  commits : v.Has "commits" (Value.IsRange 2)
  maxContributors : v.Has "maxContributors" (Value.IsInteger (1 ≤ ·))

theorem Ranges.accepts_read :
    AcceptsOptional read fun v => IsValid (v.filledFrom (toValue {})) := by
  refine Accepts.withDefault
    (accepts_record_filledFrom ⟨_, rfl, by simp⟩ isValid_iff fun fields path => ?_) _
  simp only [succeeds_seq_iff, succeeds_map_iff, and_assoc]
  refine and_congr ?lines <| and_congr ?commits ?maxContributors
  case lines | commits =>
    exact ((Range.accepts_read (by norm_num)).withDefault _).succeeds_iff_has rfl (by decide)
  case maxContributors => exact (accepts_positive.withDefault _).succeeds_iff_has rfl (by decide)

theorem Number.isProbability_iff {number : Number} :
    number ≠ .nan ∧ defectsBelow 0 number ++ defectsAbove 1 number = [] ↔
      number.IsProbability := by
  cases number with
  | nan => exact ⟨fun h => absurd rfl h.1, fun ⟨q, h, _⟩ => nomatch h⟩
  | infinite negative =>
    -- one of the limits keeps out either infinity
    refine ⟨fun h => absurd h.2 ?_, fun ⟨q, h, _⟩ => nomatch h⟩
    cases negative <;> exact List.cons_ne_nil _ _
  | negZero | real =>
    refine limited_iff rfl fun q hq => ?_
    rw [List.append_eq_nil_iff, hq.defectsBelow_iff (by norm_num),
      hq.defectsAbove_iff (by norm_num), Int.cast_zero, Int.cast_one]

/-- A plain value of the rate of deliberate faults. -/
@[mk_iff]
structure FaultInjection.IsValid (v : Value) : Prop where
  keys : v.IsRecord ["enabled", "probability"]
  enabled : v.Has "enabled" Value.IsFlag
  probability : v.Has "probability" (Value.IsNumber Number.IsProbability)

theorem FaultInjection.accepts_read :
    AcceptsOptional read fun v => IsValid (v.filledFrom (toValue {})) := by
  refine Accepts.withDefault
    (accepts_record_filledFrom ⟨_, rfl, by simp⟩ isValid_iff fun fields path => ?_) _
  simp only [succeeds_seq_iff, succeeds_map_iff]
  exact and_congr ((accepts_flag.withDefault _).succeeds_iff_has rfl (by decide))
    (((accepts_limited fun _ => Number.isProbability_iff).withDefault _).succeeds_iff_has rfl
      (by decide +kernel))

/-- A plain value of the timeline of a history. -/
@[mk_iff]
structure Timeline.IsValid (v : Value) : Prop where
  keys : v.IsRecord ["spanDays", "minGapHours", "maxGapHours"]
  spanDays : v.Has "spanDays" (Value.IsInteger (1 ≤ ·))
  gaps : ∃ least greatest : ℤ, v.Has "minGapHours" (Value.IsInteger (· = least)) ∧
    v.Has "maxGapHours" (Value.IsInteger (· = greatest)) ∧ 1 ≤ least ∧ least ≤ greatest

/-- What a field that may be missing gives is what stands in it once it is filled in. -/
theorem Spot.gives_withDefault_positive_iff (defaults : Value) {key : String} {fields : Fields}
    {default n : Number} (hplain : defaults.get? key = some (.number default))
    (hread : (positive ⟨some (.number default), []⟩).Succeeds) {path : List String} :
    (withDefault ⟨Fields.get? key fields, path⟩ default positive).Gives n ↔
      ((Value.object fields).filledFrom defaults).get? key = some (.number n) ∧
        ∃ k : ℤ, n.Denotes k ∧ 1 ≤ k := by
  rw [gives_withDefault_iff, Value.get?_filledFrom, hplain]
  cases Fields.get? key fields with
  | none =>
    constructor
    · rintro (⟨-, rfl⟩ | ⟨hnone, -⟩)
      · obtain ⟨_, ⟨⟩, _, ⟨⟩, hdefault⟩ := (accepts_positive _).1 hread
        exact ⟨rfl, hdefault⟩
      · exact absurd rfl hnone
    · rintro ⟨⟨⟩, -⟩
      exact .inl ⟨rfl, rfl⟩
  | some value =>
    rw [positive, gives_whole_iff_denotes fun _ _ => defectsPositive_iff]
    simp

theorem Timeline.gives_mk_iff {span least greatest : Reading Number} {t : Timeline} :
    (mk <$> span <*> least <*> greatest).Gives t ↔
      span.Gives t.spanDays ∧ least.Gives t.minGapHours ∧ greatest.Gives t.maxGapHours := by
  simp only [gives_seq_iff, gives_map_iff]
  constructor
  · rintro ⟨_, _, ⟨_, _, ⟨_, hspan, rfl⟩, hleast, rfl⟩, hgreatest, rfl⟩
    exact ⟨hspan, hleast, hgreatest⟩
  · rintro ⟨hspan, hleast, hgreatest⟩
    exact ⟨_, _, ⟨_, _, ⟨_, hspan, rfl⟩, hleast, rfl⟩, hgreatest, rfl⟩

theorem Timeline.accepts_read :
    AcceptsOptional read fun v => IsValid (v.filledFrom (toValue {})) := by
  have hdefaults : (toValue {}).IsRecord ["spanDays", "minGapHours", "maxGapHours"] :=
    ⟨_, rfl, by simp⟩
  refine Accepts.withDefault (fun spot => ?_) _
  constructor
  · rintro ⟨t, hgives⟩
    obtain ⟨hrecord, horder⟩ := gives_check_iff.1 hgives
    obtain ⟨fields, hvalue, hread, hkeys⟩ := gives_record_iff.1 hrecord
    obtain ⟨hspan, hleast, hgreatest⟩ := gives_mk_iff.1 hread
    obtain ⟨hspan, hdays⟩ :=
      (gives_withDefault_positive_iff (toValue {}) rfl (by decide)).1 hspan
    obtain ⟨hleast, m, hm, hpos⟩ :=
      (gives_withDefault_positive_iff (toValue {}) rfl (by decide)).1 hleast
    obtain ⟨hgreatest, n, hn, -⟩ :=
      (gives_withDefault_positive_iff (toValue {}) rfl (by decide)).1 hgreatest
    rw [demand_eq_nil_iff, hm.not_lt_iff hn] at horder
    exact ⟨_, hvalue,
      (Value.isRecord_filledFrom hdefaults _).2 ⟨fields, rfl, filter_unknown_eq_nil_iff.1 hkeys⟩,
      ⟨_, hspan, _, rfl, hdays⟩, m, n, ⟨_, hleast, _, rfl, m, hm, rfl⟩,
      ⟨_, hgreatest, _, rfl, n, hn, rfl⟩, hpos, horder⟩
  · rintro ⟨v, hvalue, hkeys, ⟨_, hspan, span, rfl, hdays⟩, m, n,
      ⟨_, hleast, least, rfl, m', hm, rfl⟩, ⟨_, hgreatest, greatest, rfl, n', hn, rfl⟩, hpos, hle⟩
    obtain ⟨fields, rfl, hknown⟩ := (Value.isRecord_filledFrom hdefaults v).1 hkeys
    refine ⟨⟨span, least, greatest⟩, gives_check_iff.2 ⟨gives_record_iff.2 ⟨fields, hvalue,
      gives_mk_iff.2 ⟨?_, ?_, ?_⟩, filter_unknown_eq_nil_iff.2 hknown⟩, demand_eq_nil_iff.2 ?_⟩⟩
    · exact (gives_withDefault_positive_iff (toValue {}) rfl (by decide)).2 ⟨hspan, hdays⟩
    · exact (gives_withDefault_positive_iff (toValue {}) rfl (by decide)).2 ⟨hleast, _, hm, hpos⟩
    · exact (gives_withDefault_positive_iff (toValue {}) rfl (by decide)).2
        ⟨hgreatest, _, hn, hpos.trans hle⟩
    · exact (hm.not_lt_iff hn).2 hle

/-! ### Configurations -/

namespace Config

/-- The configuration of a source that says nothing. -/
def standard : Config where
  outputDir := "./corpus"
  targetCount := 1000
  startIndex := 5001
  seed := none
  concurrency := 1
  skipExisting := true
  ranges := {}
  timeline := {}
  faultInjection := {}
  categories := Corpus.bundledCategories
  languages := Corpus.bundledLanguages
  contributors := Corpus.bundledContributors

/-- A setting that is a record, with its own missing fields filled in. -/
def completed (key : String) (value : Value) : Value :=
  match key with
  | "ranges" => value.filledFrom (Ranges.toValue {})
  | "timeline" => value.filledFrom (Timeline.toValue {})
  | "faultInjection" => value.filledFrom (FaultInjection.toValue {})
  | _ => value

/-- A source with its missing fields filled in. -/
def filled (v : Value) : Value := (v.filledFrom standard.toValue).mapFields completed

/-- A plain value of a configuration, with nothing left out. -/
@[mk_iff]
structure IsValid (v : Value) : Prop where
  keys : v.IsRecord keys
  outputDir : v.Has "outputDir" Value.IsName
  targetCount : v.Has "targetCount" (Value.IsInteger (1 ≤ ·))
  startIndex : v.Has "startIndex" (Value.IsInteger fun k => 0 ≤ k ∧ k ≤ 99999)
  seed : ∀ value, v.get? "seed" = some value → Seed.IsValid value
  concurrency : v.Has "concurrency" (Value.IsInteger (1 ≤ ·))
  skipExisting : v.Has "skipExisting" Value.IsFlag
  ranges : v.Has "ranges" Ranges.IsValid
  timeline : v.Has "timeline" Timeline.IsValid
  faultInjection : v.Has "faultInjection" FaultInjection.IsValid
  categories : v.Has "categories" (Value.IsTable Category.IsValid)
  languages : v.Has "languages" (Value.IsTable Language.IsValid)
  contributors : v.Has "contributors" (Value.IsTable Contributor.IsValid)

theorem isRecord_filled (v : Value) : (filled v).IsRecord keys ↔ v.IsRecord keys := by
  have hstandard : standard.toValue.IsRecord keys := ⟨_, rfl, by decide +kernel⟩
  rw [filled, Value.isRecord_mapFields, Value.isRecord_filledFrom hstandard]

section Fields

variable {α : Type} {readField : Spot → Reading α} {p : Value → Prop} {key : String}
  {plain : Value} {fields : Fields} {path : List String}

/-- A setting with a default that its reader accepts. -/
theorem succeeds_iff_has (h : AcceptsOptional readField fun value => p (completed key value))
    (hplain : standard.toValue.get? key = some plain)
    (hread : (readField ⟨some plain, []⟩).Succeeds) :
    (readField ⟨Fields.get? key fields, path⟩).Succeeds ↔ (filled (.object fields)).Has key p :=
  (h.succeeds_iff_has hplain hread).trans Value.has_mapFields_iff.symm

theorem succeeds_withDefault_iff_has (h : Accepts readField fun value => p (completed key value))
    (hplain : standard.toValue.get? key = some plain)
    (hread : (readField ⟨some plain, []⟩).Succeeds) {default : α} :
    (withDefault ⟨Fields.get? key fields, path⟩ default readField).Succeeds ↔
      (filled (.object fields)).Has key p :=
  succeeds_iff_has (h.withDefault default) hplain hread

/-- The seed alone has no default. -/
theorem succeeds_seed_iff : (Seed.read ⟨Fields.get? "seed" fields, path⟩).Succeeds ↔
    ∀ value, (filled (.object fields)).get? "seed" = some value → Seed.IsValid value := by
  have hnone : standard.toValue.get? "seed" = none := rfl
  have hid : completed "seed" = id := rfl
  rw [Seed.accepts_read, filled, Value.get?_mapFields, Value.get?_filledFrom, hnone,
    Option.or_none, hid, Option.map_id, id]

end Fields

theorem accepts_read : Accepts read fun v => IsValid (filled v) := by
  have hstart : ∀ (number : Number) (k : ℤ), number.Denotes k →
      (number.defectsBelow 0 ++ number.defectsAbove 99999 = [] ↔ 0 ≤ k ∧ k ≤ 99999) :=
    fun number k hk => by
      rw [List.append_eq_nil_iff, hk.defectsBelow_iff (by norm_num),
        hk.defectsAbove_iff (by norm_num), Int.cast_le, Int.cast_le]
  intro spot
  simp only [isValid_iff, isRecord_filled]
  refine accepts_record (fun fields path => ?_) spot
  simp only [succeeds_seq_iff, succeeds_map_iff, and_assoc]
  refine and_congr ?outputDir <| and_congr ?targetCount <| and_congr ?startIndex <|
    and_congr ?seed <| and_congr ?concurrency <| and_congr ?skipExisting <| and_congr ?ranges <|
    and_congr ?timeline <| and_congr ?faultInjection <| and_congr ?categories <|
    and_congr ?languages ?contributors
  case outputDir => exact succeeds_withDefault_iff_has accepts_name rfl (by decide)
  case targetCount => exact succeeds_withDefault_iff_has accepts_positive rfl (by decide)
  case startIndex => exact succeeds_withDefault_iff_has (accepts_whole hstart) rfl (by decide)
  case seed => exact succeeds_seed_iff
  case concurrency => exact succeeds_withDefault_iff_has accepts_positive rfl (by decide)
  case skipExisting => exact succeeds_withDefault_iff_has accepts_flag rfl (by decide)
  case ranges => exact succeeds_iff_has Ranges.accepts_read rfl (by decide)
  case timeline => exact succeeds_iff_has Timeline.accepts_read rfl (by decide)
  case faultInjection => exact succeeds_iff_has FaultInjection.accepts_read rfl (by decide +kernel)
  case categories =>
    exact succeeds_withDefault_iff_has (accepts_list Category.accepts_read) rfl (by decide +kernel)
  case languages =>
    exact succeeds_withDefault_iff_has (accepts_list Language.accepts_read) rfl (by decide +kernel)
  case contributors =>
    exact succeeds_withDefault_iff_has (accepts_list Contributor.accepts_read) rfl
      (by decide +kernel)

/-- With every variable set, a configuration is loaded just when the source is valid once its
    variables are put in and its missing fields are filled in. -/
theorem exists_load_iff_isValid {env : Environment} {source : Value} (h : env.Sets source) :
    ∃ v, source.interpolate env [] = .ok v ∧
      ((∃ config, load env source = .ok config) ↔ IsValid (filled v)) := by
  refine ⟨_, h.interpolate_eq [], ?_⟩
  calc
    (∃ config, load env source = .ok config) ↔
        (read ⟨some (source.mapTexts env.resolve).built, []⟩).Succeeds := by
      simp [load_eq_ok_iff, h.interpolate_eq, Succeeds]
    _ ↔ IsValid (filled (source.mapTexts env.resolve).built) := by
      simp [accepts_read ⟨some (source.mapTexts env.resolve).built, []⟩]

theorem exists_load_iff_isValid_variable :
    let env : Environment := [("DIR", "out")]
    let source : Value := .object [("outputDir", .string "$\x7bDIR\x7d")]
    let v : Value := .object [("outputDir", .string "out")]
    env.Sets source ∧ source.interpolate env [] = .ok v ∧
      ((∃ config, load env source = .ok config) ↔ IsValid (filled v)) := by
  intro env source v
  have hv : source.interpolate env [] = .ok v := by simp [source, v]; rfl
  have hsets := Environment.sets_of_interpolate_eq_ok source hv
  obtain ⟨w, hw, hload⟩ := exists_load_iff_isValid hsets
  obtain rfl : v = w := Except.ok.inj (hv.symm.trans hw)
  exact ⟨hsets, hv, hload⟩

/-- A field `__proto__` is not unknown: it is no field any more once the record is built. -/
example : load [] (.object [("__proto__", .number 1)]) = .ok standard := rfl

end Config

end CorpusForge
