import CorpusForge.Proofs.Config.Accepted
import CorpusForge.Proofs.Config.Validity

/-!
# Reading what was written

The plain form of a configuration is a source itself. Reading it gives the configuration back: a
reader *restores* what a way of writing leaves at a spot (`Spot.Restores`), and it does so for every
part of a configuration, up to the whole.

* `Spot.Restores`: a reader undoes a way of writing;
* `Config.gives_toValue_iff`: what is read from a written configuration;
* `Config.isValid_toValue`: a loaded configuration is written in a valid form.
-/

namespace CorpusForge

open Reading Spot

namespace Spot

variable {α β γ δ : Type} {read : Spot → Reading α} {write : α → Option Value}

/-- A reader undoes a way of writing: it gives nothing else where a value was written, and what it
    gave once it gives wherever that is written. A value may also be written as nothing at all. -/
structure Restores (read : Spot → Reading α) (write : α → Option Value) : Prop where
  unique {spot : Spot} {a b : α} : spot.value = write a → (read spot).Gives b → b = a
  again {spot place : Spot} {a : α} :
    (read spot).Gives a → place.value = write a → (read place).Gives a

/-! ### Scalars and lists -/

/-- A reader that gives the value which was written, whenever that keeps the limits. -/
theorem restores_of_gives_iff {q : α → Prop} (hwrite : Function.Injective write)
    (h : ∀ spot a, (read spot).Gives a ↔ spot.value = write a ∧ q a) : Restores read write where
  unique hvalue hgives := hwrite (((h _ _).1 hgives).1.symm.trans hvalue)
  again hgives hvalue := (h _ _).2 ⟨hvalue, ((h _ _).1 hgives).2⟩

theorem restores_text {demanded : String → Bool} {defect : Defect} :
    Restores (fun spot => spot.text.check fun s => spot.demand (demanded s) defect)
      (some ∘ Value.string) := by
  refine restores_of_gives_iff (q := (demanded · = true)) (fun s t h => by simpa using h) ?_
  intro spot s
  simp [gives_check_iff, gives_text_iff, demand_eq_nil_iff]

theorem restores_name : Restores name (some ∘ Value.string) := restores_text

theorem restores_flag : Restores flag (some ∘ Value.bool) := by
  refine restores_of_gives_iff (q := fun _ => True) (fun b c h => by simpa using h) ?_
  intro spot b
  simp [gives_flag_iff]

theorem restores_limited {limits : Number → List Defect} :
    Restores (fun spot => spot.number.check fun n => (limits n).map spot.issue)
      (some ∘ Value.number) := by
  refine restores_of_gives_iff (q := fun n => n ≠ .nan ∧ limits n = [])
    (fun m n h => by simpa using h) ?_
  intro spot n
  simp [gives_check_iff, gives_number_iff, and_assoc]

theorem gives_whole_iff_limits {limits : Number → List Defect} {spot : Spot} {n : Number} :
    (spot.whole limits).Gives n ↔
      spot.value = some (.number n) ∧ n ≠ .nan ∧ n.isInteger = true ∧ limits n = [] := by
  rw [gives_whole_iff, gives_number_iff, and_assoc]

theorem restores_whole {limits : Number → List Defect} :
    Restores (fun spot => spot.whole limits) (some ∘ Value.number) :=
  restores_of_gives_iff (fun m n h => by simpa using h) fun _ _ => gives_whole_iff_limits

theorem restores_positive : Restores positive (some ∘ Value.number) := restores_whole

theorem Restores.itemsFrom_unique {w : α → Value} (h : Restores read (some ∘ w))
    {path : List String} {index : Nat} {as bs : List α}
    (hgives : (itemsFrom read path index (as.map w)).Gives bs) : bs = as := by
  induction as generalizing index bs with
  | nil => exact (gives_ok_iff.1 hgives).symm
  | cons a rest ih =>
    obtain ⟨g, tail, hg, htail, rfl⟩ := gives_seq_iff.1 hgives
    obtain ⟨b, hb, rfl⟩ := gives_map_iff.1 hg
    have hhead : b = a := h.unique rfl hb
    rw [hhead, ih htail]

theorem Restores.itemsFrom_again {w : α → Value} (h : Restores read (some ∘ w))
    {path place : List String} {index position : Nat} {items : List Value} {as : List α}
    (hgives : (itemsFrom read path index items).Gives as) :
    (itemsFrom read place position (as.map w)).Gives as := by
  induction items generalizing index position as with
  | nil =>
    rw [← gives_ok_iff.1 hgives]
    exact gives_ok_iff.2 rfl
  | cons item rest ih =>
    obtain ⟨g, tail, hg, htail, rfl⟩ := gives_seq_iff.1 hgives
    obtain ⟨a, ha, rfl⟩ := gives_map_iff.1 hg
    exact gives_seq_iff.2 ⟨_, tail, gives_map_iff.2 ⟨a, h.again ha rfl, rfl⟩, ih htail, rfl⟩

theorem Restores.list {w : α → Value} (h : Restores read (some ∘ w)) (least : Nat) :
    Restores (fun spot => spot.list least read) fun as => some (.array (as.map w)) where
  unique hvalue hgives := by
    obtain ⟨items, hitems, -, hread⟩ := gives_list_iff.1 hgives
    obtain ⟨⟨⟩⟩ := hvalue.symm.trans hitems
    exact h.itemsFrom_unique hread
  again hgives hvalue := by
    refine gives_list_iff.2 ⟨_, hvalue, ?_, ?_⟩
    · rw [List.length_map]
      exact least_le_of_gives_list hgives
    · obtain ⟨items, -, -, hread⟩ := gives_list_iff.1 hgives
      exact h.itemsFrom_again hread

/-! ### Rules and defaults -/

/-- A rule that does not depend on where the value stands. -/
theorem Restores.check (h : Restores read write) {rule : Spot → α → List Issue}
    (hrule : ∀ spot place a, rule spot a = [] → rule place a = []) :
    Restores (fun spot => (read spot).check (rule spot)) write where
  unique hvalue hgives := h.unique hvalue (gives_check_iff.1 hgives).1
  again hgives hvalue := by
    obtain ⟨hread, hkept⟩ := gives_check_iff.1 hgives
    exact gives_check_iff.2 ⟨h.again hread hvalue, hrule _ _ _ hkept⟩

/-- A default that is read again when it is written. -/
theorem Restores.withDefault {w : α → Value} (h : Restores read (some ∘ w)) {default : α}
    (hdefault : (read ⟨some (w default), []⟩).Succeeds) :
    Restores (fun spot => spot.withDefault default read) (some ∘ w) where
  unique {spot a b} hvalue hgives := by
    rcases gives_withDefault_iff.1 hgives with ⟨hnone, -⟩ | ⟨-, hread⟩
    · exact nomatch hvalue.symm.trans hnone
    · exact h.unique hvalue hread
  again {spot place a} hgives hvalue := by
    have hsome : place.value ≠ none := fun hnone => nomatch hvalue.symm.trans hnone
    refine gives_withDefault_iff.2 (.inr ⟨hsome, ?_⟩)
    rcases gives_withDefault_iff.1 hgives with ⟨-, rfl⟩ | ⟨-, hread⟩
    · obtain ⟨b, hb⟩ := hdefault
      obtain rfl : b = default := h.unique rfl hb
      exact h.again hb hvalue
    · exact h.again hread hvalue

/-! ### Records -/

/-- A record whose fields are restored together. -/
theorem restores_record {known : List String} {readFields : (String → Spot) → Reading α}
    {w : α → Value} (hknown : ∀ a, (w a).IsRecord known)
    (hunique : ∀ field a b, (∀ key, (field key).value = (w a).get? key) →
      (readFields field).Gives b → b = a)
    (hagain : ∀ field place a, (readFields field).Gives a →
      (∀ key, (place key).value = (w a).get? key) → (readFields place).Gives a) :
    Restores (fun spot => spot.record known readFields) (some ∘ w) where
  unique {spot a b} hvalue hgives := by
    obtain ⟨fields, hfields, hread, -⟩ := gives_record_iff.1 hgives
    have hw : w a = .object fields := Option.some.inj (hvalue.symm.trans hfields)
    exact hunique _ a b (fun key => by rw [hw]; rfl) hread
  again {spot place a} hgives hvalue := by
    obtain ⟨_, -, hread, -⟩ := gives_record_iff.1 hgives
    obtain ⟨fields, hw, hkeys⟩ := hknown a
    exact gives_record_iff.2 ⟨fields, hvalue.trans (congrArg some hw),
      hagain _ _ a hread fun key => by rw [hw]; rfl, filter_unknown_eq_nil_iff.2 hkeys⟩

variable {readA : Spot → Reading α} {readB : Spot → Reading β} {readC : Spot → Reading γ}
  {writeA : α → Option Value} {writeB : β → Option Value} {writeC : γ → Option Value}
  {known : List String} {w : δ → Value} {keyA keyB keyC : String}

/-- A record of two fields. -/
theorem restores_record₂ {mk : α → β → δ} (hA : Restores readA writeA) (hB : Restores readB writeB)
    (hmk : ∀ d, ∃ a b, mk a b = d) (hknown : ∀ a b, (w (mk a b)).IsRecord known)
    (hkeyA : ∀ a b, (w (mk a b)).get? keyA = writeA a)
    (hkeyB : ∀ a b, (w (mk a b)).get? keyB = writeB b) :
    Restores (fun spot => spot.record known fun field =>
      mk <$> readA (field keyA) <*> readB (field keyB)) (some ∘ w) := by
  refine restores_record (fun d => ?known) (fun field d d' hfield h => ?unique)
    fun field place d h hplace => ?again
  case known =>
    obtain ⟨a, b, rfl⟩ := hmk d
    exact hknown a b
  case unique =>
    obtain ⟨a, b, rfl⟩ := hmk d
    obtain ⟨_, b', hfirst, hb, rfl⟩ := gives_seq_iff.1 h
    obtain ⟨a', ha, rfl⟩ := gives_map_iff.1 hfirst
    rw [hA.unique ((hfield keyA).trans (hkeyA a b)) ha,
      hB.unique ((hfield keyB).trans (hkeyB a b)) hb]
  case again =>
    obtain ⟨_, b, hfirst, hb, rfl⟩ := gives_seq_iff.1 h
    obtain ⟨a, ha, rfl⟩ := gives_map_iff.1 hfirst
    exact gives_seq_iff.2 ⟨_, b,
      gives_map_iff.2 ⟨a, hA.again ha ((hplace keyA).trans (hkeyA a b)), rfl⟩,
      hB.again hb ((hplace keyB).trans (hkeyB a b)), rfl⟩

/-- A record of three fields. -/
theorem restores_record₃ {mk : α → β → γ → δ} (hA : Restores readA writeA)
    (hB : Restores readB writeB) (hC : Restores readC writeC)
    (hmk : ∀ d, ∃ a b c, mk a b c = d) (hknown : ∀ a b c, (w (mk a b c)).IsRecord known)
    (hkeyA : ∀ a b c, (w (mk a b c)).get? keyA = writeA a)
    (hkeyB : ∀ a b c, (w (mk a b c)).get? keyB = writeB b)
    (hkeyC : ∀ a b c, (w (mk a b c)).get? keyC = writeC c) :
    Restores (fun spot => spot.record known fun field =>
      mk <$> readA (field keyA) <*> readB (field keyB) <*> readC (field keyC)) (some ∘ w) := by
  refine restores_record (fun d => ?known) (fun field d d' hfield h => ?unique)
    fun field place d h hplace => ?again
  case known =>
    obtain ⟨a, b, c, rfl⟩ := hmk d
    exact hknown a b c
  case unique =>
    obtain ⟨a, b, c, rfl⟩ := hmk d
    obtain ⟨_, c', hrest, hc, rfl⟩ := gives_seq_iff.1 h
    obtain ⟨_, b', hfirst, hb, rfl⟩ := gives_seq_iff.1 hrest
    obtain ⟨a', ha, rfl⟩ := gives_map_iff.1 hfirst
    rw [hA.unique ((hfield keyA).trans (hkeyA a b c)) ha,
      hB.unique ((hfield keyB).trans (hkeyB a b c)) hb,
      hC.unique ((hfield keyC).trans (hkeyC a b c)) hc]
  case again =>
    obtain ⟨_, c, hrest, hc, rfl⟩ := gives_seq_iff.1 h
    obtain ⟨_, b, hfirst, hb, rfl⟩ := gives_seq_iff.1 hrest
    obtain ⟨a, ha, rfl⟩ := gives_map_iff.1 hfirst
    exact gives_seq_iff.2 ⟨_, c, gives_seq_iff.2 ⟨_, b,
      gives_map_iff.2 ⟨a, hA.again ha ((hplace keyA).trans (hkeyA a b c)), rfl⟩,
      hB.again hb ((hplace keyB).trans (hkeyB a b c)), rfl⟩,
      hC.again hc ((hplace keyC).trans (hkeyC a b c)), rfl⟩

end Spot

/-! ### Tables -/

theorem Contributor.restores_read : Restores read (some ∘ toValue) :=
  restores_record₂ restores_name restores_text (fun ⟨name, email⟩ => ⟨name, email, rfl⟩)
    (fun _ _ => ⟨_, rfl, by simp⟩) (fun _ _ => rfl) fun _ _ => rfl

theorem Category.restores_read : Restores read (some ∘ toValue) :=
  restores_record₃ restores_name restores_whole (restores_name.list 1)
    (fun ⟨name, count, templates⟩ => ⟨name, count, templates, rfl⟩)
    (fun _ _ _ => ⟨_, rfl, by simp⟩) (fun _ _ _ => rfl) (fun _ _ _ => rfl) fun _ _ _ => rfl

theorem Language.restores_read : Restores read (some ∘ toValue) :=
  restores_record₃ restores_name restores_limited
    ((restores_text : Restores readExtension _).list 1)
    (fun ⟨name, weight, extensions⟩ => ⟨name, weight, extensions, rfl⟩)
    (fun _ _ _ => ⟨_, rfl, by simp⟩) (fun _ _ _ => rfl) (fun _ _ _ => rfl) fun _ _ _ => rfl

/-! ### Settings -/

theorem Range.restores_read (least : Int) : Restores (read least) (some ∘ toValue) := by
  refine restores_of_gives_iff
    (q := fun range => (range.low ≠ .nan ∧ range.low.isInteger = true ∧
        Number.defectsBelow least range.low = []) ∧
      (range.high ≠ .nan ∧ range.high.isInteger = true ∧
        Number.defectsBelow least range.high = []) ∧ range.low.le range.high = true) ?_ ?_
  · rintro ⟨low, high⟩ ⟨low', high'⟩ h
    simpa [toValue] using h
  · rintro spot ⟨low, high⟩
    rw [read, gives_check_iff, demand_eq_nil_iff, ← and_assoc, ← and_assoc]
    refine and_congr_left' ?_
    constructor
    · intro h
      obtain ⟨⟨_, _⟩, hpair, ⟨⟩⟩ := gives_map_iff.1 h
      obtain ⟨first, second, hvalue, hlow, hhigh⟩ := gives_pair_iff.1 hpair
      obtain ⟨⟨⟩, hlowLimits⟩ := gives_whole_iff_limits.1 hlow
      obtain ⟨⟨⟩, hhighLimits⟩ := gives_whole_iff_limits.1 hhigh
      exact ⟨⟨hvalue, hlowLimits⟩, hhighLimits⟩
    · rintro ⟨⟨hvalue, hlow⟩, hhigh⟩
      exact gives_map_iff.2 ⟨(low, high), gives_pair_iff.2 ⟨_, _, hvalue,
        gives_whole_iff_limits.2 ⟨rfl, hlow⟩, gives_whole_iff_limits.2 ⟨rfl, hhigh⟩⟩, rfl⟩

theorem Ranges.restores_read : Restores read (some ∘ toValue) := by
  refine Restores.withDefault (w := toValue) (restores_record₃ (w := toValue)
    ((Range.restores_read 1).withDefault ?lines) ((Range.restores_read 2).withDefault ?commits)
    (restores_positive.withDefault ?maxContributors)
    (fun ⟨lines, commits, greatest⟩ => ⟨lines, commits, greatest, rfl⟩)
    (fun _ _ _ => ⟨_, rfl, by simp⟩) (fun _ _ _ => rfl) (fun _ _ _ => rfl) fun _ _ _ => rfl)
    ?all
  all_goals decide

theorem Timeline.restores_read : Restores read (some ∘ toValue) := by
  refine Restores.withDefault (w := toValue) (.check (restores_record₃ (w := toValue)
    (restores_positive.withDefault ?span) (restores_positive.withDefault ?least)
    (restores_positive.withDefault ?greatest)
    (fun ⟨span, least, greatest⟩ => ⟨span, least, greatest, rfl⟩)
    (fun _ _ _ => ⟨_, rfl, by simp⟩) (fun _ _ _ => rfl) (fun _ _ _ => rfl) fun _ _ _ => rfl)
    ?order) ?all
  case order => exact fun spot place timeline h => demand_eq_nil_iff.2 (demand_eq_nil_iff.1 h)
  all_goals decide

theorem FaultInjection.restores_read : Restores read (some ∘ toValue) := by
  refine Restores.withDefault (w := toValue) (restores_record₂ (w := toValue)
    (restores_flag.withDefault ?enabled) (restores_limited.withDefault ?probability)
    (fun ⟨enabled, probability⟩ => ⟨enabled, probability, rfl⟩)
    (fun _ _ => ⟨_, rfl, by simp⟩) (fun _ _ => rfl) fun _ _ => rfl) ?all
  all_goals decide +kernel

/-- A seed stands where it was read from, and no seed where nothing stands. -/
theorem Seed.value_of_gives_read {spot : Spot} {seed : Option Seed}
    (h : (read spot).Gives seed) : spot.value = seed.map toValue := by
  obtain ⟨value, path⟩ := spot
  cases value with
  | none =>
    rw [← gives_ok_iff.1 h]
    rfl
  | some value =>
    cases value with
    | string s =>
      obtain ⟨t, ht, rfl⟩ := gives_map_iff.1 h
      exact gives_text_iff.1 (gives_check_iff.1 ht).1
    | number n =>
      cases n with
      | nan => exact absurd h not_gives_fail
      | infinite | negZero | real =>
        obtain ⟨m, hm, rfl⟩ := gives_map_iff.1 h
        exact (gives_whole_iff_limits.1 hm).1
    | null | bool | array | object => exact absurd h not_gives_fail

theorem Seed.toValue_injective : Function.Injective toValue := by
  rintro (s | m) (t | n) h
  · simpa [toValue] using h
  · exact nomatch h
  · exact nomatch h
  · simpa [toValue] using h

/-- A seed that was not chosen is written as nothing. -/
theorem Seed.restores_read : Restores read (·.map toValue) := by
  have hunique : ∀ {spot : Spot} {a b : Option Seed}, spot.value = a.map toValue →
      (read spot).Gives b → b = a := fun hvalue hgives =>
    Option.map_injective toValue_injective ((value_of_gives_read hgives).symm.trans hvalue)
  refine ⟨hunique, fun {spot place seed} hgives hvalue => ?_⟩
  -- the same value stands at both spots, and what is accepted does not depend on the path
  have hsame : place.value = spot.value := hvalue.trans (value_of_gives_read hgives).symm
  have hplace : (read place).Succeeds := by
    rw [Seed.accepts_read place, hsame]
    exact (Seed.accepts_read spot).1 ⟨seed, hgives⟩
  obtain ⟨b, hb⟩ := hplace
  rwa [← hunique hvalue hb]

/-! ### Configurations -/

namespace Config

/-- Every setting of the configuration stands in its field. -/
structure IsWritten (field : String → Option Value) (c : Config) : Prop where
  outputDir : field "outputDir" = some (.string c.outputDir)
  targetCount : field "targetCount" = some (.number c.targetCount)
  startIndex : field "startIndex" = some (.number c.startIndex)
  seed : field "seed" = c.seed.map Seed.toValue
  concurrency : field "concurrency" = some (.number c.concurrency)
  skipExisting : field "skipExisting" = some (.bool c.skipExisting)
  ranges : field "ranges" = some c.ranges.toValue
  timeline : field "timeline" = some c.timeline.toValue
  faultInjection : field "faultInjection" = some c.faultInjection.toValue
  categories : field "categories" = some (.array (c.categories.map Category.toValue))
  languages : field "languages" = some (.array (c.languages.map Language.toValue))
  contributors : field "contributors" = some (.array (c.contributors.map Contributor.toValue))

theorem isWritten_toFields (c : Config) : IsWritten (Fields.get? · c.toFields) c := by
  obtain ⟨_, _, _, seed, _⟩ := c
  cases seed <;> exact ⟨rfl, rfl, rfl, rfl, rfl, rfl, rfl, rfl, rfl, rfl, rfl, rfl⟩

theorem keys_toFields (c : Config) : ∀ field ∈ c.toFields, field.1 ∈ keys := by
  cases hseed : c.seed <;> simp [toFields, Corpus.toFields, keys, hseed]

theorem nodup_keys_toFields (c : Config) : (c.toFields.map Prod.fst).Nodup := by
  cases hseed : c.seed <;> simp [toFields, Corpus.toFields, hseed]

variable {field place : String → Spot} {fields : Fields} {path : List String} {c d : Config}

/-- Fields that hold the same settings hold the same. -/
theorem IsWritten.eq_get?_toFields {field : String → Option Value} (h : IsWritten field c)
    {key : String} (hkey : key ∈ keys) : field key = Fields.get? key c.toFields := by
  have hc := isWritten_toFields c
  simp only [keys, List.mem_cons, List.not_mem_nil, or_false] at hkey
  rcases hkey with rfl | rfl | rfl | rfl | rfl | rfl | rfl | rfl | rfl | rfl | rfl | rfl
  · exact h.outputDir.trans hc.outputDir.symm
  · exact h.targetCount.trans hc.targetCount.symm
  · exact h.startIndex.trans hc.startIndex.symm
  · exact h.seed.trans hc.seed.symm
  · exact h.concurrency.trans hc.concurrency.symm
  · exact h.skipExisting.trans hc.skipExisting.symm
  · exact h.ranges.trans hc.ranges.symm
  · exact h.timeline.trans hc.timeline.symm
  · exact h.faultInjection.trans hc.faultInjection.symm
  · exact h.categories.trans hc.categories.symm
  · exact h.languages.trans hc.languages.symm
  · exact h.contributors.trans hc.contributors.symm

theorem restores_categories : Restores (fun spot => spot.withDefault Corpus.bundledCategories
    fun spot => spot.list 1 Category.read) (some ∘ fun as => .array (as.map Category.toValue)) :=
  (Category.restores_read.list 1).withDefault (by decide +kernel)

theorem restores_languages : Restores (fun spot => spot.withDefault Corpus.bundledLanguages
    fun spot => spot.list 1 Language.read) (some ∘ fun as => .array (as.map Language.toValue)) :=
  (Language.restores_read.list 1).withDefault (by decide +kernel)

theorem restores_contributors : Restores (fun spot => spot.withDefault Corpus.bundledContributors
    fun spot => spot.list 1 Contributor.read)
    (some ∘ fun as => .array (as.map Contributor.toValue)) :=
  (Contributor.restores_read.list 1).withDefault (by decide +kernel)

/-- Where its settings are written, a configuration that was read is read again. -/
theorem IsRead.again (h : IsRead field c) (hplace : IsWritten (fun key => (place key).value) c) :
    IsRead place c where
  outputDir := (restores_name.withDefault (by decide)).again h.outputDir hplace.outputDir
  targetCount := (restores_positive.withDefault (by decide)).again h.targetCount hplace.targetCount
  startIndex := (restores_whole.withDefault (by decide)).again h.startIndex hplace.startIndex
  seed := Seed.restores_read.again h.seed hplace.seed
  concurrency := (restores_positive.withDefault (by decide)).again h.concurrency hplace.concurrency
  skipExisting := (restores_flag.withDefault (by decide)).again h.skipExisting hplace.skipExisting
  ranges := Ranges.restores_read.again h.ranges hplace.ranges
  timeline := Timeline.restores_read.again h.timeline hplace.timeline
  faultInjection := FaultInjection.restores_read.again h.faultInjection hplace.faultInjection
  categories := restores_categories.again h.categories hplace.categories
  languages := restores_languages.again h.languages hplace.languages
  contributors := restores_contributors.again h.contributors hplace.contributors

/-- Where the settings of a configuration are written, nothing else is read. -/
theorem IsRead.unique (h : IsRead field d) (hfield : IsWritten (fun key => (field key).value) c) :
    d = c := by
  have houtputDir := (restores_name.withDefault (by decide)).unique hfield.outputDir h.outputDir
  have htargetCount :=
    (restores_positive.withDefault (by decide)).unique hfield.targetCount h.targetCount
  have hstartIndex := (restores_whole.withDefault (by decide)).unique hfield.startIndex h.startIndex
  have hseed := Seed.restores_read.unique hfield.seed h.seed
  have hconcurrency :=
    (restores_positive.withDefault (by decide)).unique hfield.concurrency h.concurrency
  have hskipExisting :=
    (restores_flag.withDefault (by decide)).unique hfield.skipExisting h.skipExisting
  have hranges := Ranges.restores_read.unique hfield.ranges h.ranges
  have htimeline := Timeline.restores_read.unique hfield.timeline h.timeline
  have hfaults := FaultInjection.restores_read.unique hfield.faultInjection h.faultInjection
  have hcategories := restores_categories.unique hfield.categories h.categories
  have hlanguages := restores_languages.unique hfield.languages h.languages
  have hcontributors := restores_contributors.unique hfield.contributors h.contributors
  cases d
  cases c
  simp_all

/-- Nothing is missing from what was written. -/
theorem filled_toValue (c : Config) : filled c.toValue = c.toValue := by
  obtain ⟨_, _, _, seed, _⟩ := c
  cases seed <;> rfl

/-- A configuration that was read is written in a valid form. -/
theorem IsRead.isValid (h : IsRead field c) : IsValid c.toValue := by
  have hagain : (read ⟨some c.toValue, []⟩).Gives c :=
    gives_read_iff.2 ⟨c.toFields, rfl, h.again (isWritten_toFields c), keys_toFields c⟩
  obtain ⟨_, ⟨⟩, hvalid⟩ := (accepts_read _).1 ⟨c, hagain⟩
  rwa [filled_toValue] at hvalid

/-- From the written settings of a configuration it alone is read, and just when it is valid. -/
theorem gives_iff_of_isWritten (hknown : ∀ field ∈ fields, field.1 ∈ keys)
    (hfields : IsWritten (Fields.get? · fields) c) :
    (read ⟨some (.object fields), path⟩).Gives d ↔ d = c ∧ IsValid c.toValue := by
  constructor
  · intro hgives
    obtain ⟨_, ⟨⟩, hread, -⟩ := gives_read_iff.1 hgives
    obtain rfl : d = c := hread.unique hfields
    exact ⟨rfl, hread.isValid⟩
  · rintro ⟨rfl, hvalid⟩
    rw [← filled_toValue] at hvalid
    obtain ⟨b, hb⟩ := (accepts_read ⟨some d.toValue, []⟩).2 ⟨_, rfl, hvalid⟩
    obtain ⟨_, ⟨⟩, hread, -⟩ := gives_read_iff.1 hb
    obtain rfl : b = d := hread.unique (isWritten_toFields d)
    exact gives_read_iff.2 ⟨fields, rfl, hread.again hfields, hknown⟩

theorem gives_toValue_iff : (read ⟨some c.toValue, path⟩).Gives d ↔ d = c ∧ IsValid c.toValue :=
  gives_iff_of_isWritten (keys_toFields c) (isWritten_toFields c)

/-- A loaded configuration is written in a valid form. -/
theorem isValid_toValue {env : Environment} {source : Value} (h : load env source = .ok c) :
    IsValid c.toValue := by
  obtain ⟨value, -, hread⟩ := load_eq_ok_iff.1 h
  obtain ⟨field, hread⟩ := exists_isRead hread
  exact hread.isValid

end Config

end CorpusForge
