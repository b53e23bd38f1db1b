import CorpusForge.Proofs.Structure.WellFormed

/-!
# Letter case in specifications

The archetype of a repository does not depend on the case of the letters in the names of its
category and its template, but some layouts read the category as it is given: a mesh for the number
of its services, a mobile application for its platform.

* `Text.lower_congr`: the lower-case forms of texts that differ in the case of ASCII letters only;
* `Layout.of_eq_of_readsAlike`, `Layout.readsAlike_of_subset`: the layouts of such categories;
* `Structure.plan_of_isCaseVariant`: what is planned for such specifications.
-/

namespace CorpusForge

/-! ### Texts -/

namespace Text

/-- The letters that differ from their small form. -/
def asciiCapitals : List Char := "ABCDEFGHIJKLMNOPQRSTUVWXYZ".toList

theorem toLower_cases (c : Char) : c.toLower = c ∨ c ∈ asciiCapitals := by
  by_cases h : c.val ≥ 'A'.val ∧ c.val ≤ 'Z'.val
  · refine .inr ?_
    have hlow : 65 ≤ c.toNat := h.1
    have hhigh : c.toNat ≤ 90 := h.2
    have hall : ∀ n ∈ List.range' 65 26, Char.ofNat n ∈ asciiCapitals := by decide
    rw [← Char.ofNat_toNat c]
    exact hall _ (List.mem_range'_1.2 (by omega))
  · exact .inl (dif_neg h)

/-- What depends on no capital of ASCII depends on no letter case, since the others stay as they
    are. -/
theorem eq_toLower {α : Type} (f : Char → α)
    (h : asciiCapitals.map (fun c => f c.toLower) = asciiCapitals.map f) (c : Char) :
    f c.toLower = f c := by
  rcases toLower_cases c with hsame | hcapital
  · rw [hsame]
  · exact List.map_inj_left.1 h c hcapital

theorem lowerFrom_toLower (before cs : List Char) :
    lowerFrom (before.map Char.toLower) (cs.map Char.toLower) = lowerFrom before cs := by
  have hcased := eq_toLower isCased (by decide +kernel)
  have hignorable : isIgnorable ∘ Char.toLower = isIgnorable :=
    funext (eq_toLower isIgnorable (by decide +kernel))
  induction cs generalizing before with
  | nil => rfl
  | cons c rest ih =>
    have hsigma := eq_toLower (fun c => decide (c = 'Σ')) (by decide) c
    have hdotted := eq_toLower (fun c => decide (c = 'İ')) (by decide) c
    have hsmall := eq_toLower lowerChar (by decide +kernel) c
    simp only [decide_eq_decide] at hsigma hdotted
    have hih := ih (c :: before)
    rw [List.map_cons] at hih
    simp only [List.map_cons, lowerFrom, hsigma, hdotted, hsmall, hih, List.dropWhile_map,
      List.head?_map, Option.any_map, hcased, hignorable]

/-- The characters of a text, with small letters for the capitals of ASCII. -/
def small (s : String) : List Char := s.toList.map Char.toLower

variable {s t : String}

/-- The lower-case form of a text does not depend on the case of its ASCII letters. -/
theorem lower_congr (h : small s = small t) : lower s = lower t := by
  rw [lower, lower, ← lowerFrom_toLower, ← lowerFrom_toLower [] t.toList]
  exact congrArg (String.ofList <| lowerFrom [] ·) h

end Text

theorem Archetype.classify_congr {category category' template template' : String}
    (hcategory : Text.small category' = Text.small category)
    (htemplate : Text.small template' = Text.small template) :
    classify category' template' = classify category template := by
  rw [classify, classify, Text.lower_congr hcategory, Text.lower_congr htemplate]

/-! ### Layouts -/

namespace Layout

variable {archetype : Archetype} {category category' : String}

/-- Two names of a category say the same of what the layout of an archetype takes from them: the
    number of services, or the platform. -/
def ReadsAlike (archetype : Archetype) (category category' : String) : Prop :=
  match archetype with
  | .serviceMesh => serviceCount category = serviceCount category'
  | .mobileApp => Text.hasWord category "ios" = Text.hasWord category' "ios"
  | _ => True

theorem readsAlike_of_eq (hcount : serviceCount category = serviceCount category')
    (hios : Text.hasWord category "ios" = Text.hasWord category' "ios") (archetype : Archetype) :
    ReadsAlike archetype category category' := by
  cases archetype with
  | serviceMesh => exact hcount
  | mobileApp => exact hios
  | webApp | cliTool | library | game | dataPipeline | enterpriseApp => trivial

theorem of_eq_of_readsAlike (h : ReadsAlike archetype category category') :
    Layout.of archetype category' = Layout.of archetype category := by
  cases archetype with
  | serviceMesh =>
    have hroots : serviceRoots category' = serviceRoots category := by
      rw [serviceRoots, serviceRoots, h]
    simp only [Layout.of, serviceMesh, hroots]
  | mobileApp =>
    rw [ReadsAlike] at h
    rw [Layout.of, Layout.of, h]
  | webApp | cliTool | library | game | dataPipeline | enterpriseApp => rfl

/-- A mesh has a place for the configuration of each of its services, and of no other. -/
theorem mem_serviceRoots_of_mem_places {root : String}
    (h : root ++ "/config" ∈ (serviceMesh category).places) : root ∈ serviceRoots category := by
  have hlast : (root ++ "/config").toList.getLast? = some 'g' := by
    rw [String.toList_append, List.getLast?_append]
    rfl
  rcases mem_places_serviceMesh h with ⟨root', hroot', name, hname, heq⟩ | hshared
  · rw [heq, String.toList_append, List.getLast?_append] at hlast
    simp only [List.mem_cons, List.not_mem_nil, or_false] at hname
    rcases hname with rfl | rfl | rfl
    · exact absurd hlast (by simp)
    · exact absurd hlast (by simp)
    · rwa [(String.append_left_inj _).1 heq]
  · have hall : ∀ place ∈ ["shared/models", "shared/utils", "infrastructure"] ++ Artifact.folders,
        place.toList.getLast? ≠ some 'g' := by decide
    exact absurd hlast (hall _ hshared)

theorem serviceCount_le (h : (serviceMesh category).directories ⊆ (serviceMesh category').places) :
    serviceCount category ≤ serviceCount category' := by
  have hsubset : serviceRoots category ⊆ serviceRoots category' := fun root hroot => by
    refine mem_serviceRoots_of_mem_places (h (List.mem_append_left _ ?_))
    exact List.mem_flatMap.2 ⟨root, hroot, by simp⟩
  simpa [serviceRoots] using ((nodup_serviceRoots category).subperm hsubset).length_le

/-- Layouts that have each other's places were read alike. -/
theorem readsAlike_of_subset
    (h : (Layout.of archetype category).directories ⊆ (Layout.of archetype category').places)
    (h' : (Layout.of archetype category').directories ⊆ (Layout.of archetype category).places) :
    ReadsAlike archetype category category' := by
  cases archetype with
  | serviceMesh => exact (serviceCount_le h).antisymm (serviceCount_le h')
  | mobileApp =>
    have hios : ¬iosApp.directories ⊆ androidApp.places := by decide
    have handroid : ¬androidApp.directories ⊆ iosApp.places := by decide
    rw [ReadsAlike]
    simp only [Layout.of] at h h'
    cases hword : Text.hasWord category "ios" <;> cases hword' : Text.hasWord category' "ios" <;>
      simp_all
  | webApp | cliTool | library | game | dataPipeline | enterpriseApp => trivial

end Layout

/-! ### Drawings -/

/-- What is drawn second may differ where the first drawing does not lead. -/
theorem Drawing.Yields.bind_congr {ε α β : Type} {P : α → Prop} {d : Drawing ε α}
    {f f' : α → Drawing ε β} (hd : d.Yields P) (h : ∀ a, P a → f a = f' a) :
    d >>= f = d >>= f' := by
  funext g
  change (d >>= f).run g = (d >>= f').run g
  rw [run_bind, run_bind]
  cases hrun : d.run g with
  | mk result g' =>
    cases result with
    | ok a => exact congrArg (Drawing.run · g') (h a (hd hrun))
    | error e => rfl

/-! ### Structures -/

/-- Two specifications that differ in the case of ASCII letters only, in the names of the category
    and the template. -/
structure Spec.IsCaseVariant (spec spec' : Spec) : Prop where
  category : Text.small spec'.category = Text.small spec.category
  template : spec'.template.map Text.small = spec.template.map Text.small
  rest : spec' = { spec with category := spec'.category, template := spec'.template }

namespace Structure

variable {spec spec' : Spec} {languages : List Language} {g : Gen}
  {structured structured' : Structure}

theorem archetypeOf_of_isCaseVariant (h : spec.IsCaseVariant spec') :
    archetypeOf spec' = archetypeOf spec := by
  have htemplate := h.template
  rw [archetypeOf, archetypeOf]
  cases hold : spec.template with
  | none =>
    rw [hold, Option.map_none, Option.map_eq_none_iff] at htemplate
    rw [htemplate]
  | some template =>
    rw [hold] at htemplate
    obtain ⟨template', hnew, hsame⟩ := Option.map_eq_some_iff.1 htemplate
    rw [hnew]
    exact congrArg pure (Archetype.classify_congr h.category hsame)

/-- The files of the groups do not depend on the category and the template. -/
theorem expandGroups_of_language {ε : Type} (h : spec'.language = spec.language)
    (groups : List FileGroup) :
    (expandGroups spec' languages groups : Drawing ε _) = expandGroups spec languages groups := by
  induction groups with
  | nil => rfl
  | cons group rest ih =>
    simp only [expandGroups, expandGroup, groupLanguage, groupExtension, h, ih]

/-- A structure is planned alike for a category that is read alike. -/
theorem plan_eq_of_readsAlike (h : spec.IsCaseVariant spec')
    (halike : ∀ template, spec.template = some template →
      Layout.ReadsAlike (.classify spec.category template) spec.category spec'.category) :
    plan spec' languages = plan spec languages := by
  have hlanguage : spec'.language = spec.language := by rw [h.rest]
  have hname : spec'.name = spec.name := by rw [h.rest]
  rw [plan, plan, archetypeOf_of_isCaseVariant h]
  refine (yields_archetypeOf spec).bind_congr fun archetype => ?_
  rintro ⟨template, htemplate, rfl⟩
  simp only [Layout.of_eq_of_readsAlike (halike template htemplate),
    expandGroups_of_language hlanguage, artifactsOf, hlanguage, hname]

theorem IsPlanned.archetype_eq (h : spec.IsCaseVariant spec')
    (hplan : IsPlanned spec languages g structured)
    (hplan' : IsPlanned spec' languages g structured') :
    structured'.archetype = structured.archetype := by
  obtain ⟨template, htemplate, harchetype⟩ := hplan.archetype
  obtain ⟨template', htemplate', harchetype'⟩ := hplan'.archetype
  have hsame : Text.small template' = Text.small template := by
    simpa [htemplate, htemplate'] using h.template
  rw [harchetype, harchetype', Archetype.classify_congr h.category hsame]

/-- Categories that lead to the same directories were read alike. -/
theorem IsPlanned.readsAlike (h : spec.IsCaseVariant spec')
    (hextension : '/' ∉ (extensionFor spec.language languages).toList)
    (hplan : IsPlanned spec languages g structured)
    (hplan' : IsPlanned spec' languages g structured')
    (hdirectories : structured'.directories = structured.directories) :
    Layout.ReadsAlike structured.archetype spec.category spec'.category := by
  have hlanguage : spec'.language = spec.language := by rw [h.rest]
  have hplaces := hplan.directories_subset_places hextension
  have hplaces' := hplan'.directories_subset_places (hlanguage ▸ hextension)
  rw [archetype_eq h hplan hplan', hdirectories] at hplaces'
  rw [← hdirectories] at hplaces
  refine Layout.readsAlike_of_subset (List.Subset.trans ?_ hplaces') (List.Subset.trans ?_ hplaces)
  · exact fun dir hdir => hplan.mem_directories_iff.2 (.inl hdir)
  · refine fun dir hdir => hplan'.mem_directories_iff.2 (.inl ?_)
    rwa [archetype_eq h hplan hplan']

/-- Letter case in the names of the category and the template does not matter for the archetype. For
    the structure it does not matter just if the layout reads the category alike: then the same is
    planned, or the same is refused. -/
theorem plan_of_isCaseVariant (h : spec.IsCaseVariant spec') (languages : List Language) :
    ((∀ template, spec.template = some template →
        Layout.ReadsAlike (.classify spec.category template) spec.category spec'.category) →
      plan spec' languages = plan spec languages) ∧
    ∀ g structured structured', IsPlanned spec languages g structured →
      IsPlanned spec' languages g structured' →
        structured'.archetype = structured.archetype ∧
          ('/' ∉ (extensionFor spec.language languages).toList →
            structured'.directories = structured.directories →
              Layout.ReadsAlike structured.archetype spec.category spec'.category) :=
  ⟨plan_eq_of_readsAlike h, fun _ _ _ hplan hplan' =>
    ⟨hplan.archetype_eq h hplan', fun hextension => hplan.readsAlike h hextension hplan'⟩⟩

/-- A specification of a mobile application. -/
def mobileSpec (category template : String) : Spec :=
  ⟨5001, "repo-05001-app", category, some template, "rust", 1000, 100,
    [⟨"Ada", "ada@example.org"⟩]⟩

theorem plan_of_isCaseVariant_mobile :
    (mobileSpec "mobile_ios" "app").IsCaseVariant (mobileSpec "MOBILE_ios" "App") ∧
      plan (mobileSpec "MOBILE_ios" "App") Corpus.bundledLanguages =
        plan (mobileSpec "mobile_ios" "app") Corpus.bundledLanguages := by
  have hvariant : (mobileSpec "mobile_ios" "app").IsCaseVariant (mobileSpec "MOBILE_ios" "App") :=
    ⟨by decide +kernel, by decide +kernel, rfl⟩
  refine ⟨hvariant, (plan_of_isCaseVariant hvariant _).1 fun template _ => ?_⟩
  exact Layout.readsAlike_of_eq (by decide +kernel) (by decide +kernel) _

/-- The platform of a mobile application is told by small letters only. -/
theorem plan_ne_of_isCaseVariant_mobile :
    (mobileSpec "mobile_ios" "app").IsCaseVariant (mobileSpec "Mobile_iOS" "app") ∧
      ∃ structured structured',
        IsPlanned (mobileSpec "mobile_ios" "app") Corpus.bundledLanguages (.ofText "seed")
          structured ∧
        IsPlanned (mobileSpec "Mobile_iOS" "app") Corpus.bundledLanguages (.ofText "seed")
          structured' ∧
        structured'.directories ≠ structured.directories := by
  have hvariant : (mobileSpec "mobile_ios" "app").IsCaseVariant (mobileSpec "Mobile_iOS" "app") :=
    ⟨by decide +kernel, by decide +kernel, rfl⟩
  have hextension : '/' ∉ (extensionFor "rust" Corpus.bundledLanguages).toList := by
    decide +kernel
  obtain ⟨structured, g, hplan⟩ := @isTotal_plan (mobileSpec "mobile_ios" "app")
    Corpus.bundledLanguages "app" rfl (by decide) hextension (.ofText "seed")
  obtain ⟨structured', g', hplan'⟩ := @isTotal_plan (mobileSpec "Mobile_iOS" "app")
    Corpus.bundledLanguages "app" rfl (by decide) hextension (.ofText "seed")
  refine ⟨hvariant, structured, structured', ⟨g, hplan⟩, ⟨g', hplan'⟩, fun hsame => ?_⟩
  have halike := IsPlanned.readsAlike hvariant hextension ⟨g, hplan⟩ ⟨g', hplan'⟩ hsame
  obtain ⟨template, htemplate, harchetype⟩ := IsPlanned.archetype ⟨g, hplan⟩
  cases htemplate
  have hmobile : Archetype.classify "mobile_ios" "app" = .mobileApp := by decide +kernel
  have hios : Text.hasWord "mobile_ios" "ios" ≠ Text.hasWord "Mobile_iOS" "ios" := by
    decide +kernel
  rw [harchetype, mobileSpec, hmobile] at halike
  exact hios halike

end Structure

end CorpusForge
