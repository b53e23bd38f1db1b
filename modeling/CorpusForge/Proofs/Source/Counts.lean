import CorpusForge.Proofs.Random.Choices
import CorpusForge.Proofs.Source.Styles
import CorpusForge.Proofs.Source.Synthesis

/-!
# Sources are as they are reported

What is reported of a source file can be read in its text: a line is marked for each fault, and a
line declares each unit and each function outside units, under names of their own. The budget of
lines sets how many units and functions there are, and one word is drawn for each unit when faults
are enabled (`Source.synthesize_reports`).
-/

namespace CorpusForge.Source

/-! ### Counts -/

open Number in
/-- What a budget of whole lines pays for is a whole number. It is the quotient of the division with
    remainder as far as numbers are exact. -/
theorem exists_shareOf_eq {lines : Number} {n d : Nat} (hlines : lines.IsCount n)
    (hgrid : lines.IsBinary64) (hd : 0 < d) (hd' : d ≤ 2 ^ 53) :
    ∃ share : Nat, shareOf (real d) lines = real share ∧ 1 ≤ share ∧
      (n < 2 ^ 53 → share = max 1 (n / d)) := by
  have hdne : (d : Rat) ≠ 0 := by exact_mod_cast hd.ne'
  rcases n.eq_zero_or_pos with rfl | hn
  · -- neither of the two zeros reaches the one that there is at least
    obtain ⟨negative, hzero⟩ : ∃ negative, lines / real d = zero negative := by
      obtain ⟨hfinite, hrat⟩ := hlines
      cases lines with
      | nan | infinite => cases hfinite
      | negZero => exact ⟨_, (if_neg hdne).trans (if_pos rfl)⟩
      | real q =>
        obtain rfl : q = 0 := hrat.trans Nat.cast_zero
        exact ⟨_, (if_neg hdne).trans (if_pos rfl)⟩
    refine ⟨1, ?_, le_rfl, fun _ => by rw [Nat.zero_div, Nat.max_zero]⟩
    rw [shareOf, hzero]
    cases negative <;> rfl
  · obtain rfl : lines = real n := Denotes.eq_real hlines (by exact_mod_cast hn.ne')
    obtain ⟨hround, hsmall⟩ := hgrid
    rw [Number.abs_eq, abs_of_nonneg (Nat.cast_nonneg n)] at hsmall
    have hquot : (0 : Rat) ≤ (n : Rat) / d := by positivity
    have hle : (n : Rat) / d ≤ n := div_le_self (Nat.cast_nonneg n) (by exact_mod_cast hd)
    have hdiv : real n / real d = real (round53 ((n : Rat) / d)) := by
      have hdiv : real n / real d = ofRat ((n : Rat) / d) :=
        div_real (by exact_mod_cast hn.ne') hdne
      rw [hdiv, ofRat_of_nonneg hquot ((round53_le_of_le hround hquot hle).trans_lt hsmall)]
    obtain ⟨m, hm⟩ := Int.eq_ofNat_of_zero_le
      (Rat.le_floor_iff.2 (by exact_mod_cast round53_nonneg hquot) :
        0 ≤ (round53 ((n : Rat) / d)).floor)
    have hfloor : (real n / real d).floor = real (m : Nat) := by
      rw [hdiv, floor, hm]
      rfl
    refine ⟨max 1 m, ?_, le_max_left 1 m, fun hexact => ?_⟩
    · rw [shareOf, hfloor, maximum_one_natCast_max]
    · rw [floor_div_natCast hn hexact hd hd', real.injEq, Nat.cast_inj] at hfloor
      rw [hfloor]

theorem exists_unitCount_eq {lines : Number} {n : Nat} (hlines : lines.IsCount n)
    (hgrid : lines.IsBinary64) :
    ∃ units : Nat, unitCount lines = .real units ∧ 1 ≤ units ∧
      (n < 2 ^ 53 → units = max 1 (n / 50)) :=
  exists_shareOf_eq hlines hgrid (by norm_num) (by norm_num)

theorem exists_functionCount_eq {lines : Number} {n : Nat} (hlines : lines.IsCount n)
    (hgrid : lines.IsBinary64) (style : Style) :
    ∃ functions : Nat, functionCount style lines = .real functions ∧
      (style.freeFunctions = false → functions = 0) ∧
      (n < 2 ^ 53 → functions = if style.freeFunctions then max 1 (n / 30) else 0) := by
  rw [functionCount]
  cases style.freeFunctions with
  | false => exact ⟨0, rfl, fun _ => rfl, fun _ => rfl⟩
  | true =>
    obtain ⟨functions, hfunctions, -, hexact⟩ :=
      exists_shareOf_eq hlines hgrid (d := 30) (by norm_num) (by norm_num)
    exact ⟨functions, hfunctions, fun h => absurd h.symm Bool.false_ne_true, hexact⟩

/-! ### Names -/

theorem isNameChar_of_mem_words {word : List Char} {c : Char} (cs : List Char) :
    ∀ {current : List Char}, (∀ d ∈ current, isNameChar d = true) → word ∈ words current cs →
      c ∈ word → isNameChar c = true := by
  induction cs with
  | nil =>
    intro current hcurrent hword hc
    rw [words] at hword
    split at hword
    next => exact absurd hword List.not_mem_nil
    next =>
      rw [List.mem_singleton.1 hword, List.mem_reverse] at hc
      exact hcurrent c hc
  | cons d rest ih =>
    intro current hcurrent hword hc
    rw [words] at hword
    split at hword
    next hd => exact ih (List.forall_mem_cons.2 ⟨hd, hcurrent⟩) hword hc
    next =>
      split at hword
      next => exact ih (List.forall_mem_nil _) hword hc
      next =>
        rcases List.mem_cons.1 hword with rfl | hword
        · exact hcurrent c (List.mem_reverse.1 hc)
        · exact ih (List.forall_mem_nil _) hword hc

/-- A capital is a letter. -/
theorem isLetter_ofNat_sub {c : Char} (hlow : 'a' ≤ c) (hhigh : c ≤ 'z') :
    Text.isLetter (Char.ofNat (c.toNat - 32)) = true := by
  have hall : ∀ k < 26, Text.isLetter (Char.ofNat (65 + k)) = true := by decide
  have hleast : 97 ≤ c.toNat := hlow
  have hmost : c.toNat ≤ 122 := hhigh
  have hcapital : c.toNat - 32 = 65 + (c.toNat - 97) := by omega
  rw [hcapital]
  exact hall _ (by omega)

theorem isNameChar_of_mem_capitalize {word : List Char} (hword : ∀ c ∈ word, isNameChar c = true) :
    ∀ c ∈ capitalize word, isNameChar c = true := by
  cases word with
  | nil => exact hword
  | cons c rest =>
    obtain ⟨hc, hrest⟩ := List.forall_mem_cons.1 hword
    refine List.forall_mem_cons.2 ⟨?_, hrest⟩
    split
    next hsmall =>
      rw [Bool.and_eq_true, decide_eq_true_eq, decide_eq_true_eq] at hsmall
      rw [isNameChar, isLetter_ofNat_sub hsmall.1 hsmall.2, Bool.true_or]
    next => exact hc

/-- The name of the units holds letters and digits only. -/
theorem isNameChar_of_mem_unitBaseName (role : String) :
    ∀ c ∈ (unitBaseName role).toList, isNameChar c = true := by
  rw [unitBaseName]
  split
  next => exact List.all_eq_true.1 (by decide)
  next =>
    rw [String.toList_ofList]
    intro c hmem
    obtain ⟨word, hword, hc⟩ := List.mem_flatMap.1 hmem
    refine isNameChar_of_mem_capitalize (fun d hd => ?_) c hc
    exact isNameChar_of_mem_words role.toList (List.forall_mem_nil _) hword hd

/-! ### Texts -/

/-- The name of a unit of a file. -/
def unitName (role : String) (index : Nat) : String := unitBaseName role ++ Decimal.natText index

theorem toList_unitName (role : String) (index : Nat) :
    (unitName role index).toList = (unitBaseName role).toList ++ Decimal.digitsOf index := by
  rw [unitName, String.toList_append, Decimal.natText, String.toList_ofList]

theorem unitName_injective (role : String) : Function.Injective (unitName role) := by
  intro i j h
  have hcs := congrArg String.toList h
  rw [toList_unitName, toList_unitName] at hcs
  exact Decimal.digitsOf_injective (List.append_cancel_left hcs)

theorem isNumbered_unitName (role : String) (index : Nat) :
    IsNumbered (unitName role index).toList := by
  rw [toList_unitName]
  exact IsNumbered.append (isNameChar_of_mem_unitBaseName role) index

/-- The units of a file from a position on. -/
theorem reads_unitsFrom {style : Style} (hstyle : style.IsLegible) (role : String)
    (faulty : List Bool) (index : Nat) :
    Reads style.id ((unitsFrom (unitBaseName role) role index faulty).flatMap style.unit)
      (faulty.count true) ((List.range' index faulty.length).map fun i => (unitName role i).toList)
      [] := by
  induction faulty generalizing index with
  | nil => exact Reads.nil
  | cons first rest ih =>
    have hfirst := hstyle.unit index (unitName role index) role first
      (isNumbered_unitName role index)
    have hcount : (first :: rest).count true = first.toNat + rest.count true := by
      cases first <;> simp [Nat.add_comm]
    rw [unitsFrom, List.flatMap_cons, List.length_cons, List.range'_succ, List.map_cons, hcount]
    exact hfirst.append (ih (index + 1))

/-- The functions outside units with given numbers. -/
theorem reads_functions {style : Style} (hstyle : style.IsLegible)
    {function : Nat → String → List String} (hfunction : style.function = some function)
    (role : String) (indices : List Nat) :
    Reads style.id (indices.flatMap fun index => function index role) 0 []
      (indices.map fun i => (Decimal.natText i).toList) := by
  induction indices with
  | nil => exact Reads.nil
  | cons index rest ih => exact (hstyle.function function hfunction index role).append ih

/-- A whole file. -/
theorem reads_fileLines {style : Style} (hstyle : style.IsLegible) {role : String}
    (hbreak : '\n' ∉ role.toList) (hcolon : ':' ∉ role.toList) (faulty : List Bool)
    {functions : Nat} (hfunctions : style.freeFunctions = false → functions = 0) :
    Reads style.id
      (fileLines style role (unitsFrom (unitBaseName role) role 0 faulty) functions)
      (faulty.count true) ((List.range faulty.length).map fun i => (unitName role i).toList)
      ((List.range functions).map fun i => (Decimal.natText i).toList) := by
  have hrange : List.range faulty.length = List.range' 0 faulty.length := List.range_eq_range'
  have hfront := (hstyle.header role hbreak hcolon).append (reads_unitsFrom hstyle role faulty 0)
  rw [fileLines, hstyle.footer, List.append_nil, hrange]
  rw [Nat.zero_add] at hfront
  cases hfunction : style.function with
  | none =>
    obtain rfl := hfunctions (by rw [hstyle.free, hfunction]; rfl)
    rw [List.append_nil]
    exact hfront
  | some function =>
    have hall := hfront.append (reads_functions hstyle hfunction role (List.range functions))
    rwa [List.append_nil] at hall

/-- The lines of a text, with what stands behind the last line end. -/
def linesOf (text : String) : List (List Char) := Text.splitAt '\n' text.toList

theorem reads_empty (language : String) : Reads language [""] 0 [] [] where
  whole := by simp
  marks := by simp [isMarked, toList_faultMarker, Text.includes]
  units := by
    simp only [unitOpenings]
    split_ifs <;> simp [declared, Text.dropWord]
  functions := by
    simp only [functionOpenings]
    split_ifs <;> simp [declared, Text.dropWord]

/-- What the lines of a text say is what the lines say that it is made of. -/
theorem linesOf_fileText {style : Style} (hstyle : style.IsLegible) {request : Request}
    (hbreak : '\n' ∉ request.role.toList) (hcolon : ':' ∉ request.role.toList)
    {faulty : List Bool} (hsome : faulty ≠ [])
    (hfunctions : style.freeFunctions = false → (functionCount style request.lines).steps = 0) :
    ∃ lines, linesOf (fileText style request faulty) = lines.map String.toList ∧
      Reads style.id lines (faulty.count true)
        ((List.range faulty.length).map fun i => (unitName request.role i).toList)
        ((List.range (functionCount style request.lines).steps).map
          fun i => (Decimal.natText i).toList) := by
  have hfile := reads_fileLines hstyle hbreak hcolon faulty hfunctions
  have hlines : fileLines style request.role
      (unitsFrom (unitBaseName request.role) request.role 0 faulty)
      (functionCount style request.lines).steps ≠ [] := by
    intro hnil
    have hunits := hfile.units
    rw [hnil, List.map_nil, List.filterMap_nil, eq_comm, List.map_eq_nil_iff,
      List.range_eq_nil, List.length_eq_zero_iff] at hunits
    exact hsome hunits
  refine ⟨_, ?_, by simpa using hfile.append (reads_empty style.id)⟩
  rw [linesOf, fileText, Text.splitAt_join hlines hfile.whole, List.map_append]
  simp

/-! ### Reports -/

theorem freeFunctions_eq_false_iff : ∀ style ∈ Registry.default.styles,
    (style.freeFunctions = false ↔ style.id = "java" ∨ style.id = "csharp") := by
  simp only [Registry.default, List.forall_mem_cons]
  simp [python, javascript, typescript, java, go, rust, csharp, kotlin, swift]

/-- What is reported of a file is so in its text: a line is marked for each fault, and there is a
    line for each unit and for each function outside units. The functions have the numbers from zero
    on, and the units have these numbers behind the name that the role gives. -/
structure Synthesized.IsFaithful (style : Style) (role : String) (units functions : Nat)
    (file : Synthesized) : Prop where
  placeholder : file.placeholder = false
  unitCount : file.unitCount = .real units
  functionCount : file.functionCount = .real functions
  faulty : file.faultsInjected ≤ units
  markedLines : (linesOf file.text).countP isMarked = file.faultsInjected
  unitLines : (linesOf file.text).filterMap (declared (unitOpenings style.id)) =
    (List.range units).map fun i => (unitName role i).toList
  nodup : ((List.range units).map fun i => (unitName role i).toList).Nodup
  functionLines : (linesOf file.text).filterMap (declared (functionOpenings style.id)) =
    (List.range functions).map fun i => (Decimal.natText i).toList

variable {ε : Type} {request : Request} {style : Style}

/-- Every file with a style is as it is reported, for every budget of lines, setting of faults and
    generator, and for every role in one line that has no colon with which a marker might end. The
    budget sets how many units and functions outside units there are, by quotients that are exact
    where counts of lines are, and each unit draws a word if faults are enabled. -/
theorem synthesize_reports (hstyle : Registry.default.get? request.language = some style)
    (hbreak : '\n' ∉ request.role.toList) (hcolon : ':' ∉ request.role.toList) {n : Nat}
    (hlines : request.lines.IsCount n) (hgrid : request.lines.IsBinary64)
    (faults : FaultInjection) (g : Gen) :
    ∃ (file : Synthesized) (units functions : Nat),
      (synthesize Registry.default request faults : Drawing ε _).run g =
        (.ok file, g.after (if faults.enabled then units else 0)) ∧
      file.IsFaithful style request.role units functions ∧
      (n < 2 ^ 53 → units = max 1 (n / 50)) ∧
      (if style.id = "java" ∨ style.id = "csharp" then functions = 0
        else n < 2 ^ 53 → functions = max 1 (n / 30)) := by
  have hmem : style ∈ Registry.default.styles := List.mem_of_find?_eq_some hstyle
  have hfree := freeFunctions_eq_false_iff style hmem
  obtain ⟨units, hunits, hone, hunitsExact⟩ := exists_unitCount_eq hlines hgrid
  obtain ⟨functions, hfunctions, hnone, hfunctionsExact⟩ :=
    exists_functionCount_eq hlines hgrid style
  have hrun := @run_synthesize_eq ε _ _ _ hstyle faults g
  have hlength := length_faultyUnits faults request g
  rw [hunits, Number.steps_natCast] at hlength
  have hsteps : (functionCount style request.lines).steps = functions := by
    rw [hfunctions, Number.steps_natCast]
  have hsome : faultyUnits faults request g ≠ [] := List.length_pos_iff.1 (by omega)
  obtain ⟨lines, htext, hreads⟩ := linesOf_fileText (Registry.isLegible style hmem) hbreak hcolon
    hsome fun h => hsteps.trans (hnone h)
  rw [hlength, hsteps] at hreads
  rw [hunits, hfunctions, Number.steps_natCast] at hrun
  refine ⟨_, units, functions, hrun, ?_, hunitsExact, ?_⟩
  · refine ⟨rfl, rfl, rfl, hlength ▸ List.count_le_length, ?_, ?_, ?_, ?_⟩
    · rw [htext, hreads.marks]
    · rw [htext, hreads.units]
    · exact List.nodup_range.map fun i j h =>
        unitName_injective request.role (String.toList_inj.1 h)
    · rw [htext, hreads.functions]
  · split
    next hid => exact hnone (hfree.2 hid)
    next hid =>
      rw [← hfree, Bool.not_eq_false] at hid
      intro hexact
      rw [hfunctionsExact hexact, if_pos hid]

/-- A file of 120 lines has two units and four functions. -/
theorem synthesize_reports_kotlin :
    let request : Request := ⟨"KT", "service_main", 120⟩
    let faults : FaultInjection := ⟨true, .real (1 / 2)⟩
    let g : Gen := .ofText "again"
    Registry.default.get? "KT" = some kotlin ∧ '\n' ∉ "service_main".toList ∧
      ':' ∉ "service_main".toList ∧ request.lines.IsCount 120 ∧ request.lines.IsBinary64 ∧
      ∃ file, (synthesize Registry.default request faults : Drawing Unit _).run g =
          (.ok file, g.after 2) ∧
        file.IsFaithful kotlin "service_main" 2 4 := by
  intro request faults g
  have hstyle : Registry.default.get? "KT" = some kotlin := rfl
  have hrequest : Registry.default.get? request.language = some kotlin := hstyle
  have hbreak : '\n' ∉ "service_main".toList := by decide
  have hcolon : ':' ∉ "service_main".toList := by decide
  have hlines : request.lines.IsCount 120 := ⟨rfl, rfl⟩
  have hgrid : request.lines.IsBinary64 := by decide +kernel
  obtain ⟨file, units, functions, hrun, hfaithful, hunits, hfunctions⟩ :=
    synthesize_reports hrequest hbreak hcolon hlines hgrid faults g
  obtain rfl : units = 2 := hunits (by decide)
  obtain rfl : functions = 4 := hfunctions (by decide)
  exact ⟨hstyle, hbreak, hcolon, hlines, hgrid, file, hrun, hfaithful⟩

end CorpusForge.Source
