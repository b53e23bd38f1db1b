import CorpusForge.Proofs.Config.Acceptance
import CorpusForge.Proofs.Random.Drawing
import CorpusForge.Source.Synthesis

/-!
# Faults in source files

With faults enabled, one word is drawn for each unit of a source file, whatever becomes of the unit.
So what is drawn behind a file does not depend on the probability of faults, and a unit that is
faulty with a probability is so with a greater one.

* `Drawing.passes_mono`: a greater chance;
* `Source.run_synthesize`: a file and the generator behind it, by the words that are drawn.
-/

namespace CorpusForge

/-! ### Chances -/

namespace Drawing

/-- A word falls within a probability. -/
def passes (probability : Number) (u : UInt32) : Bool := (fraction u).lt probability

theorem run_chance {ε : Type} (probability : Number) (g : Gen) :
    (chance probability : Drawing ε Bool).run g = (.ok (passes probability g.word), g.advance) := by
  rw [passes]
  rfl

theorem exists_denotes_fraction (u : UInt32) :
    ∃ x : Rat, (fraction u).Denotes x ∧ 0 ≤ x ∧ x < 1 := by
  refine ⟨(u.toNat : Rat) / 4294967296, ⟨rfl, rfl⟩, by positivity, ?_⟩
  have hlt : (u.toNat : Rat) < 4294967296 := by exact_mod_cast u.toNat_lt
  rw [div_lt_one (by norm_num)]
  exact hlt

variable {p q : Number} {x y : Rat} {u : UInt32}

/-- What falls within a probability falls within a greater one. -/
theorem passes_mono (hp : p.Denotes x) (hq : q.Denotes y) (hle : x ≤ y)
    (h : passes p u = true) : passes q u = true := by
  obtain ⟨z, hz, -, -⟩ := exists_denotes_fraction u
  exact (hz.lt_iff hq).2 (((hz.lt_iff hp).1 h).trans_le hle)

theorem passes_zero (hp : p.Denotes 0) : passes p u = false := by
  obtain ⟨z, hz, hnonneg, -⟩ := exists_denotes_fraction u
  exact Bool.eq_false_iff.2 fun h => absurd ((hz.lt_iff hp).1 h) (not_lt.2 hnonneg)

theorem passes_one (hp : p.Denotes 1) : passes p u = true := by
  obtain ⟨z, hz, -, hlt⟩ := exists_denotes_fraction u
  exact (hz.lt_iff hp).2 hlt

end Drawing

namespace Source

/-! ### Files -/

/-- Units from a position on, by whether they are faulty. -/
def unitsFrom (base role : String) : (index : Nat) → List Bool → List CodeUnit
  | _, [] => []
  | index, faulty :: rest =>
    ⟨index, base ++ Decimal.natText index, role, faulty⟩ :: unitsFrom base role (index + 1) rest

/-- The text of a file with a style, by whether its units are faulty. -/
def fileText (style : Style) (request : Request) (faulty : List Bool) : String :=
  Text.join "\n" (fileLines style request.role
    (unitsFrom (unitBaseName request.role) request.role 0 faulty)
    (functionCount style request.lines).steps) ++ "\n"

/-- Which units of a file are faulty, with the words that come next. -/
def drawnFaults (probability : Number) (request : Request) (g : Gen) : List Bool :=
  (g.words (unitCount request.lines).steps).map (Drawing.passes probability)

/-- Which units of a file are faulty, with a setting of faults. -/
def faultyUnits (faults : FaultInjection) (request : Request) (g : Gen) : List Bool :=
  if faults.enabled then drawnFaults faults.probability request g
  else List.replicate (unitCount request.lines).steps false

variable {ε : Type} {registry : Registry} {request : Request} {probability : Number}

theorem length_drawnFaults (probability : Number) (request : Request) (g : Gen) :
    (drawnFaults probability request g).length = (unitCount request.lines).steps := by
  rw [drawnFaults, List.length_map, Gen.length_words]

theorem length_faultyUnits (faults : FaultInjection) (request : Request) (g : Gen) :
    (faultyUnits faults request g).length = (unitCount request.lines).steps := by
  rw [faultyUnits]
  split
  next => exact length_drawnFaults faults.probability request g
  next => exact List.length_replicate

theorem length_filter_unitsFrom (base role : String) (index : Nat) (faulty : List Bool) :
    ((unitsFrom base role index faulty).filter CodeUnit.faulty).length = faulty.count true := by
  induction faulty generalizing index with
  | nil => rfl
  | cons first rest ih =>
    cases first <;> simp [unitsFrom, ih]

/-- One word is drawn for each unit. -/
theorem run_drawUnits (base role : String) (probability : Number) (count index : Nat) (g : Gen) :
    (drawUnits base role ⟨true, probability⟩ count index : Drawing ε _).run g =
      (.ok (unitsFrom base role index ((g.words count).map (Drawing.passes probability))),
        g.after count) := by
  induction count generalizing index g with
  | zero => rfl
  | succ count ih =>
    rw [drawUnits, if_pos rfl, Drawing.run_bind, Drawing.run_chance]
    dsimp only
    rw [Drawing.run_bind, ih]
    dsimp only
    rw [Drawing.run_pure, Gen.words, Gen.after_succ, List.map_cons, unitsFrom]

/-- Nothing is drawn when faults are not enabled. -/
theorem run_drawUnits_of_disabled {faults : FaultInjection} (h : faults.enabled = false)
    (base role : String) (count index : Nat) (g : Gen) :
    (drawUnits base role faults count index : Drawing ε _).run g =
      (.ok (unitsFrom base role index (List.replicate count false)), g) := by
  induction count generalizing index with
  | zero => rfl
  | succ count ih =>
    rw [drawUnits, h, if_neg Bool.false_ne_true, Drawing.run_bind, Drawing.run_pure]
    dsimp only
    rw [Drawing.run_bind, ih]
    dsimp only
    rw [Drawing.run_pure, List.replicate_succ, unitsFrom]

/-- A file with a style, by which of its units are faulty. -/
theorem run_synthesize_eq {style : Style} (hstyle : registry.get? request.language = some style)
    (faults : FaultInjection) (g : Gen) :
    (synthesize registry request faults : Drawing ε _).run g =
      (.ok ⟨fileText style request (faultyUnits faults request g), unitCount request.lines,
        functionCount style request.lines, (faultyUnits faults request g).count true, false⟩,
        g.after (if faults.enabled then (unitCount request.lines).steps else 0)) := by
  rw [synthesize, hstyle]
  dsimp only
  obtain ⟨enabled, probability⟩ := faults
  cases enabled with
  | true =>
    rw [Drawing.run_bind, run_drawUnits, faultyUnits, if_pos rfl, ← length_filter_unitsFrom]
    rfl
  | false =>
    rw [Drawing.run_bind, run_drawUnits_of_disabled rfl, faultyUnits, if_neg Bool.false_ne_true,
      ← length_filter_unitsFrom]
    rfl

/-- A file with a style, by the words that are drawn for it. -/
theorem run_synthesize {style : Style} (hstyle : registry.get? request.language = some style)
    (g : Gen) :
    ∃ file : Synthesized,
      (synthesize registry request ⟨true, probability⟩ : Drawing ε _).run g =
        (.ok file, g.after (unitCount request.lines).steps) ∧
      file.text = fileText style request (drawnFaults probability request g) ∧
      file.faultsInjected = (drawnFaults probability request g).count true :=
  ⟨_, run_synthesize_eq hstyle ⟨true, probability⟩ g, rfl, rfl⟩

theorem run_synthesize_none (hstyle : registry.get? request.language = none)
    (faults : FaultInjection) (g : Gen) :
    (synthesize registry request faults : Drawing ε _).run g =
      (.ok ⟨placeholderText request.lines, 0, 0, 0, true⟩, g) := by
  rw [synthesize, hstyle]
  rfl

/-! ### Two probabilities -/

variable {p q : Number} {x y : Rat}

/-- What is faulty stays so. -/
def IsFaultier (faulty faulty' : List Bool) : Prop :=
  List.Forall₂ (fun unit unit' => unit = true → unit' = true) faulty faulty'

theorem IsFaultier.count_le {faulty faulty' : List Bool} (h : IsFaultier faulty faulty') :
    faulty.count true ≤ faulty'.count true := by
  induction h with
  | nil => exact Nat.le_refl _
  | @cons unit unit' rest rest' hunit _ ih =>
    cases unit <;> cases unit' <;> simp_all
    omega

/-- The units that are faulty with a greater probability. -/
theorem isFaultier_drawnFaults (hp : p.Denotes x) (hq : q.Denotes y) (hle : x ≤ y)
    (request : Request) (g : Gen) :
    IsFaultier (drawnFaults p request g) (drawnFaults q request g) := by
  rw [IsFaultier, drawnFaults, drawnFaults, List.forall₂_map_left_iff, List.forall₂_map_right_iff,
    List.forall₂_same]
  exact fun u _ => Drawing.passes_mono hp hq hle

theorem count_drawnFaults_zero (hp : p.Denotes 0) (request : Request) (g : Gen) :
    (drawnFaults p request g).count true = 0 := by
  refine List.count_eq_zero.2 fun hmem => ?_
  obtain ⟨u, -, hu⟩ := List.mem_map.1 hmem
  rw [Drawing.passes_zero hp] at hu
  exact nomatch hu

theorem count_drawnFaults_one (hp : p.Denotes 1) (request : Request) (g : Gen) :
    (drawnFaults p request g).count true = (unitCount request.lines).steps := by
  rw [← length_drawnFaults p request g, List.count_eq_length]
  intro faulty hmem
  obtain ⟨u, -, hu⟩ := List.mem_map.1 hmem
  rw [← hu, Drawing.passes_one hp]

end Source

end CorpusForge
