import CorpusForge.Proofs.Disk
import CorpusForge.Proofs.Spec
import CorpusForge.Status

/-!
# The repositories that a status shows

A status shows the repositories whose names come last. Their order is that of the padded digits, in
which a number that is too long for the padding goes before a shorter one unless its first digits
denote as much. So the repositories that are shown are the newest ones as long as their numbers are
equally wide, and not beyond.

* `Disk.Houses`: a directory that holds certain repositories;
* `CorpusStatus.exists_repositories`: the repositories in the order in which they are shown;
* `CorpusStatus.shows_newest_iff`: when the newest ones are shown.
-/

namespace CorpusForge

/-- A repository in a directory, by its number and its template. -/
structure Holding where
  id : Nat
  template : String
  deriving DecidableEq

namespace Holding

/-- The name of its directory. -/
def name (h : Holding) : String := repositoryName (.ofNat h.id) (some h.template)

variable {a b : Holding}

theorem isCount_id (h : a.id ≤ 2 ^ 53) : (Number.ofNat a.id).IsCount a.id :=
  Number.ofNat_eq h ▸ Number.isCount_real _

theorem id_eq_of_name_eq (ha : a.id ≤ 2 ^ 53) (hb : b.id ≤ 2 ^ 53) (h : a.name = b.name) :
    a.id = b.id :=
  eq_of_repositoryName_eq (isCount_id ha) (isCount_id hb) ha hb h

theorem startsWith_name (h : a.id ≤ 2 ^ 53) :
    Text.startsWith a.name.toList "repo-".toList = true := by
  rw [name, toList_repositoryName (isCount_id h) h, Text.startsWith_iff]
  exact List.prefix_append _ _

theorem precedes_name_iff (ha : a.id ≤ 2 ^ 53) (hb : b.id ≤ 2 ^ 53) (hne : a.id ≠ b.id) :
    Text.precedes a.name b.name = true ↔ Decimal.padded a.id < Decimal.padded b.id :=
  precedes_repositoryName_iff (isCount_id ha) (isCount_id hb) ha hb hne

end Holding

namespace Disk

/-- The repositories that a directory holds are these. Their numbers are different, and no greater
    than a run can count. -/
structure Houses (disk : Disk) (dir : List String) (held : List Holding) : Prop where
  isDirectory : disk.isDirectory dir = true
  iff : ∀ name, disk.isDirectory (dir ++ [name]) = true ∧
    Text.startsWith name.toList "repo-".toList = true ↔ ∃ h ∈ held, h.name = name
  nodup : (held.map Holding.id).Nodup
  id_le : ∀ h ∈ held, h.id ≤ 2 ^ 53

variable {disk : Disk} {dir : List String} {held : List Holding}

theorem Houses.eq_of_id_eq (h : disk.Houses dir held) {a b : Holding} (ha : a ∈ held)
    (hb : b ∈ held) (heq : a.id = b.id) : a = b :=
  List.inj_on_of_nodup_map h.nodup ha hb heq

theorem Houses.nodup_names (h : disk.Houses dir held) : (held.map Holding.name).Nodup := by
  refine (List.nodup_map_iff_inj_on h.nodup.of_map).2 fun a ha b hb heq => ?_
  exact h.eq_of_id_eq ha hb (Holding.id_eq_of_name_eq (h.id_le a ha) (h.id_le b hb) heq)

/-- Repositories in the directory are told by their names. -/
theorem Houses.eq_of_map_name_eq (h : disk.Houses dir held) {listed listed' : List Holding}
    (hlisted : listed ⊆ held) (hlisted' : listed' ⊆ held)
    (heq : listed.map Holding.name = listed'.map Holding.name) : listed = listed' := by
  induction listed generalizing listed' with
  | nil => exact (List.map_eq_nil_iff.1 heq.symm).symm
  | cons a listed ih =>
    obtain ⟨b, rest, rfl, hname, hrest⟩ := List.map_eq_cons_iff.1 heq.symm
    obtain ⟨ha, hlisted⟩ := List.cons_subset.1 hlisted
    obtain ⟨hb, hlisted'⟩ := List.cons_subset.1 hlisted'
    have hid := Holding.id_eq_of_name_eq (h.id_le a ha) (h.id_le b hb) hname.symm
    rw [h.eq_of_id_eq ha hb hid, ih hlisted hlisted' hrest.symm]

/-- A disk with a directory that holds repositories and nothing else. -/
def housing (dir : List String) (held : List Holding) : Disk :=
  (dir :: held.map fun h => dir ++ [h.name]).foldl addDir empty

theorem houses_housing (hdir : dir ≠ []) (hnodup : (held.map Holding.id).Nodup)
    (hle : ∀ h ∈ held, h.id ≤ 2 ^ 53) : (housing dir held).Houses dir held := by
  have hat : ∀ path, path ≠ [] → ((housing dir held).isDirectory path = true ↔
      path = dir ∨ ∃ h ∈ held, dir ++ [h.name] = path) := fun path hpath => by
    have hempty : empty.node? path = none := by
      simpa [exists?] using exists?_empty hpath
    rw [isDirectory, housing, node?_foldl_addDir, hempty, Option.none_or]
    split_ifs with hmem
    · exact iff_of_true rfl (by simpa using hmem)
    · exact iff_of_false id (by simpa using hmem)
  refine ⟨(hat dir hdir).2 (.inl rfl), fun name => ?_, hnodup, hle⟩
  rw [hat _ (by simp)]
  constructor
  · rintro ⟨hself | ⟨h, hmem, hname⟩, -⟩
    · exact absurd hself (by simp)
    · exact ⟨h, hmem, List.singleton_inj.1 (List.append_cancel_left hname)⟩
  · rintro ⟨h, hmem, rfl⟩
    exact ⟨.inr ⟨h, hmem, rfl⟩, Holding.startsWith_name (hle h hmem)⟩

end Disk

namespace CorpusStatus

variable {disk : Disk} {path : List String} {cwd dir : String} {held sorted : List Holding}
  {before : Nat → Nat → Prop}

/-! ### How many are shown -/

theorem shown_of_isCount {latest : Number} {n : Nat} (h : latest.IsCount n) (total : Nat) :
    shown latest total = min n total := by
  have htotal : (Number.real total).IsCount total := Number.isCount_real total
  rw [shown, Number.lt_eq_of_isFinite htotal.1 h.1, htotal.2, h.2, h.toInt, Int.toNat_natCast]
  simp only [decide_eq_true_eq, Nat.cast_lt]
  split
  next hlt => rw [min_eq_right hlt.le]
  next hle => rw [min_eq_left (not_lt.1 hle)]

theorem shown_le (latest : Number) (total : Nat) : shown latest total ≤ total := by
  rw [shown]
  split_ifs with hall
  · exact le_rfl
  cases latest with
  | nan => exact Nat.zero_le _
  | infinite negative =>
    cases negative with
    | true => exact Nat.zero_le _
    | false => exact absurd rfl hall
  | negZero => exact Nat.zero_le _
  | real q =>
    have hle : q ≤ total := by
      rw [Number.lt_eq_of_isFinite rfl rfl, decide_eq_true_eq] at hall
      exact not_lt.1 hall
    rw [Number.toInt, Int.toNat_le]
    change (if q < 0 then q.ceil else q.floor) ≤ (total : Int)
    split_ifs with hneg
    · have hceil : q.ceil ≤ 0 := Rat.ceil_le_iff.2 (by exact_mod_cast hneg.le)
      omega
    · have hfloor : (q.floor : Rat) ≤ total := (Rat.floor_le q).trans hle
      exact_mod_cast hfloor

/-! ### What is shown -/

/-- Some of the repositories, the last ones in an order of their numbers, and the very last one
    first. -/
structure IsLast (before : Nat → Nat → Prop) (held : List Holding) (count : Nat)
    (listed : List Holding) : Prop where
  length : listed.length = count
  subset : listed ⊆ held
  order : listed.Pairwise fun a b => before b.id a.id
  last : ∀ a ∈ held, a ∉ listed → ∀ b ∈ listed, before a.id b.id

/-- A status shows as many repositories as it should, the last ones in an order. -/
def Shows (before : Nat → Nat → Prop) (held : List Holding) (count : Nat) (status : CorpusStatus) :
    Prop :=
  ∃ listed, status.repositories.map RepositoryStatus.name = listed.map Holding.name ∧
    IsLast before held count listed

theorem isLast_take (hperm : sorted.Perm held)
    (hsorted : sorted.Pairwise fun a b => before b.id a.id) {count : Nat}
    (hcount : count ≤ held.length) : IsLast before held count (sorted.take count) where
  length := List.length_take_of_le (hperm.length_eq ▸ hcount)
  subset := fun a ha => hperm.subset (List.mem_of_mem_take ha)
  order := hsorted.sublist (List.take_sublist _ _)
  last := fun a ha hnot b hb => by
    have hsplit : a ∈ sorted.take count ++ sorted.drop count := by
      rw [List.take_append_drop]
      exact hperm.symm.subset ha
    exact hsorted.rel_of_mem_take_of_mem_drop hb ((List.mem_append.1 hsplit).resolve_left hnot)

/-- The names of the repositories in a directory, in their order. -/
theorem exists_names (hheld : disk.Houses path held) (shown : String) :
    ∃ entries, disk.entries path shown = .ok entries ∧
      ((entries.filter isRepository).map Prod.fst).Perm (held.map Holding.name) ∧
      ((entries.filter isRepository).map Prod.fst).Pairwise fun s t =>
        Text.precedes s t = true := by
  obtain ⟨entries, hentries, hmem, hsorted⟩ := Disk.exists_entries hheld.isDirectory shown
  have horder : ((entries.filter isRepository).map Prod.fst).Pairwise fun s t =>
      Text.precedes s t = true := List.pairwise_map.2 (hsorted.filter _)
  refine ⟨entries, hentries, ?_, horder⟩
  have hnodup := horder.imp fun {s t} hlt => Text.ne_of_precedes hlt
  refine (List.perm_ext_iff_of_nodup hnodup hheld.nodup_names).2 fun name => ?_
  rw [List.mem_map (l := held), ← hheld.iff name, Disk.isDirectory_eq_true_iff]
  simp only [List.mem_map, List.mem_filter, Prod.exists, hmem, exists_and_right, exists_eq_right,
    isRepository, Bool.and_eq_true]
  constructor
  · rintro ⟨node, hnode, hdirectory, hname⟩
    cases node with
    | file text => exact nomatch hdirectory
    | directory modified => exact ⟨⟨modified, hnode⟩, hname⟩
  · rintro ⟨⟨modified, hnode⟩, hname⟩
    exact ⟨.directory modified, hnode, rfl, hname⟩

/-- The repositories are shown in the order of their padded digits, the last one first. -/
theorem exists_repositories (hdir : dir ≠ "")
    (hheld : disk.Houses (Path.segments (Path.resolve cwd dir)) held) :
    ∃ sorted : List Holding, sorted.Perm held ∧
      (sorted.Pairwise fun a b => Decimal.padded b.id < Decimal.padded a.id) ∧
      ∀ count target latest, ∃ status, read disk count cwd dir target latest = .ok status ∧
        status.total = held.length ∧
        status.repositories.map RepositoryStatus.name =
          (sorted.take (shown latest held.length)).map Holding.name := by
  obtain ⟨held', hentries, hperm, horder⟩ := exists_names hheld dir
  -- the names are those of the repositories in some order
  obtain ⟨asc, hasc, hheldPerm⟩ := List.perm_comp_forall₂ hperm
    (List.forall₂_map_left_iff.2 (List.forall₂_same.2 fun h _ => rfl) :
      List.Forall₂ (fun name h => name = Holding.name h) (held.map Holding.name) held)
  have hasc : (held'.filter isRepository).map Prod.fst = asc.map Holding.name := by
    rw [← List.forall₂_eq_eq_eq]
    exact List.forall₂_map_right_iff.2 hasc
  have hlength : asc.length = held.length := hheldPerm.length_eq
  refine ⟨asc.reverse, (List.reverse_perm _).trans hheldPerm, ?_, fun count target latest => ?_⟩
  · rw [List.pairwise_reverse]
    rw [hasc, List.pairwise_map] at horder
    refine horder.imp_of_mem fun {a b} ha hb hlt => ?_
    have ha := hheldPerm.subset ha
    have hb := hheldPerm.subset hb
    refine (Holding.precedes_name_iff (hheld.id_le a ha) (hheld.id_le b hb) fun heq => ?_).1 hlt
    exact Text.ne_of_precedes hlt (congrArg Holding.name (hheld.eq_of_id_eq ha hb heq))
  · have hopen : entries disk (Path.segments (Path.resolve cwd dir)) dir = .ok held' := by
      rw [entries, if_neg hdir, hentries]
    have hname : ∀ name, (readRepository disk count (Path.resolve cwd dir) name).name = name :=
      fun name => by
        rw [readRepository]
        split <;> rfl
    rw [read, hopen]
    refine ⟨_, rfl, by simp only [hasc, List.length_map, hlength], ?_⟩
    simp only [hasc, List.length_map, hlength, List.map_map, Function.comp_def, hname,
      List.map_take, List.map_reverse]

/-- When the order of the padded digits lists repositories by their numbers, it is that of the
    numbers. -/
theorem padded_lt_of_pairwise
    (hpadded : sorted.Pairwise fun a b => Decimal.padded b.id < Decimal.padded a.id)
    (hlt : sorted.Pairwise fun a b => b.id < a.id) {a b : Holding} (ha : a ∈ sorted)
    (hb : b ∈ sorted) (h : a.id < b.id) : Decimal.padded a.id < Decimal.padded b.id := by
  obtain ⟨i, hi, rfl⟩ := List.getElem_of_mem ha
  obtain ⟨j, hj, rfl⟩ := List.getElem_of_mem hb
  rcases lt_trichotomy i j with hij | rfl | hji
  · exact absurd h (List.pairwise_iff_getElem.1 hlt i j hi hj hij).not_gt
  · exact absurd h (lt_irrefl _)
  · exact List.pairwise_iff_getElem.1 hpadded j i hj hi hji

theorem pairwise_lt_of_padded_lt
    (hpadded : sorted.Pairwise fun a b => Decimal.padded b.id < Decimal.padded a.id)
    (hwide : ∀ a ∈ sorted, ∀ b ∈ sorted, a.id < b.id →
      Decimal.padded a.id < Decimal.padded b.id) :
    sorted.Pairwise fun a b => b.id < a.id :=
  hpadded.imp_of_mem fun {a b} ha hb hlt => by
    rcases lt_trichotomy a.id b.id with hless | heq | hgreater
    · exact absurd (hwide a ha b hb hless) hlt.not_gt
    · exact absurd hlt (heq ▸ lt_irrefl _)
    · exact hgreater

/-- A status shows the repositories that are last in the order of their padded digits. They are the
    newest ones, however many are asked for, just when of any two numbers the lesser one is at most
    the greater one with the last digits cut off that it has more: so it is with numbers of up to
    five digits. -/
theorem shows_newest_iff (hdir : dir ≠ "")
    (hheld : disk.Houses (Path.segments (Path.resolve cwd dir)) held)
    (count : String → Option Number) (target : Number) :
    (∀ latest, ∃ status, read disk count cwd dir target latest = .ok status ∧
      status.total = held.length ∧
      status.Shows (fun m n => Decimal.padded m < Decimal.padded n) held
        (shown latest held.length)) ∧
    ((∀ latest, ∃ status, read disk count cwd dir target latest = .ok status ∧
      status.Shows (· < ·) held (shown latest held.length)) ↔
      ∀ a ∈ held, ∀ b ∈ held, a.id < b.id → a.id ≤
        b.id / 10 ^ ((Decimal.padded b.id).length - (Decimal.padded a.id).length)) := by
  obtain ⟨sorted, hperm, hpadded, hread⟩ := exists_repositories hdir hheld
  refine ⟨fun latest => ?_, fun hnewest a ha b hb hlt => ?_, fun hwide latest => ?_⟩
  · obtain ⟨status, hstatus, htotal, hnames⟩ := hread count target latest
    exact ⟨status, hstatus, htotal, _, hnames, isLast_take hperm hpadded (shown_le _ _)⟩
  · -- when all are asked for the two orders list them in the same way
    obtain ⟨status, hstatus, htotal, hnames⟩ := hread count target (.infinite false)
    obtain ⟨status', hstatus', listed, hnames', hlast⟩ := hnewest (.infinite false)
    obtain rfl : status = status' := Except.ok.inj (hstatus.symm.trans hstatus')
    have hall : sorted.take (shown (.infinite false) held.length) = sorted :=
      List.take_of_length_le hperm.length_eq.le
    rw [hall] at hnames
    obtain rfl := hheld.eq_of_map_name_eq hperm.subset hlast.subset (hnames.symm.trans hnames')
    have ha := hperm.symm.subset ha
    have hb := hperm.symm.subset hb
    exact (Decimal.padded_lt_iff hlt).1 (padded_lt_of_pairwise hpadded hlast.order ha hb hlt)
  · obtain ⟨status, hstatus, -, hnames⟩ := hread count target latest
    have hwide : ∀ a ∈ sorted, ∀ b ∈ sorted, a.id < b.id →
        Decimal.padded a.id < Decimal.padded b.id := fun a ha b hb hlt =>
      (Decimal.padded_lt_iff hlt).2 (hwide a (hperm.subset ha) b (hperm.subset hb) hlt)
    exact ⟨status, hstatus, _, hnames,
      isLast_take hperm (pairwise_lt_of_padded_lt hpadded hwide) (shown_le _ _)⟩

theorem shows_newest_iff_five_digits :
    ∃ status, read (Disk.housing ["out"] [⟨5001, "a"⟩, ⟨5002, "b"⟩, ⟨5003, "c"⟩]) (fun _ => some 3)
        "/" "out" 5050 2 = .ok status ∧
      status.total = 3 ∧
      status.Shows (· < ·) [⟨5001, "a"⟩, ⟨5002, "b"⟩, ⟨5003, "c"⟩] 2 := by
  have hpath : Path.segments (Path.resolve "/" "out") = ["out"] := by decide +kernel
  have hheld := @Disk.houses_housing ["out"] [⟨5001, "a"⟩, ⟨5002, "b"⟩, ⟨5003, "c"⟩] (by decide)
    (by decide) (by decide)
  have hnamed : "out" ≠ "" := by decide
  obtain ⟨hpadded, hnewest⟩ := shows_newest_iff hnamed (hpath ▸ hheld) (fun _ => some 3) 5050
  obtain ⟨status, hstatus, htotal, -⟩ := hpadded 2
  obtain ⟨status', hstatus', hshows⟩ := hnewest.2 (by decide) 2
  obtain rfl : status = status' := Except.ok.inj (hstatus.symm.trans hstatus')
  rw [shown_of_isCount (n := 2) ⟨rfl, rfl⟩] at hshows
  exact ⟨status, hstatus, htotal, hshows⟩

/-- Of the repositories with the numbers 99999 and 100000 the older one is shown. -/
theorem shows_older_first :
    ∃ status, read (Disk.housing ["out"] [⟨99999, "app"⟩, ⟨100000, "app"⟩]) (fun _ => some 3)
        "/" "out" 1000 1 = .ok status ∧
      status.repositories.map RepositoryStatus.name = ["repo-99999-app"] ∧
      ¬status.Shows (· < ·) [⟨99999, "app"⟩, ⟨100000, "app"⟩] 1 := by
  have hpath : Path.segments (Path.resolve "/" "out") = ["out"] := by decide +kernel
  have hheld := @Disk.houses_housing ["out"] [⟨99999, "app"⟩, ⟨100000, "app"⟩] (by decide)
    (by decide) (by decide)
  have hnamed : "out" ≠ "" := by decide
  obtain ⟨sorted, hperm, hpadded, hread⟩ := exists_repositories hnamed (hpath ▸ hheld)
  have hsorted : sorted = [⟨99999, "app"⟩, ⟨100000, "app"⟩] :=
    hperm.eq_of_pairwise (fun a b _ _ hlt hgt => absurd hlt hgt.not_gt) hpadded (by decide +kernel)
  obtain ⟨status, hstatus, -, hnames⟩ := hread (fun _ => some 3) 1000 1
  rw [hsorted, shown_of_isCount (n := 1) ⟨rfl, rfl⟩] at hnames
  refine ⟨status, hstatus, hnames.trans (by decide +kernel), ?_⟩
  rintro ⟨listed, hlisted, hlast⟩
  have hfirst : listed = [⟨99999, "app"⟩] :=
    hheld.eq_of_map_name_eq hlast.subset (by simp) (hlisted.symm.trans hnames)
  have hlater := hlast.last ⟨100000, "app"⟩ (by decide) (by rw [hfirst]; decide) ⟨99999, "app"⟩
    (by rw [hfirst]; decide)
  exact absurd hlater (by decide)

end CorpusStatus

end CorpusForge
