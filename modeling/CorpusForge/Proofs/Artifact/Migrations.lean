import CorpusForge.Proofs.Artifact.Bundled
import CorpusForge.Proofs.Artifact.Filling
import CorpusForge.Proofs.Number.Decimal
import CorpusForge.Proofs.Structure.Descent

/-!
# Migrations are numbered by their files

A layout writes the number of a migration into the name of its file, with zeros before it up to
three digits. A rendering gets nothing but the path: it takes the digits of the last name on it, and
reads them as a number. As far as numbers are exact that is the number which was written, however
many digits it has. So no two migrations of a repository are rendered with one number.

* `Artifact.migrationNumber_migrationPath`: the number that a path tells;
* `Structure.IsPlanned.exists_migrations`: the migrations of a repository;
* `Artifact.numbers_migrations`: what they are rendered with.
-/

namespace CorpusForge

/-! ### Paths -/

/-- The last segment of a path is what stands behind its last slash. -/
theorem Path.toList_basename {path : String} {dir name : List Char}
    (hpath : path.toList = dir ++ '/' :: name) (hname : '/' ∉ name) (hsome : name ≠ []) :
    (Path.basename path).toList = name := by
  have hslash : ∀ c ∈ name.reverse, c ≠ '/' := fun c hc heq =>
    hname (heq ▸ List.mem_reverse.1 hc)
  have htrimmed : path.toList.reverse.dropWhile (· = '/') = name.reverse ++ '/' :: dir.reverse := by
    rw [hpath, List.reverse_append, List.reverse_cons, List.append_assoc, List.singleton_append]
    cases hcs : name.reverse with
    | nil => exact absurd (List.reverse_eq_nil_iff.1 hcs) hsome
    | cons c rest =>
      have hc : c ≠ '/' := hslash c (hcs ▸ List.mem_cons_self)
      rw [List.cons_append, List.dropWhile_cons_of_neg (by simpa using hc)]
  rw [Path.basename, htrimmed, List.takeWhile_append_of_pos (by simpa using hslash),
    List.takeWhile_cons_of_neg (by simp), List.append_nil, List.reverse_reverse,
    String.toList_ofList]

namespace Artifact

/-- The path of a migration. -/
def migrationPath (n : Nat) : String :=
  "database/migrations/" ++ Layout.migrations.stem.name (.ofNat n) ++ ".sql"

/-- The number of a migration as it is written. -/
def migrationDigits (n : Nat) : List Char := Text.padLeft 3 '0' (Decimal.digitsOf n)

variable {n : Nat}

/-- The directory of a migration, and the name of its file. -/
theorem toList_migrationPath (hn : n < 2 ^ 53) :
    (migrationPath n).toList = "database/migrations".toList ++
      '/' :: ("migration".toList ++ (migrationDigits n ++ ".sql".toList)) := by
  have hdir : migrationPath n = "database/migrations" ++ "/" ++
    Layout.migrations.stem.name (.ofNat n) ++ ".sql" := rfl
  have hstem : (Layout.migrations.stem.name (.ofNat n)).toList =
    "migration".toList ++ migrationDigits n := Stem.toList_name_numbered _ _ hn
  have hslash : "/".toList = ['/'] := rfl
  rw [hdir, String.toList_append, String.toList_append, String.toList_append, hstem, hslash,
    List.append_assoc, List.append_assoc, List.append_assoc, List.singleton_append]

theorem filter_isDigit_migration (n : Nat) :
    ("migration".toList ++ (migrationDigits n ++ ".sql".toList)).filter Text.isDigit =
      migrationDigits n := by
  have hlabel : "migration".toList.filter Text.isDigit = [] := by decide
  have hextension : ".sql".toList.filter Text.isDigit = [] := by decide
  have hdigits : (migrationDigits n).filter Text.isDigit = migrationDigits n :=
    List.filter_eq_self.2 fun _ => Decimal.isDigit_of_mem_padLeft
  rw [List.filter_append, List.filter_append, hlabel, hdigits, hextension, List.nil_append,
    List.append_nil]

/-- The number that the path of a migration tells. -/
theorem migrationNumber_migrationPath (hn : n < 2 ^ 53) :
    migrationNumber (migrationPath n) = n := by
  have hslash : '/' ∉ "migration".toList ++ (migrationDigits n ++ ".sql".toList) := by
    have hlabel : '/' ∉ "migration".toList := by decide
    have hextension : '/' ∉ ".sql".toList := by decide
    have hdigits : '/' ∉ migrationDigits n := fun hmem =>
      absurd (Decimal.isDigit_of_mem_padLeft hmem) (by decide)
    simp only [List.mem_append, not_or]
    exact ⟨hlabel, hdigits, hextension⟩
  have hsome : "migration".toList ++ (migrationDigits n ++ ".sql".toList) ≠ [] :=
    List.append_ne_nil_of_left_ne_nil (by decide) _
  have hvalue : Text.digitsValue (migrationDigits n) = n := Decimal.ofDigitChars_padLeft 3 n
  rw [migrationNumber, Path.toList_basename (toList_migrationPath hn) hslash hsome,
    filter_isDigit_migration, hvalue, Decimal.toNumber_natCast hn.le]
  exact (Number.isCount_real n).toInt

/-! ### Values -/

theorem value?_migrationId (hn : n < 2 ^ 53) (context : RenderContext) :
    value? (migrationPath n) context "migrationId" = some (String.ofList (migrationDigits n)) := by
  have htext : (Number.intText n).toList = Decimal.digitsOf n := by
    rw [Number.intText, ← Number.ofNat, Number.ofNat_eq hn.le, Number.text_natCast hn,
      String.toList_ofList]
  rw [value?, migrationNumber_migrationPath hn, htext, migrationDigits]

theorem value?_table (hn : n < 2 ^ 53) (context : RenderContext) :
    value? (migrationPath n) context "table" = migrationTables[n % 10]? := by
  rw [value?, migrationNumber_migrationPath hn]
  rfl

/-- Migrations with different numbers are told apart by what they are rendered with. -/
theorem value?_migrationId_inj {m : Nat} (hm : m < 2 ^ 53) (hn : n < 2 ^ 53)
    (context : RenderContext) :
    value? (migrationPath m) context "migrationId" =
      value? (migrationPath n) context "migrationId" ↔ m = n := by
  rw [value?_migrationId hm, value?_migrationId hn, Option.some_inj, String.ofList_inj]
  exact (Decimal.padLeft_digitsOf_injective 3).eq_iff

/-- Migrations that are numbered from zero on are rendered with different numbers. -/
theorem nodup_migrationIds {count : Nat} (hcount : count ≤ 2 ^ 53) (context : RenderContext) :
    ((List.range count).map fun n => value? (migrationPath n) context "migrationId").Nodup := by
  -- the numbers are exact, and so the values tell them
  have hexact : ∀ n ∈ List.range count, n < 2 ^ 53 :=
    fun n hn => (List.mem_range.1 hn).trans_le hcount
  refine List.Nodup.map_on (fun m hm n hn heq => ?_) List.nodup_range
  exact (value?_migrationId_inj (hexact m hm) (hexact n hn) context).1 heq

/-! ### Rendering -/

/-- A migration is rendered from its template, with its values in the places of the
    placeholders. -/
theorem render_migration {shelf : Shelf} {kept : Kept} {context : RenderContext}
    {path text : String} {pieces : List Piece}
    (htext : (text? "migration.sql.tmpl" kept).or (shelf.read "migration.sql.tmpl") = some text)
    (hpieces : placeholderStyle.Splits text.toList pieces)
    (hvalues : ∀ name ∈ ReferenceStyle.names pieces, (value? path context name).isSome = true) :
    (render shelf path .migration context kept).1 =
      .ok (String.ofList (pieces.flatMap (Piece.filled (value? path context)))) := by
  have htemplate : template? path .migration context.spec.language context.archetype =
      .ok (some "migration.sql.tmpl") := if_pos rfl
  have hall : (ReferenceStyle.names pieces).find?
      (fun name => (value? path context name).isNone) = none :=
    List.find?_eq_none.2 fun name hname => by
      obtain ⟨value, hvalue⟩ := Option.isSome_iff_exists.1 (hvalues name hname)
      simp [hvalue]
  rw [render_fst_eq, htemplate]
  dsimp only
  rw [htext]
  dsimp only
  rw [fill_eq_match, (ReferenceStyle.splits_iff placeholderStyle_endsNames).1 hpieces, hall]
  rfl

theorem names_unlines {lines names : List String} {spelled : List (List Char)}
    (h : Spells lines spelled)
    (hnames : ReferenceStyle.names (placeholderStyle.scan
      (spelled.flatMap fun cs => cs ++ ['\n'])) = names) :
    ReferenceStyle.names (placeholderStyle.scan (Text.unlines lines).toList) = names := by
  rw [toList_unlines_of_spells h]
  exact hnames

/-- The bundled template of migrations names the number and the table, and nothing else. -/
theorem names_migration :
    ReferenceStyle.names (placeholderStyle.scan Template.migration.toList) =
      ["migrationId", "table", "table", "table", "table"] := by
  apply names_unlines
  · repeat' constructor
  · decide +kernel

/-- The bundled template of migrations can be filled for every number. -/
theorem render_bundled_migration {n : Nat} (hn : n < 2 ^ 53) (context : RenderContext)
    {kept : Kept} (hkept : Shelf.bundled.Holds kept) :
    (render .bundled (migrationPath n) .migration context kept).1 =
      .ok (String.ofList ((placeholderStyle.scan Template.migration.toList).flatMap
        (Piece.filled (value? (migrationPath n) context)))) := by
  obtain ⟨table, hturn⟩ : ∃ table, migrationTables[n % 10]? = some table := exists_migrationTable n
  rw [render_fst_of_holds hkept]
  refine render_migration (show _ = some Template.migration from rfl)
    ((ReferenceStyle.splits_iff placeholderStyle_endsNames).2 rfl) fun name hname => ?_
  rw [names_migration] at hname
  simp only [List.mem_cons, List.not_mem_nil, or_false, or_self] at hname
  rcases hname with rfl | rfl
  · rw [value?_migrationId hn, Option.isSome_some]
  · rw [value?_table hn, hturn, Option.isSome_some]

end Artifact

/-! ### The migrations of a repository -/

/-- Enterprise applications have a group of migrations, and no other repository has one. -/
theorem Layout.filter_migration (archetype : Archetype) (category : String) :
    ((Layout.of archetype category).groups.filter fun group => group.role = .migration) =
      if archetype = .enterpriseApp then [Layout.migrations] else [] := by
  cases archetype with
  | serviceMesh =>
    refine List.filter_eq_nil_iff.2 fun group hgroup => ?_
    -- no file of a service is a migration
    obtain ⟨root, -, hgroup⟩ := List.mem_flatMap.1 hgroup
    have hroles : (serviceGroups root).map FileGroup.role =
        [.serviceMain, .handler, .model, .repository, .test] := rfl
    have hmem := List.mem_map_of_mem (f := FileGroup.role) hgroup
    rw [hroles] at hmem
    rw [decide_eq_true_eq]
    intro hrole
    rw [hrole] at hmem
    exact absurd hmem (by decide)
  | mobileApp =>
    rw [Layout.of]
    split <;> rfl
  | webApp | cliTool | library | game | dataPipeline | enterpriseApp => rfl

namespace Structure

variable {spec : Spec} {languages : List Language} {groups : List FileGroup}
  {entries : List ManifestEntry} {g : Gen} {structured : Structure}

/-- The files of one role are those of the groups of this role. -/
theorem AreExpansions.filter (h : AreExpansions spec languages groups entries) (role : Role) :
    AreExpansions spec languages (groups.filter fun group => group.role = role)
      (entries.filter fun entry => entry.role = role) := by
  obtain ⟨parts, rfl, hparts, rfl⟩ := h
  refine ⟨parts.filter fun part => part.1.role = role, ?_, fun part hpart =>
    hparts part (List.mem_of_mem_filter hpart), ?_⟩
  · rw [List.filter_map]
    rfl
  · induction parts with
    | nil => rfl
    | cons part rest ih =>
      obtain ⟨hpart, hrest⟩ := List.forall_mem_cons.1 hparts
      rw [List.flatMap_cons, List.filter_append, ih hrest]
      by_cases hrole : part.1.role = role
      · rw [List.filter_cons_of_pos (by simpa using hrole), List.flatMap_cons,
          List.filter_eq_self.2 fun entry hentry => by simp [(hpart.alike entry hentry).1, hrole]]
      · rw [List.filter_cons_of_neg (by simpa using hrole), List.filter_eq_nil_iff.2
          fun entry hentry => by simp [(hpart.alike entry hentry).1, hrole], List.nil_append]

/-- A migration has the path that is written for its number. -/
theorem migrations_path {n : Nat} (hn : n < 2 ^ 53 - 1) :
    Layout.migrations.path ".sql" n = Artifact.migrationPath n := by
  have hgroup : Layout.migrations.IsSound := by decide +kernel
  have hextension : '/' ∉ ".sql".toList := by decide
  calc
    Path.join [Layout.migrations.dir, Layout.migrations.stem.name (.ofNat n) ++ ".sql"] =
        Layout.migrations.dir ++ "/" ++ (Layout.migrations.stem.name (.ofNat n) ++ ".sql") :=
      Path.join_pair hgroup.dir (hgroup.file hextension hn).2
    _ = Artifact.migrationPath n := by
      rw [← String.append_assoc]
      rfl

/-- The migrations of a structure. -/
def migrations (structured : Structure) : List ManifestEntry :=
  structured.manifest.filter fun entry => entry.role = .migration

/-- The migrations of an enterprise application are numbered from zero on. No other repository has
    any. -/
theorem IsPlanned.exists_migrations (h : IsPlanned spec languages g structured) :
    ∃ count ≤ 30, (structured.archetype = .enterpriseApp → 10 ≤ count) ∧
      structured.migrations.map ManifestEntry.path =
        (List.range count).map Artifact.migrationPath := by
  obtain ⟨g₁, g₂, sources, artifacts, hsources, -, hmanifest, -⟩ := h.exists_sources
  obtain ⟨hsound, -⟩ := Layout.isSound_of structured.archetype spec.category
  have hartifacts : (artifacts.map (Artifact.entry spec.language)).filter
      (fun entry => entry.role = .migration) = [] :=
    List.filter_eq_nil_iff.2 (List.forall_mem_map.2 fun a ha => by simp [Artifact.entry])
  have hexpanded := (yields_areExpansions hsound hsources).filter .migration
  rw [Layout.filter_migration] at hexpanded
  rw [migrations, hmanifest, List.filter_append, hartifacts, List.append_nil]
  obtain ⟨parts, hgroups, hparts, hentries⟩ := hexpanded
  split at hgroups
  next =>
    obtain ⟨part, rfl, hpart⟩ := List.map_eq_singleton_iff.1 hgroups
    obtain ⟨count, hleast, hmost, hpaths⟩ := (hparts part List.mem_cons_self).numbered
    rw [hpart] at hleast hmost hpaths
    refine ⟨count, hmost, fun _ => hleast, ?_⟩
    rw [hentries, List.flatMap_singleton, hpaths]
    refine List.map_congr_left fun n hn => migrations_path ?_
    have hless := List.mem_range.1 hn
    have hmost' : count ≤ 30 := hmost
    omega
  next hother =>
    obtain rfl := List.map_eq_nil_iff.1 hgroups
    exact ⟨0, Nat.zero_le _, fun heq => absurd heq hother, by rw [hentries]; rfl⟩

end Structure

namespace Artifact

/-- Migrations are numbered by their files. What a migration is rendered with at the path that the
    layout gives its number is this number, in decimal digits and with zeros before it up to three
    places, and the table whose turn it is; and different numbers are not written alike. They are
    what every template that can be filled for it gets in the places of its placeholders, and the
    bundled one, which has places for both, can always be filled. The migrations of a planned
    repository have these paths, from zero on, and no two of them are rendered with one number. -/
theorem numbers_migrations (context : RenderContext) :
    (∀ n < 2 ^ 53, ∃ table,
      migrationTables[n % 10]? = some table ∧
      value? (migrationPath n) context "migrationId" =
        some (String.ofList (Text.padLeft 3 '0' (Decimal.digitsOf n))) ∧
      value? (migrationPath n) context "table" = some table ∧
      (∀ m < 2 ^ 53, value? (migrationPath m) context "migrationId" =
        value? (migrationPath n) context "migrationId" ↔ m = n) ∧
      (∀ shelf kept text pieces,
        (text? "migration.sql.tmpl" kept).or (shelf.read "migration.sql.tmpl") = some text →
        placeholderStyle.Splits text.toList pieces →
        (∀ name ∈ ReferenceStyle.names pieces,
          (value? (migrationPath n) context name).isSome = true) →
        (render shelf (migrationPath n) .migration context kept).1 =
          .ok (String.ofList (pieces.flatMap (Piece.filled (value? (migrationPath n) context))))) ∧
      ∃ pieces, placeholderStyle.Splits Template.migration.toList pieces ∧
        "migrationId" ∈ ReferenceStyle.names pieces ∧ "table" ∈ ReferenceStyle.names pieces ∧
        ∀ kept, Shelf.bundled.Holds kept →
          (render .bundled (migrationPath n) .migration context kept).1 =
            .ok (String.ofList
              (pieces.flatMap (Piece.filled (value? (migrationPath n) context))))) ∧
      ∀ spec languages g structured, Structure.IsPlanned spec languages g structured →
        ∃ count ≤ 30, (structured.archetype = .enterpriseApp → 10 ≤ count) ∧
          structured.migrations.map ManifestEntry.path = (List.range count).map migrationPath ∧
          (structured.migrations.map fun entry =>
            value? entry.path context "migrationId").Nodup := by
  refine ⟨fun n hn => ?_, fun spec languages g structured h => ?_⟩
  · obtain ⟨table, hturn⟩ : ∃ table, migrationTables[n % 10]? = some table :=
      exists_migrationTable n
    refine ⟨table, hturn, value?_migrationId hn context, (value?_table hn context).trans hturn,
      fun m hm => value?_migrationId_inj hm hn context,
      fun shelf kept text pieces => render_migration,
      placeholderStyle.scan Template.migration.toList,
      (ReferenceStyle.splits_iff placeholderStyle_endsNames).2 rfl, ?_, ?_,
      fun kept => render_bundled_migration hn context⟩
    · rw [names_migration]
      decide
    · rw [names_migration]
      decide
  · obtain ⟨count, hmost, hleast, hpaths⟩ := h.exists_migrations
    refine ⟨count, hmost, hleast, hpaths, ?_⟩
    have hvalues : (structured.migrations.map fun entry =>
        value? entry.path context "migrationId") =
          (List.range count).map fun n => value? (migrationPath n) context "migrationId" := by
      have hmap := congrArg (List.map fun path => value? path context "migrationId") hpaths
      rwa [List.map_map, List.map_map] at hmap
    rw [hvalues]
    exact nodup_migrationIds (by omega) context

/-- A number that is wider than the padding, and the migrations of an application. -/
theorem numbers_migrations_thousand :
    let spec : Spec := ⟨5001, "repo-05001-bank", "enterprise", some "bank", "java", 10, 2, []⟩
    let context : RenderContext := ⟨spec, .enterpriseApp, 2024⟩
    let shelf : Shelf := ⟨"templates", fun _ => some "\x7b\x7bmigrationId\x7d\x7d"⟩
    migrationPath 1000 = "database/migrations/migration1000.sql" ∧
      value? (migrationPath 1000) context "migrationId" = some "1000" ∧
      value? (migrationPath 1000) context "table" = some "users" ∧
      (render shelf (migrationPath 1000) .migration context []).1 = .ok "1000" ∧
      (∃ text, (render .bundled (migrationPath 1000) .migration context []).1 = .ok text) ∧
      ∃ structured count, Structure.IsPlanned spec [] (.ofText "seed:5001") structured ∧
        10 ≤ count ∧
        structured.migrations.map ManifestEntry.path = (List.range count).map migrationPath := by
  intro spec context shelf
  obtain ⟨hnumber, hplanned⟩ := numbers_migrations context
  obtain ⟨table, htable, hid, hvalue, -, hshelf, pieces, -, -, -, hbundled⟩ :=
    hnumber 1000 (by norm_num)
  have hdigits : String.ofList (Text.padLeft 3 '0' (Decimal.digitsOf 1000)) = "1000" := by decide
  have hsplits : placeholderStyle.Splits "\x7b\x7bmigrationId\x7d\x7d".toList
      [.reference "migrationId".toList] :=
    (ReferenceStyle.splits_iff placeholderStyle_endsNames).2 (by decide)
  have hnames : ReferenceStyle.names [.reference "migrationId".toList] = ["migrationId"] :=
    congrArg (fun name => [name]) String.ofList_toList
  rw [hdigits] at hid
  have hrender := hshelf shelf [] _ _ rfl hsplits fun name hname => by
    rw [hnames] at hname
    rw [List.mem_singleton.1 hname, hid, Option.isSome_some]
  simp only [List.flatMap_singleton, Piece.filled, String.ofList_toList, hid, Option.getD_some]
    at hrender
  have hextension : '/' ∉ (Structure.extensionFor spec.language []).toList := by decide
  have htemplate : spec.template = some "bank" := rfl
  obtain ⟨structured, g', hplan⟩ :=
    Structure.isTotal_plan htemplate (by decide) hextension (.ofText "seed:5001")
  have harchetype : structured.archetype = .enterpriseApp := by
    obtain ⟨template, htemplate, harchetype⟩ := Structure.IsPlanned.archetype ⟨g', hplan⟩
    cases htemplate
    rw [harchetype]
    decide +kernel
  obtain ⟨count, -, hleast, hpaths, -⟩ := hplanned spec [] _ structured ⟨g', hplan⟩
  refine ⟨by decide +kernel, hid, ?_, hrender, ⟨_, hbundled [] (holds_nil _)⟩, structured, count,
    ⟨g', hplan⟩, hleast harchetype, hpaths⟩
  rw [hvalue, ← htable]
  rfl

end Artifact

end CorpusForge
