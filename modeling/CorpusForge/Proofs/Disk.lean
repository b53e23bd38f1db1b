import Mathlib.Data.List.Nodup
import Mathlib.Tactic
import CorpusForge.Disk
import CorpusForge.Proofs.Text.Order

/-!
# Files on disks

Counting walks the entries below a directory. It comes to the number of the ways that lead to a file
from there and not into a history.

* `Disk.IsTree`: a disk on which everything lies in a directory;
* `Disk.mem_subtree_iff`: what is below a directory;
* `Disk.exists_entries`: what lies in a directory, in the order of the names;
* `Disk.countFiles_eq`: how many files are counted.
-/

namespace CorpusForge

namespace Disk

variable {disk : Disk} {dir path other way : List String} {ways : List (List String)} {node : Node}

theorem isFile_eq_true_iff :
    disk.isFile path = true ↔ ∃ text, disk.node? path = some (.file text) := by
  rw [isFile]
  cases disk.node? path with
  | none => simp
  | some node => cases node <;> simp [Node.isDirectory]

theorem isDirectory_eq_true_iff :
    disk.isDirectory path = true ↔ ∃ modified, disk.node? path = some (.directory modified) := by
  rw [isDirectory]
  cases disk.node? path with
  | none => simp
  | some node => cases node <;> simp [Node.isDirectory]

theorem exists?_of_isDirectory (h : disk.isDirectory path = true) : disk.exists? path = true := by
  obtain ⟨modified, hnode⟩ := isDirectory_eq_true_iff.1 h
  rw [exists?, hnode]
  rfl

theorem isFile_eq_false (h : disk.exists? path = false) : disk.isFile path = false := by
  rw [exists?, Option.isSome_eq_false_iff, Option.isNone_iff_eq_none] at h
  rw [isFile, h]

/-- What exists and is no file is a directory. -/
theorem isDirectory_of_exists? (h : disk.exists? path = true) (hfile : disk.isFile path = false) :
    disk.isDirectory path = true := by
  obtain ⟨node, hnode⟩ := Option.isSome_iff_exists.1 h
  rw [isFile, hnode] at hfile
  rw [isDirectory, hnode]
  simpa using hfile

/-! ### Trees -/

/-- Everything but the root lies in a directory. -/
def IsTree (disk : Disk) : Prop :=
  ∀ path name, disk.exists? (path ++ [name]) = true → disk.isDirectory path = true

theorem exists?_empty (h : path ≠ []) : empty.exists? path = false := by
  cases path with
  | nil => exact absurd rfl h
  | cons name rest => simp [exists?, node?, empty]

theorem isTree_empty : empty.IsTree := by
  intro path name h
  rw [exists?_empty (List.concat_ne_nil _ _)] at h
  exact nomatch h

/-- Nothing is below what does not exist. -/
theorem IsTree.exists?_append (h : disk.IsTree) (hnone : disk.exists? dir = false)
    (below : List String) : disk.exists? (dir ++ below) = false := by
  induction below using List.reverseRecOn with
  | nil => rwa [List.append_nil]
  | append_singleton below name ih =>
    rw [← List.append_assoc, Bool.eq_false_iff]
    intro hexists
    rw [exists?_of_isDirectory (h _ name hexists)] at ih
    exact nomatch ih

/-! ### Changes -/

/-- What a change of a disk leaves alone: apart from the places that it touches, there are the same
    files, and what was a directory still is one. -/
structure Spares (touched : List String → Prop) (disk disk' : Disk) : Prop where
  files : ∀ path, ¬touched path → disk'.isFile path = disk.isFile path
  directories : ∀ path, ¬touched path → disk.isDirectory path = true →
    disk'.isDirectory path = true

theorem Spares.refl (touched : List String → Prop) (disk : Disk) : disk.Spares touched disk where
  files _ _ := rfl
  directories _ _ h := h

theorem node?_insert_of_ne {node : Node} (h : path ≠ other) :
    (Disk.mk (disk.nodes.insert path node)).node? other = disk.node? other := by
  cases other with
  | nil => rfl
  | cons name rest => simp [node?, Std.HashMap.getElem?_insert, h]

theorem node?_insert_self {node : Node} (h : path ≠ []) :
    (Disk.mk (disk.nodes.insert path node)).node? path = some node := by
  cases path with
  | nil => exact absurd rfl h
  | cons name rest => simp [node?]

/-- A directory is added where nothing is. -/
theorem node?_addDir (disk : Disk) (path other : List String) :
    (disk.addDir path).node? other =
      (disk.node? other).or (if path = other then some (.directory none) else none) := by
  rw [addDir]
  split
  next hexists =>
    split
    next heq =>
      obtain ⟨node, hnode⟩ := Option.isSome_iff_exists.1 hexists
      rw [← heq, hnode, Option.some_or]
    next => rw [Option.or_none]
  next hnone =>
    split
    next heq =>
      -- the root exists, so the directory is another one
      subst heq
      have hsome : path ≠ [] := by
        rintro rfl
        exact hnone rfl
      rw [exists?, Option.not_isSome_iff_eq_none] at hnone
      rw [node?_insert_self hsome, hnone, Option.none_or]
    next hne => rw [node?_insert_of_ne hne, Option.or_none]

theorem node?_foldl_addDir (disk : Disk) (paths : List (List String)) (other : List String) :
    (paths.foldl addDir disk).node? other =
      (disk.node? other).or (if other ∈ paths then some (.directory none) else none) := by
  induction paths generalizing disk with
  | nil => simp
  | cons path rest ih =>
    rw [List.foldl_cons, ih, node?_addDir, Option.or_assoc]
    congr 1
    by_cases heq : path = other
    · simp [heq]
    · simp [heq, Ne.symm heq]

/-- Adding directories touches nothing. -/
theorem spares_foldl_addDir (touched : List String → Prop) (disk : Disk)
    (paths : List (List String)) : disk.Spares touched (paths.foldl addDir disk) := by
  refine ⟨fun path _ => ?_, fun path _ h => ?_⟩
  · rw [isFile, isFile, node?_foldl_addDir]
    cases disk.node? path with
    | some node => rfl
    | none => by_cases hmem : path ∈ paths <;> simp [hmem, Node.isDirectory]
  · obtain ⟨modified, hnode⟩ := isDirectory_eq_true_iff.1 h
    refine isDirectory_eq_true_iff.2 ⟨modified, ?_⟩
    rw [node?_foldl_addDir, hnode, Option.some_or]

/-- What is put somewhere touches its place. -/
theorem spares_insert (disk : Disk) (path : List String) (node : Node) :
    disk.Spares (fun place => place = path) ⟨disk.nodes.insert path node⟩ := by
  refine ⟨fun other hne => ?_, fun other hne h => ?_⟩
  · rw [isFile, isFile, node?_insert_of_ne (Ne.symm hne)]
  · rwa [isDirectory, node?_insert_of_ne (Ne.symm hne)]

/-! ### Files below a directory -/

theorem below?_eq_some_iff : below? dir path = some way ↔ path = dir ++ way ∧ way ≠ [] := by
  fun_induction below? dir path with
  | case1 => simp
  | case2 path hsome =>
    have hpath : path ≠ [] := fun hnil => hsome hnil
    rw [Option.some_inj, List.nil_append]
    refine ⟨?_, fun h => h.1⟩
    rintro rfl
    exact ⟨rfl, hpath⟩
  | case3 => simp
  | case4 name dir path ih => simpa using ih
  | case5 name dir other path hne => simp [Ne.symm hne]

/-- What is below a directory is what stands where a way leads from there. -/
theorem mem_subtree_iff :
    (way, node) ∈ disk.subtree dir ↔ way ≠ [] ∧ disk.node? (dir ++ way) = some node := by
  have hnode : way ≠ [] → disk.node? (dir ++ way) = disk.nodes[dir ++ way]? := fun hway => by
    obtain ⟨name, rest, hcons⟩ :=
      List.exists_cons_of_ne_nil (List.append_ne_nil_of_right_ne_nil dir hway)
    rw [hcons, node?]
    exact List.cons_ne_nil _ _
  simp only [subtree, List.mem_filterMap, Prod.exists, Option.map_eq_some_iff, Prod.mk.injEq,
    Std.HashMap.mem_toList_iff_getElem?_eq_some, below?_eq_some_iff]
  constructor
  · rintro ⟨_, _, hget, _, ⟨rfl, hway⟩, rfl, rfl⟩
    exact ⟨hway, (hnode hway).trans hget⟩
  · rintro ⟨hway, hget⟩
    exact ⟨_, node, (hnode hway).symm.trans hget, way, ⟨rfl, hway⟩, rfl, rfl⟩

/-- One way leads to everything below a directory. -/
theorem nodup_subtree (disk : Disk) (dir : List String) :
    ((disk.subtree dir).map Prod.fst).Nodup := by
  rw [subtree, List.map_filterMap, List.Nodup, List.pairwise_filterMap]
  refine Std.HashMap.distinct_keys_toList.imp fun {entry entry'} hkeys way hway way' hway' => ?_
  simp only [Option.map_map, Option.map_eq_some_iff] at hway hway'
  obtain ⟨_, hbelow, rfl⟩ := hway
  obtain ⟨_, hbelow', rfl⟩ := hway'
  rintro rfl
  rw [(below?_eq_some_iff.1 hbelow).1, (below?_eq_some_iff.1 hbelow').1] at hkeys
  simp at hkeys

/-- What lies in a directory is listed once, in the order of the names. -/
theorem exists_entries (h : disk.isDirectory dir = true) (shown : String) :
    ∃ held, disk.entries dir shown = .ok held ∧
      (∀ name node, (name, node) ∈ held ↔ disk.node? (dir ++ [name]) = some node) ∧
      held.Pairwise fun a b => Text.precedes a.1 b.1 = true := by
  obtain ⟨modified, hnode⟩ := isDirectory_eq_true_iff.1 h
  -- only a way of one name ends in the directory
  obtain ⟨pick, hpick, hentries⟩ : ∃ pick : List String × Node → Option (String × Node),
      (∀ {entry name node}, pick entry = some (name, node) ↔ entry = ([name], node)) ∧
      disk.entries dir shown = .ok (((disk.subtree dir).filterMap pick).mergeSort
        fun a b => !Text.precedes b.1 a.1) := by
    rw [entries, hnode]
    refine ⟨_, ?_, rfl⟩
    rintro ⟨_ | ⟨first, _ | ⟨second, more⟩⟩, node'⟩ name node <;> simp
  refine ⟨_, hentries, fun name node => ?_, ?_⟩
  · rw [List.mem_mergeSort, List.mem_filterMap]
    constructor
    · rintro ⟨entry, hmem, hentry⟩
      obtain rfl := hpick.1 hentry
      exact (mem_subtree_iff.1 hmem).2
    · exact fun hat => ⟨_, mem_subtree_iff.2 ⟨List.cons_ne_nil _ _, hat⟩, hpick.2 rfl⟩
  · -- sorting the entries sorts their names, and no name is there twice
    rw [← List.pairwise_map (f := Prod.fst) (R := fun s t => Text.precedes s t = true),
      List.map_mergeSort (s := fun s t => !Text.precedes t s) fun _ _ _ _ => rfl]
    refine Text.pairwise_sort ?_
    rw [List.Nodup, List.pairwise_map, List.pairwise_filterMap]
    refine (List.pairwise_map.1 (disk.nodup_subtree dir)).imp ?_
    rintro entry entry' hne ⟨name, node⟩ hentry ⟨name', node'⟩ hentry' rfl
    obtain rfl := hpick.1 hentry
    obtain rfl := hpick.1 hentry'
    exact hne rfl

/-- The files that are counted are those that ways lead to. -/
theorem countFiles_eq (hdir : disk.isDirectory dir = true) (hnodup : ways.Nodup)
    (hgit : ∀ way ∈ ways, ".git" ∉ way.dropLast)
    (hways : ∀ way, ".git" ∉ way.dropLast → (disk.isFile (dir ++ way) = true ↔ way ∈ ways))
    (shown : String) : disk.countFiles dir shown = .ok ways.length := by
  obtain ⟨modified, hnode⟩ := isDirectory_eq_true_iff.1 hdir
  have hcounted : (((disk.subtree dir).filter isCounted).map Prod.fst).Perm ways := by
    refine (List.perm_ext_iff_of_nodup ?_ hnodup).2 fun way => ?_
    · exact (disk.nodup_subtree dir).sublist (List.filter_sublist.map _)
    · simp only [List.mem_map, List.mem_filter, Prod.exists, exists_and_right, exists_eq_right]
      constructor
      · rintro ⟨node, hmem, hcount⟩
        cases node with
        | directory => exact nomatch hcount
        | file text =>
          have hgit : ".git" ∉ way.dropLast := by simpa [isCounted] using hcount
          exact (hways way hgit).1 (isFile_eq_true_iff.2 ⟨text, (mem_subtree_iff.1 hmem).2⟩)
      · intro hway
        have hgit := hgit way hway
        obtain ⟨text, hfile⟩ := isFile_eq_true_iff.1 ((hways way hgit).2 hway)
        -- the directory itself is no file
        have hsome : way ≠ [] := by
          rintro rfl
          rw [List.append_nil, hnode] at hfile
          exact nomatch hfile
        exact ⟨.file text, mem_subtree_iff.2 ⟨hsome, hfile⟩, by simpa [isCounted] using hgit⟩
  rw [countFiles, entries, hnode]
  exact congrArg Except.ok (by rw [← hcounted.length_eq, List.length_map])

end Disk

end CorpusForge
