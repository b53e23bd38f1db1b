import CorpusForge.Proofs.Repository.Files
import CorpusForge.Proofs.Run.Lasting
import CorpusForge.Site
import Mathlib.Data.List.TakeWhile

/-!
# Sites are lasting

On a disk a directory that was made exists, and so does a file that was written. Nothing that is
made or written takes away what exists, and it changes no other files.

* `Disk.exists?_makeDirs_self`, `Disk.isFile_writeFile_self`: what was made and written;
* `Site.isOnDisk_host`: the files of a site are on its disk;
* `Site.isLasting_host`: sites are lasting.
-/

namespace CorpusForge

namespace Disk

variable {disk : Disk} {path other : List String}

/-- What is put somewhere exists, and so does what existed. -/
theorem exists?_insert (disk : Disk) (path other : List String) (node : Node) :
    (Disk.mk (disk.nodes.insert path node)).exists? other =
      (disk.exists? other || path == other) := by
  cases other with
  | nil => rfl
  | cons name rest =>
    simp only [exists?, node?, Std.HashMap.getElem?_insert]
    split
    next h => simp [h]
    next h => simp [h]

theorem exists?_foldl_addDir (disk : Disk) (paths : List (List String)) (other : List String) :
    (paths.foldl addDir disk).exists? other = (disk.exists? other || paths.contains other) := by
  rw [exists?, exists?, node?_foldl_addDir, Option.isSome_or]
  by_cases hmem : other ∈ paths <;> simp [hmem]

/-- The nearest entry exists, and the rest of the path leads on from it. -/
theorem nearest_spec (disk : Disk) (reversed below : List String) :
    disk.exists? (disk.nearest reversed below).1 = true ∧
      (disk.nearest reversed below).1 ++ (disk.nearest reversed below).2 =
        reversed.reverse ++ below := by
  induction reversed generalizing below with
  | nil => exact ⟨rfl, rfl⟩
  | cons name above ih =>
    simp only [nearest]
    split
    next h => exact ⟨h, rfl⟩
    next =>
      obtain ⟨hexists, hpath⟩ := ih (name :: below)
      exact ⟨hexists, by simpa using hpath⟩

/-- Names lead to their path. -/
theorem mem_ancestry {above names : List String} (h : names ≠ []) :
    above ++ names ∈ ancestry above names := by
  induction names generalizing above with
  | nil => exact absurd rfl h
  | cons name rest ih =>
    rw [ancestry]
    cases rest with
    | nil => exact List.mem_cons_self
    | cons next more =>
      have hlast := @ih (above ++ [name]) (List.cons_ne_nil _ _)
      rw [List.append_assoc, List.singleton_append] at hlast
      exact List.mem_cons_of_mem _ hlast

/-- Making directories takes nothing away. -/
theorem exists?_makeDirs (h : disk.exists? other = true) (path : List String) (shown : String) :
    (disk.makeDirs path shown).2.exists? other = true := by
  simp only [makeDirs]
  split
  next => exact h
  next =>
    split
    next => split <;> exact h
    next =>
      have hmade := exists?_foldl_addDir disk (ancestry (disk.nearest path.reverse []).1
        ((disk.nearest path.reverse []).2.takeWhile fun name => !isLongName name)) other
      rw [h, Bool.true_or] at hmade
      split <;> exact hmade

/-- A directory that was made exists. -/
theorem exists?_makeDirs_self {shown : String} (h : (disk.makeDirs path shown).1 = .ok ()) :
    (disk.makeDirs path shown).2.exists? path = true := by
  obtain ⟨hexists, hpath⟩ := disk.nearest_spec path.reverse []
  rw [List.reverse_reverse, List.append_nil] at hpath
  simp only [makeDirs] at h ⊢
  split at h
  next => exact nomatch h
  next hgood =>
    split at h
    next => split at h <;> exact nomatch h
    next hclear =>
      split at h
      next => exact nomatch h
      next hshort =>
        rw [if_neg hgood, if_neg hclear, if_neg hshort]
        -- without a long name, the whole rest of the path is made
        have hall : (disk.nearest path.reverse []).2.takeWhile (fun name => !isLongName name) =
            (disk.nearest path.reverse []).2 := by
          refine List.takeWhile_eq_self_iff.2 fun name hname => ?_
          have hnone := List.any_eq_false.1 (Bool.eq_false_iff.2 hshort) name hname
          simpa using hnone
        rw [hall, exists?_foldl_addDir, Bool.or_eq_true]
        by_cases hmissing : (disk.nearest path.reverse []).2 = []
        · rw [hmissing, List.append_nil] at hpath
          exact .inl (hpath ▸ hexists)
        · have hmem := @mem_ancestry (disk.nearest path.reverse []).1 _ hmissing
          rw [hpath] at hmem
          exact .inr (List.contains_iff_mem.2 hmem)

/-- Writing a file takes nothing away. -/
theorem exists?_writeFile (h : disk.exists? other = true) (path : List String)
    (shown text : String) : (disk.writeFile path shown text).2.exists? other = true := by
  simp only [writeFile]
  split
  next => exact h
  next =>
    split
    next => exact h
    next =>
      split
      next => exact h
      next => exact (exists?_insert disk path other _).trans (by rw [h, Bool.true_or])

/-- Making directories touches nothing. -/
theorem spares_makeDirs (touched : List String → Prop) (disk : Disk) (path : List String)
    (shown : String) : disk.Spares touched (disk.makeDirs path shown).2 := by
  simp only [makeDirs]
  split
  next => exact .refl _ _
  next =>
    split
    next => split <;> exact .refl _ _
    next => split <;> exact spares_foldl_addDir _ _ _

theorem spares_writeFile (disk : Disk) (path : List String) (shown text : String) :
    disk.Spares (fun place => place = path) (disk.writeFile path shown text).2 := by
  simp only [writeFile]
  split
  next => exact .refl _ _
  next =>
    split
    next => exact .refl _ _
    next =>
      split
      next => exact .refl _ _
      next => exact spares_insert _ _ _

/-- A file that was written is there. -/
theorem isFile_writeFile_self {shown text : String} (hsome : path ≠ [])
    (h : (disk.writeFile path shown text).1 = .ok ()) :
    (disk.writeFile path shown text).2.isFile path = true := by
  simp only [writeFile] at h ⊢
  split at h
  next => exact nomatch h
  next hgood =>
    split at h
    next => exact nomatch h
    next hfree =>
      split at h
      next => exact nomatch h
      next hheld =>
        rw [if_neg hgood, if_neg hfree, if_neg hheld]
        exact isFile_eq_true_iff.2 ⟨text, node?_insert_self hsome⟩

end Disk

/-- The files of a site are on its disk. -/
theorem Site.isOnDisk_host : Site.host.IsOnDisk Site.disk where
  made path s hfree h := by
    refine Disk.isDirectory_of_exists? (Disk.exists?_makeDirs_self h) ?_
    have hspares := Disk.spares_makeDirs (fun _ => False) s.disk (Path.segments path) path
    exact (hspares.files _ id).trans hfree
  written path text s hsome h := Disk.isFile_writeFile_self hsome h
  spares request s := by
    cases request with
    | makeDirs path => exact Disk.spares_makeDirs _ _ _ _
    | writeFile path text => exact Disk.spares_writeFile _ _ _ _
    | render | call => exact .refl _ _

/-- Sites are lasting: what is found on one is what exists on its disk. -/
theorem Site.isLasting_host :
    Site.host.IsLasting fun path site => site.disk.exists? (Path.segments path) where
  made _ _ h := Disk.exists?_makeDirs_self h
  makeDirs _ _ _ h := Disk.exists?_makeDirs h _ _
  writeFile _ _ _ _ h := Disk.exists?_writeFile h _ _ _
  call _ _ _ _ h := h

/-- A host that makes and writes everything on a disk, and takes all calls. -/
def Host.storing : Host Disk where
  makeDirs path disk := (.ok (), (Disk.ancestry [] (Path.segments path)).foldl Disk.addDir disk)
  writeFile path text disk := (.ok (), ⟨disk.nodes.insert (Path.segments path) (.file text)⟩)
  call _ _ disk := (.ok (), disk)

theorem Host.isOnDisk_storing : storing.IsOnDisk fun disk => disk where
  made path disk hfree _ := by
    have hspares := Disk.spares_foldl_addDir (fun _ => False) disk
      (Disk.ancestry [] (Path.segments path))
    refine Disk.isDirectory_of_exists? ?_ ((hspares.files _ id).trans hfree)
    refine (Disk.exists?_foldl_addDir disk _ _).trans ?_
    by_cases hsome : Path.segments path = []
    · rw [hsome]
      rfl
    · have hmem := @Disk.mem_ancestry [] _ hsome
      rw [List.nil_append] at hmem
      rw [List.contains_iff_mem.2 hmem, Bool.or_true]
  written path text disk hsome _ :=
    Disk.isFile_eq_true_iff.2 ⟨text, Disk.node?_insert_self hsome⟩
  spares request s := by
    cases request with
    | makeDirs path => exact Disk.spares_foldl_addDir _ _ _
    | writeFile path text => exact Disk.spares_insert _ _ _
    | render | call => exact .refl _ _

end CorpusForge
