import Rulebook.FileTree.Edit
import Rulebook.Proofs.Run.Outcome
import Rulebook.Proofs.Walk.Thorough

/-!
# Links to folders

A listing tells folders from other entries without following links, and reading a file follows them.
So a link to a folder is no folder to the walk, which does not enter it, but it is a folder to the
run, which cannot read it. Whether they come to disagree is up to the name of the link: the walk
finds a link to a folder just when its name ends like that of a rule file.

**Main facts.** `mem_found_folder_iff`: the folders among the paths found are the links to folders
with the ending. `folder_links_matter_by_ending_only`: when links to folders do nothing to a walk
and to runs.
-/

namespace Rulebook

namespace FileTree

variable {t : FileTree} {folder : Path} {name : String}

/-- There is a link under a name in the folder that a path leads to. -/
def HasLink (t : FileTree) (folder : Path) (name : String) : Prop :=
  ∃ here children target, t.resolve folder = .ok (here, .folder children) ∧
    (name, .link target) ∈ children

/-- In a listing, a link is no folder. -/
private theorem HasLink.mem_of_list (h : t.HasLink folder name) {entries : List (String × Bool)}
    (hlist : t.list folder = .ok entries) : (name, false) ∈ entries := by
  obtain ⟨here, children, target, hr, hmem⟩ := h
  obtain ⟨here', children', hr', rfl⟩ := exists_folder_of_list hlist
  rw [hr] at hr'
  obtain ⟨-, heq⟩ := Prod.mk.inj (Except.ok.inj hr')
  obtain rfl := Entry.folder.inj heq
  exact List.mem_map.mpr ⟨_, hmem, rfl⟩

/-- An entry that is listed as none but leads to a folder is a link. -/
private theorem hasLink_of_isFolder {entries : List (String × Bool)}
    (hlist : t.list folder = .ok entries) (hmem : (name, false) ∈ entries)
    (hfolder : t.isFolder (folder.child name) = true) : t.HasLink folder name := by
  obtain ⟨here, children, hr, rfl⟩ := exists_folder_of_list hlist
  obtain ⟨⟨name', e⟩, hchild, heq⟩ := List.mem_map.mp hmem
  obtain ⟨rfl, hkind⟩ := Prod.mk.inj heq
  cases e with
  | link target => exact ⟨here, children, target, hr, hchild⟩
  | file content =>
    rw [isFolder, resolve_child hr hchild fun _ => Entry.noConfusion] at hfolder
    cases hfolder
  | folder children => cases hkind

/-- A folder cannot be read. -/
private theorem fileProblem?_of_isFolder {p : Path} (h : t.isFolder p = true) :
    t.fileProblem? p = some (.ruleFile p (Fault.message .isAFolder p)) := by
  obtain ⟨here, children, hr⟩ := isFolder_iff.mp h
  have hread : t.readText p = .error (.unreadable .isAFolder) := by
    rw [readText, readBytes, hr]
  exact fileProblem?_of_error hread

end FileTree

namespace Walk

variable {t : FileTree} {root : Path} {extension : String}

/-- **The folders among the paths found** are the links to folders with the ending, in the folders
whose listings the walk has got. -/
theorem mem_found_folder_iff {p : Path} :
    p ∈ (trace t root extension).found ∧ t.isFolder p = true ↔
      ∃ folder entries name,
        .listed folder (.ok entries) ∈
          deedsThrough (List.replicate (bound t) t) { root, extension } ∧
        t.HasLink folder name ∧ hasEnding extension name = true ∧ p = folder.child name ∧
          t.isFolder p = true := by
  rw [mem_found_trace_iff]
  constructor
  · rintro ⟨⟨folder, entries, name, hlisted, hmem, hend, rfl⟩, hfolder⟩
    obtain ⟨u, hu, hlist⟩ := list_of_mem_deedsThrough hlisted
    obtain rfl := List.eq_of_mem_replicate hu
    have hlink := FileTree.hasLink_of_isFolder hlist hmem hfolder
    exact ⟨folder, entries, name, hlisted, hlink, hend, rfl, hfolder⟩
  · rintro ⟨folder, entries, name, hlisted, hlink, hend, rfl, hfolder⟩
    obtain ⟨u, hu, hlist⟩ := list_of_mem_deedsThrough hlisted
    obtain rfl := List.eq_of_mem_replicate hu
    exact ⟨⟨folder, entries, name, hlisted, hlink.mem_of_list hlist, hend, rfl⟩, hfolder⟩

/-- No path that is found leads to a folder just when no link to a folder has the ending. -/
private theorem forall_found_not_folder_iff :
    (∀ p ∈ (trace t root extension).found, t.isFolder p = false) ↔
      ∀ folder entries name,
        .listed folder (.ok entries) ∈
          deedsThrough (List.replicate (bound t) t) { root, extension } →
        t.HasLink folder name → hasEnding extension name = true →
          t.isFolder (folder.child name) = false := by
  constructor
  · intro h folder entries name hlisted hlink hend
    by_contra hfolder
    rw [Bool.not_eq_false] at hfolder
    obtain ⟨hmem, -⟩ := mem_found_folder_iff.mpr
      ⟨folder, entries, name, hlisted, hlink, hend, rfl, hfolder⟩
    exact Bool.false_ne_true ((h _ hmem).symm.trans hfolder)
  · intro h p hp
    by_contra hfolder
    rw [Bool.not_eq_false] at hfolder
    obtain ⟨folder, entries, name, hlisted, hlink, hend, rfl, -⟩ :=
      mem_found_folder_iff.mp ⟨hp, hfolder⟩
    exact Bool.false_ne_true ((h folder entries name hlisted hlink hend).symm.trans hfolder)

section Below

variable {names : List String} {name : String}

/-- A walk lists nothing at or below a link that stands below its root. -/
private theorem not_link_covers_of_mem_listedIn (h : t.HasLink (root.append names) name) {q : Path}
    (hq : q ∈ listedIn (deedsThrough (List.replicate (bound t) t) { root, extension })) :
    ¬ ((root.append names).child name).Covers q := by
  rintro ⟨-, more, hmore⟩
  obtain ⟨there, hreach, rfl⟩ := exists_reaches_of_mem_listedIn hq
  -- the walk would have reached the link itself, by a listing that calls it a folder
  have hthere : names ++ [name] ++ more = there := by
    rw [← Path.append_concat, Path.append, Path.append, List.append_assoc] at hmore
    exact List.append_cancel_left hmore
  rw [← hthere] at hreach
  obtain ⟨-, entries, hlist, hmem⟩ := hreach.of_append.of_concat
  have hnodup := (FileTree.nodup_of_list hlist).1
  exact Bool.noConfusion (kind_unique hnodup hmem (h.mem_of_list hlist))

/-- A walk finds nothing below a link that stands below its root. -/
private theorem eq_of_link_covers_of_mem_found (h : t.HasLink (root.append names) name) {p : Path}
    (hp : p ∈ (trace t root extension).found)
    (hcovers : ((root.append names).child name).Covers p) : p = (root.append names).child name := by
  obtain ⟨folder, entries, last, hlisted, -, -, rfl⟩ := mem_found_trace_iff.mp hp
  rcases Path.covers_child_iff.mp hcovers with hfolder | heq
  · exact absurd hfolder (not_link_covers_of_mem_listedIn h
      (List.mem_filterMap.mpr ⟨_, hlisted, rfl⟩))
  · exact heq.symm

end Below

end Walk

/-! ### Runs that end with a file -/

namespace Settings

variable {s : Settings} {t : FileTree} {root : Path}

/-- A run that ends with a file that cannot be read has found the file. -/
private theorem mem_found_of_ruleFile {p : Path} {detail : String}
    (h : (s.run t root).results = .error (.ruleFile p detail)) :
    p ∈ (Walk.trace t root s.extension).found := by
  rw [run_eq] at h
  rcases Option.or_eq_some_iff.mp (Results.unless_eq_error.mp h) with hfile | ⟨-, hfailure⟩
  · obtain ⟨q, hq, hproblem⟩ := List.exists_of_findSome?_eq_some hfile
    obtain ⟨fault, -, heq⟩ := FileTree.exists_fault_of_fileProblem? hproblem
    obtain ⟨rfl, -⟩ := Problem.ruleFile.inj heq
    exact hq
  · -- the failure of a walk is about a folder
    obtain ⟨folder, fault, -, heq⟩ := Walk.exists_list_error_of_failure hfailure
    rw [Walk.folderProblem] at heq
    split at heq <;> cases heq

/-- A run that finds a file that cannot be read ends with such a file. -/
private theorem exists_ruleFile_of_fileProblem? {p : Path}
    (hp : p ∈ (Walk.trace t root s.extension).found) (h : (t.fileProblem? p).isSome) :
    ∃ q detail, (s.run t root).results = .error (.ruleFile q detail) := by
  have hfirst : ((Walk.trace t root s.extension).found.findSome? t.fileProblem?).isSome :=
    List.findSome?_isSome_iff.mpr ⟨p, hp, h⟩
  obtain ⟨problem, hproblem⟩ := Option.isSome_iff_exists.mp hfirst
  obtain ⟨q, -, hq⟩ := List.exists_of_findSome?_eq_some hproblem
  obtain ⟨fault, -, rfl⟩ := FileTree.exists_fault_of_fileProblem? hq
  refine ⟨q, fault.message q, ?_⟩
  rw [run_eq]
  refine Results.unless_eq_error.mpr ?_
  rw [FileTree.problemAlong?, hproblem, Option.some_or]

end Settings

/-- **A link to a folder matters by its ending only.** Below a link that stands below its root, a
walk lists nothing and finds nothing, and does not list the link. It finds no path that leads to a
folder, and no run fails because a path that it found does, just when no link to a folder that
stands in one of the listings it gets has a name that ends in the extension. And if the walk does
find a path that leads to a folder, then every run along it fails with a file that cannot be
read. -/
theorem folder_links_matter_by_ending_only (t : FileTree) (root : Path) (extension : String) :
    let ds := ({ root, extension } : Walk).deedsThrough (List.replicate (Walk.bound t) t)
    let found := (Walk.trace t root extension).found
    (∀ names name, t.HasLink (root.append names) name →
        (∀ q ∈ Walk.listedIn ds, ¬ ((root.append names).child name).Covers q) ∧
        ∀ p ∈ found, ((root.append names).child name).Covers p →
          p = (root.append names).child name) ∧
      (((∀ p ∈ found, t.isFolder p = false) ∧
          ∀ s : Settings, s.extension = extension → ∀ p detail,
            (s.run t root).results = .error (.ruleFile p detail) → t.isFolder p = false) ↔
        ∀ folder entries name, .listed folder (.ok entries) ∈ ds → t.HasLink folder name →
          Walk.hasEnding extension name = true → t.isFolder (folder.child name) = false) ∧
      ((∃ p ∈ found, t.isFolder p = true) → ∀ s : Settings, s.extension = extension →
        ∃ p detail, (s.run t root).results = .error (.ruleFile p detail)) := by
  intro ds found
  refine ⟨?_, ?_, ?_⟩
  · intro names name h
    exact ⟨fun q hq => Walk.not_link_covers_of_mem_listedIn h hq,
      fun p hp hcovers => Walk.eq_of_link_covers_of_mem_found h hp hcovers⟩
  · constructor
    · rintro ⟨hfound, -⟩
      exact Walk.forall_found_not_folder_iff.mp hfound
    · intro h
      have hfound := Walk.forall_found_not_folder_iff.mpr h
      refine ⟨hfound, ?_⟩
      rintro s rfl p detail hresult
      exact hfound p (Settings.mem_found_of_ruleFile hresult)
  · rintro ⟨p, hp, hfolder⟩ s rfl
    refine Settings.exists_ruleFile_of_fileProblem? hp ?_
    rw [FileTree.fileProblem?_of_isFolder hfolder]
    rfl

/-- A link to a folder whose name ends like that of a rule file is found, and ends the run. -/
theorem folder_link_is_found :
    let t := (({} : FileTree).putFolder ⟨.current, ["configs", "d"]⟩).putLink
      ⟨.current, ["configs", "x.md"]⟩ "d"
    let root : Path := ⟨.current, ["configs"]⟩
    let s : Settings := {}
    t.isFolder (root.child "x.md") = true ∧
      (Walk.trace t root s.extension).found = [root.child "x.md"] ∧
      (s.run t root).results =
        .error (.ruleFile (root.child "x.md") "[Errno 21] Is a directory: 'configs/x.md'") := by
  decide +kernel

end Rulebook
