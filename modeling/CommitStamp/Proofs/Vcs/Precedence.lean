import Mathlib
import CommitStamp.Proofs.Vcs.Location
/-!
# The first file

The search goes through one list of paths, strategy by strategy and root by root, and answers with
the first that leads to a regular file (`Search.find?_is_first`). Only one part of the list is taken
from the file tree: the directories of a root that are named like the program. They stand in the
order of their names, so that there is one list for a tree (`Search.ListsVersions.unique`), and
trees that list their entries in different orders have the same one (`Search.ListsVersions.congr`).

A root has to be listed for that. A directory may be one that paths lead through and nobody lists,
and the empty path has no listing at all, although names may be joined to it; what is in such a root
is not proposed by its name (`Search.not_every_subdirectory_is_proposed`).
-/

namespace CommitStamp

open Text

/-- The first path of a list that leads to a regular file. -/
def Host.IsFirstFile (h : Host) (paths : List Path) (p : Path) : Prop :=
  ∃ before after, paths = before ++ p :: after ∧ h.LeadsToFile p ∧ ∀ q ∈ before, ¬h.LeadsToFile q

namespace Host

variable {h : Host} {p : Path} {paths : List Path}

theorem find?_hasFile_eq_some_iff :
    paths.find? h.hasFile = some p ↔ h.IsFirstFile paths p := by
  rw [List.find?_eq_some_iff_append, hasFile_iff]
  constructor
  · rintro ⟨hp, before, after, hpaths, hbefore⟩
    refine ⟨before, after, hpaths, hp, fun q hq hfile => ?_⟩
    have hnone := hbefore q hq
    rw [hasFile_iff.2 hfile] at hnone
    exact absurd hnone (by decide)
  · rintro ⟨before, after, hpaths, hp, hbefore⟩
    refine ⟨hp, before, after, hpaths, fun q hq => ?_⟩
    rw [Bool.not_eq_true', ← Bool.not_eq_true, hasFile_iff]
    exact hbefore q hq

theorem find?_hasFile_eq_none_iff :
    paths.find? h.hasFile = none ↔ ∀ p ∈ paths, ¬h.LeadsToFile p := by
  simp only [List.find?_eq_none, hasFile_iff]

/-- A file in the first part of a list is enough for the first file to stand there. -/
theorem exists_isFirstFile (hearlier : ∃ q ∈ paths, h.LeadsToFile q) (later : List Path) :
    ∃ p ∈ paths, h.IsFirstFile (paths ++ later) p := by
  obtain ⟨q, hq, hfile⟩ := hearlier
  cases hfound : paths.find? h.hasFile with
  | none => exact absurd hfile (find?_hasFile_eq_none_iff.1 hfound q hq)
  | some p =>
    obtain ⟨before, after, rfl, hp⟩ := find?_hasFile_eq_some_iff.1 hfound
    exact ⟨p, by simp, before, after ++ later, by simp, hp⟩

end Host

namespace Vcs

/-! ## The first match in a sorted list -/

section Sorted

variable {α β : Type} [LinearOrder α] {l l' : List α} {f : α → Option β} {b : β}

/-- The first match in a sorted list is that of the least element that has one. -/
theorem findSome?_eq_some_iff_least (hl : l.Pairwise (· ≤ ·)) :
    l.findSome? f = some b ↔ ∃ a ∈ l, f a = some b ∧ ∀ x ∈ l, x < a → f x = none := by
  have least {b : β} (h : l.findSome? f = some b) :
      ∃ a ∈ l, f a = some b ∧ ∀ x ∈ l, x < a → f x = none := by
    obtain ⟨before, a, after, rfl, ha, hbefore⟩ := List.findSome?_eq_some_iff.1 h
    refine ⟨a, by simp, ha, fun x hx hlt => ?_⟩
    rcases List.mem_append.1 hx with hx | hx
    · exact hbefore x hx
    -- what follows in the list is not less
    · have hle : ∀ x ∈ a :: after, a ≤ x :=
        List.forall_mem_cons.2 ⟨le_rfl, (List.pairwise_cons.1 (List.pairwise_append.1 hl).2.1).1⟩
      exact absurd hlt (hle x hx).not_gt
  refine ⟨least, fun ⟨a, hmem, ha, hless⟩ => ?_⟩
  cases hfound : l.findSome? f with
  | none =>
    rw [List.findSome?_eq_none_iff.1 hfound a hmem] at ha
    exact absurd ha (by simp)
  | some c =>
    obtain ⟨a', hmem', ha', hless'⟩ := least hfound
    rcases lt_trichotomy a a' with hlt | rfl | hlt
    · rw [hless' a hmem hlt] at ha
      exact absurd ha (by simp)
    · rw [← ha', ha]
    · rw [hless a' hmem' hlt] at ha'
      exact absurd ha' (by simp)

/-- The first match in a sorted list depends on its elements alone. -/
theorem findSome?_eq_of_sorted (hl : l.Pairwise (· ≤ ·)) (hl' : l'.Pairwise (· ≤ ·))
    (h : ∀ a, a ∈ l ↔ a ∈ l') (f : α → Option β) : l.findSome? f = l'.findSome? f := by
  ext b
  rw [findSome?_eq_some_iff_least hl, findSome?_eq_some_iff_least hl']
  simp only [h]

end Sorted

namespace Search

variable {s : Search} {h h' : Host} {root : Path} {names names' : List (List Char)}

/-! ## The names of the versions -/

/-- The order of the names is the lexicographic one. -/
theorem sortsBefore_iff (m n : List Char) : sortsBefore m n = true ↔ m ≤ n := by
  fun_induction sortsBefore m n with
  | case1 n => exact iff_of_true rfl (not_lt.1 (List.not_lt_nil n))
  | case2 c m => exact iff_of_false Bool.false_ne_true (List.nil_lt_cons c m).not_ge
  | case3 c m d n ih =>
    rw [Bool.or_eq_true, Bool.and_eq_true, ih, decide_eq_true_iff, beq_iff_eq, le_iff_lt_or_eq,
      le_iff_lt_or_eq, List.cons_lt_cons_iff, List.cons.injEq, and_or_left, or_assoc]

theorem pairwise_mergeSort (names : List (List Char)) :
    (names.mergeSort sortsBefore).Pairwise (· ≤ ·) := by
  refine (List.pairwise_mergeSort ?_ ?_ names).imp fun h => (sortsBefore_iff _ _).1 h
  · intro l m n
    simp only [sortsBefore_iff]
    exact fun hlm hmn => le_trans hlm hmn
  · intro m n
    rw [Bool.or_eq_true, sortsBefore_iff, sortsBefore_iff]
    exact le_total m n

/-- These are the names, in their order, of the directories in the listing of a root that are named
like the program, whatever the case of the letters. -/
structure ListsVersions (s : Search) (h : Host) (root : Path) (names : List (List Char)) :
    Prop where
  sorted : names.Pairwise (· < ·)
  mem_iff : ∀ n, n ∈ names ↔ lowercase s.name <+: lowercase n ∧
    (∃ listed, h.files.list h.workdir root = .ok listed ∧ n ∈ listed) ∧
    h.files.hasDirectory h.workdir (root.join ⟨n⟩) = true

/-- There is one list of versions. -/
theorem ListsVersions.unique (hn : s.ListsVersions h root names)
    (hn' : s.ListsVersions h root names') : names = names' :=
  hn.sorted.eq_of_mem_iff hn'.sorted fun n => (hn.mem_iff n).trans (hn'.mem_iff n).symm

/-- The order in which a tree lists its entries has no part in the list of the versions. -/
theorem ListsVersions.congr (hn : s.ListsVersions h root names) (hdir : h'.workdir = h.workdir)
    (hfiles : h.files.SameEntries h'.files) : s.ListsVersions h' root names where
  sorted := hn.sorted
  mem_iff n := by
    rw [hn.mem_iff, hdir, hfiles.mem_list_iff, hfiles.hasDirectory_eq]

/-- The names of the directories that `Search.versions` goes through. -/
def versionNames (s : Search) (h : Host) (root : Path) : List (List Char) :=
  match h.files.list h.workdir root with
  | .error _ => []
  | .ok listed =>
    ((listed.filter fun n => (lowercase s.name).isPrefixOf (lowercase n)).mergeSort
      sortsBefore).filter fun n => h.files.hasDirectory h.workdir (root.join ⟨n⟩)

theorem versions_eq_map (s : Search) (h : Host) (root : Path) :
    s.versions h root = (s.versionNames h root).map fun n => root.join ⟨n⟩ := by
  cases hroot : h.files.list h.workdir root with
  | error fault => simp only [versions, versionNames, hroot, List.map_nil]
  | ok listed => simp only [versions, versionNames, hroot, List.filter_map, Function.comp_def]

theorem pairwise_versionNames (s : Search) (h : Host) (root : Path) :
    (s.versionNames h root).Pairwise (· ≤ ·) := by
  unfold versionNames
  split
  · exact .nil
  · exact (pairwise_mergeSort _).filter _

theorem mem_versionNames {n : List Char} :
    n ∈ s.versionNames h root ↔ lowercase s.name <+: lowercase n ∧
      (∃ listed, h.files.list h.workdir root = .ok listed ∧ n ∈ listed) ∧
      h.files.hasDirectory h.workdir (root.join ⟨n⟩) = true := by
  unfold versionNames
  split
  · next hroot => simp [hroot]
  · next listed hroot => simp [hroot, and_assoc, and_left_comm]

/-- Every name once. -/
theorem listsVersions_dedup (s : Search) (h : Host) (root : Path) :
    s.ListsVersions h root (s.versionNames h root).dedup where
  sorted := by
    have hle := (pairwise_versionNames s h root).sublist (List.dedup_sublist _)
    exact (hle.and (List.nodup_dedup _)).imp fun h => lt_of_le_of_ne h.1 h.2
  mem_iff n := by rw [List.mem_dedup, mem_versionNames]

/-! ## The candidates -/

/-- All paths that are tried, in their order: the path that is set, the directories of the search
path, three paths for every root, and two for every version in a root. -/
def candidates (s : Search) (versions : Path → List (List Char)) : List Path :=
  s.explicit?.toList ++
  ((splitAt ':' (s.searchPath?.getD [])).filter (· ≠ [])).map (fun d => Path.join ⟨d⟩ ⟨s.name⟩) ++
  s.roots.flatMap (fun root =>
    [root.join ⟨s.name⟩,
      (root.join ⟨"bin".toList⟩).join ⟨s.name⟩,
      (root.join ⟨"cmd".toList⟩).join ⟨s.name⟩]) ++
  s.roots.flatMap fun root => (versions root).flatMap fun n =>
    [((root.join ⟨n⟩).join ⟨"bin".toList⟩).join ⟨s.name⟩,
      ((root.join ⟨n⟩).join ⟨"cmd".toList⟩).join ⟨s.name⟩]

/-- A root proposes the same first file whichever list of its versions is gone through. -/
theorem find?_versions (hn : s.ListsVersions h root names) :
    ((s.versions h root).flatMap s.installed).find? h.hasFile =
      (names.flatMap fun n => s.installed (root.join ⟨n⟩)).find? h.hasFile := by
  rw [versions_eq_map, List.flatMap_map, List.find?_flatMap, List.find?_flatMap]
  refine findSome?_eq_of_sorted (pairwise_versionNames s h root)
    (hn.sorted.imp fun h => h.le) (fun n => ?_) _
  rw [mem_versionNames, hn.mem_iff]

/-- The search goes through the candidates. -/
theorem find?_eq_find?_candidates {versions : Path → List (List Char)}
    (hversions : ∀ root, s.ListsVersions h root (versions root)) :
    s.find? h = (s.candidates versions).find? h.hasFile := by
  have hroots : (s.proposals h .versions).find? h.hasFile =
      (s.roots.flatMap fun root =>
        (versions root).flatMap fun n => s.installed (root.join ⟨n⟩)).find? h.hasFile := by
    rw [proposals, List.flatMap_assoc, List.find?_flatMap, List.find?_flatMap]
    exact congrArg (s.roots.findSome? ·) (funext fun root => find?_versions (hversions root))
  have horder : Strategy.order.flatMap (s.proposals h) = s.proposals h .explicit ++
      s.proposals h .searchPath ++ s.proposals h .root ++ s.proposals h .versions := by
    simp [Strategy.order]
  rw [find?, ← List.find?_flatMap, horder, List.find?_append, hroots]
  exact List.find?_append.symm

/-! ## The answer -/

/-- **The answer is the first candidate that leads to a regular file**; there is no answer if none
does. There is one list of candidates for a file tree: what the tree has a part in are the names of
the versions, and they are sorted. A root that cannot be listed has none. A file among the first
candidates therefore comes before all that follow, whatever roots they are under, a directory is
never the answer, and the order in which a tree lists its entries does not matter. -/
theorem find?_is_first (s : Search) (h : Host) :
    ∃ versions : Path → List (List Char),
      (∀ root names, s.ListsVersions h root names ↔ names = versions root) ∧
      (∀ root fault, h.files.list h.workdir root = .error fault → versions root = []) ∧
      (∀ p, s.find? h = some p ↔ h.IsFirstFile (s.candidates versions) p) ∧
      (s.find? h = none ↔ ∀ p ∈ s.candidates versions, ¬h.LeadsToFile p) ∧
      (∀ earlier later, s.candidates versions = earlier ++ later →
        (∃ p ∈ earlier, h.LeadsToFile p) → ∃ p ∈ earlier, s.find? h = some p) ∧
      (∀ p, h.files.hasDirectory h.workdir p = true → s.find? h ≠ some p) ∧
      ∀ h' : Host, h'.workdir = h.workdir → h.files.SameEntries h'.files →
        s.find? h' = s.find? h := by
  have hversions := s.listsVersions_dedup h
  have hfind := find?_eq_find?_candidates hversions
  have hfirst (p : Path) : s.find? h = some p ↔ h.IsFirstFile (s.candidates fun root =>
      (s.versionNames h root).dedup) p := by
    rw [hfind, Host.find?_hasFile_eq_some_iff]
  refine ⟨_, fun root names => ⟨fun hn => hn.unique (hversions root), ?_⟩, ?_, hfirst,
    by rw [hfind, Host.find?_hasFile_eq_none_iff], ?_, ?_, ?_⟩
  · rintro rfl
    exact hversions root
  · intro root fault hroot
    simp only [versionNames, hroot, List.dedup_nil]
  · intro earlier later hsplit hearlier
    obtain ⟨p, hp, hisFirst⟩ := Host.exists_isFirstFile hearlier later
    exact ⟨p, hp, (hfirst p).2 (hsplit ▸ hisFirst)⟩
  · intro p hdirectory hp
    obtain ⟨_, _, -, hfile, -⟩ := (hfirst p).1 hp
    exact Host.not_leadsToFile_of_hasDirectory hdirectory hfile
  · intro h' hworkdir hentries
    rw [hfind, find?_eq_find?_candidates fun root => (hversions root).congr hworkdir hentries]
    congr 1
    funext p
    rw [Host.hasFile, Host.hasFile, hworkdir, hentries.hasFile_eq]

/-! ## Two versions in a root -/

/-- The program in two directories of the first root; in the second root, a directory has its
name. -/
def installations : FileTree :=
  let program : File := { content := [], executable := true }
  ((((((FileTree.empty.put ["opt".toList] (.directory {})).put
    ["opt".toList, "Git-10".toList, "bin".toList] (.directory {})).put
    ["opt".toList, "Git-10".toList, "bin".toList, "git".toList] (.file program)).put
    ["opt".toList, "git-9".toList, "cmd".toList] (.directory {})).put
    ["opt".toList, "git-9".toList, "cmd".toList, "git".toList] (.file program)).put
    ["usr".toList] (.directory {})).put
    ["usr".toList, "git".toList] (.directory {})

/-- A host on which the directories of the two versions were made in this order. -/
def versionHost (first second : String) : Host where
  files := (installations.put ["opt".toList, first.toList] (.directory {})).put
    ["opt".toList, second.toList] (.directory {})
  workdir := []
  searchPath? := none
  binary? := none
  now := noon

/-- The search for the program under the two roots. -/
def versionSearch : Search where
  name := "git".toList
  roots := [Path.ofString "/opt", Path.ofString "/usr"]

theorem find?_versionHost :
    versionSearch.find? (versionHost "git-9" "Git-10") =
      some (Path.ofString "/opt/Git-10/bin/git") := by
  cbv

theorem find?_is_first_versionHost :
    versionSearch.find? (versionHost "Git-10" "git-9") =
        some (Path.ofString "/opt/Git-10/bin/git") ∧
      versionSearch.find? (versionHost "git-9" "Git-10") ≠ some (Path.ofString "/usr/git") := by
  obtain ⟨_, -, -, -, -, -, hdirectory, hentries⟩ :=
    find?_is_first versionSearch (versionHost "git-9" "Git-10")
  refine ⟨?_, hdirectory _ (by decide +kernel)⟩
  rw [hentries (versionHost "Git-10" "git-9") rfl
    (FileTree.sameEntries_put_put (by decide)), find?_versionHost]

/-! ## A root that is not listed -/

/-- These are the names, in their order, of the directories that stand under a root and are named
like the program, whether the root can be listed or not. -/
structure ListsSubdirectories (s : Search) (h : Host) (root : Path) (names : List (List Char)) :
    Prop where
  sorted : names.Pairwise (· < ·)
  mem_iff : ∀ n, n ∈ names ↔ lowercase s.name <+: lowercase n ∧
    (∃ place, h.files.find h.workdir (root.join ⟨['.']⟩) = .ok place ∧ n ∈ h.files.names place) ∧
    h.files.hasDirectory h.workdir (root.join ⟨n⟩) = true

/-- The answer is the first file, if all directories under the roots are gone through. -/
def ProposesSubdirectories (s : Search) (h : Host) : Prop :=
  ∀ versions : Path → List (List Char),
    (∀ root ∈ s.roots, s.ListsSubdirectories h root (versions root)) →
    ∀ p, s.find? h = some p ↔ h.IsFirstFile (s.candidates versions) p

/-- A host that runs in a directory with a version of the program in it. Whether that directory can
be listed is left open. -/
def passageHost (listable : Bool) : Host where
  files := (((FileTree.empty.put ["srv".toList] (.directory { listable, writable := false })).put
    ["srv".toList, "git-2".toList] (.directory {})).put
    ["srv".toList, "git-2".toList, "bin".toList] (.directory {})).put
    ["srv".toList, "git-2".toList, "bin".toList, "git".toList]
      (.file { content := [], executable := true })
  workdir := ["srv".toList]
  searchPath? := none
  binary? := none
  now := noon

/-- The search for the program under that directory. -/
def passageSearch (root : String) : Search where
  name := "git".toList
  roots := [Path.ofString root]

theorem listsSubdirectories_passageHost {listable : Bool} {root : String}
    (hroot : (passageHost listable).files.find ["srv".toList] ((Path.ofString root).join ⟨['.']⟩)
      = .ok ["srv".toList])
    (hversion : (passageHost listable).files.hasDirectory ["srv".toList]
      ((Path.ofString root).join ⟨"git-2".toList⟩) = true) :
    (passageSearch root).ListsSubdirectories (passageHost listable) (Path.ofString root)
      ["git-2".toList] where
  sorted := List.pairwise_singleton _ _
  mem_iff n := by
    have hnames : (passageHost listable).files.names ["srv".toList] = ["git-2".toList] := by
      cases listable <;> decide +kernel
    constructor
    · intro hn
      obtain rfl := List.mem_singleton.1 hn
      have hstarts : lowercase "git".toList <+: lowercase "git-2".toList := by decide +kernel
      exact ⟨hstarts, ⟨_, hroot, hnames ▸ hn⟩, hversion⟩
    · rintro ⟨-, ⟨place, hplace, hn⟩, -⟩
      obtain rfl := Except.ok.inj (hroot.symm.trans hplace)
      exact hnames ▸ hn

theorem not_proposesSubdirectories_passageHost {listable : Bool} {root : String} {p : Path}
    (hlists : (passageSearch root).ListsSubdirectories (passageHost listable) (Path.ofString root)
      ["git-2".toList])
    (hp : p ∈ (passageSearch root).candidates fun _ => ["git-2".toList])
    (hfile : (passageHost listable).hasFile p = true)
    (hnone : (passageSearch root).find? (passageHost listable) = none) :
    ¬(passageSearch root).ProposesSubdirectories (passageHost listable) := by
  intro hall
  have hfirst := hall (fun _ => ["git-2".toList]) fun root' hroot' => by
    obtain rfl := List.mem_singleton.1 hroot'
    exact hlists
  obtain ⟨q, -, hq⟩ := Host.exists_isFirstFile ⟨p, hp, Host.hasFile_iff.1 hfile⟩ []
  rw [List.append_nil] at hq
  rw [(hfirst q).2 hq] at hnone
  exact absurd hnone (by simp)

/-- Not every directory under a root is gone through: not if the root cannot be listed, be it
without the permission for that or as the empty path. -/
theorem not_every_subdirectory_is_proposed :
    ¬(passageSearch "/srv").ProposesSubdirectories (passageHost false) ∧
      ¬(passageSearch "").ProposesSubdirectories (passageHost true) := by
  constructor
  · exact not_proposesSubdirectories_passageHost (p := Path.ofString "/srv/git-2/bin/git")
      (listsSubdirectories_passageHost (by with_unfolding_all rfl) (by decide +kernel))
      (by decide +kernel) (by decide +kernel) (by decide +kernel)
  · exact not_proposesSubdirectories_passageHost (p := Path.ofString "git-2/bin/git")
      (listsSubdirectories_passageHost (by with_unfolding_all rfl) (by decide +kernel))
      (by decide +kernel) (by decide +kernel) (by decide +kernel)

end Search

end Vcs

end CommitStamp
