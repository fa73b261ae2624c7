import CommitStamp.Config.Validity
import CommitStamp.Proofs.Host.Agreement
import CommitStamp.Proofs.Vcs.Resolution
import CommitStamp.StandIn.Basic
/-!
# The program that is found and the program that runs

The search looks at paths from the working directory of the run, and a process looks at them from
the working copy. `file_of_mem_runs` says what that comes to: an absolute path leads to the file
that was found, a relative one to whatever it leads to from the working copy, and a bare name to a
program of the search path.
-/

namespace CommitStamp

open Text

/-! ## Following a path from two directories -/

namespace FileTree

variable {p : Path}

/-- An absolute path leads to the same place from everywhere. -/
theorem find_of_isAbsolute (hp : p.isAbsolute = true) (t : FileTree) (here there : Place) :
    t.find here p = t.find there p := by
  simp only [find, origin, hp, if_true]

end FileTree

/-! ## Starting a program -/

namespace Host

variable {h : Host} {here place : Place} {f : File} {p binary directory : Path} {depth : Nat}
  {given : List Bytes} {l : Launch} {name : List Char} {run : Run} {response : Response}
  {arguments : List (List Char)}

theorem find_of_executable (hf : h.executable here p = .ok (place, f)) :
    h.files.find here p = .ok place := by
  obtain ⟨q, hq, hf⟩ := bind_eq_ok_iff.1 hf
  split at hf
  · split at hf
    · rw [hq, (Prod.mk.inj (Except.ok.inj hf)).1]
    · exact absurd hf throw_ne_ok
  · exact absurd hf throw_ne_ok
  · exact absurd hf throw_ne_ok
  · exact absurd hf throw_ne_ok

/-- The file of a launch is the one that the path leads to, also where an interpreter runs it. -/
theorem find_of_launch (hl : h.launch here depth p given = .ok l) :
    h.files.find here p = .ok l.file := by
  cases depth with
  | zero =>
    obtain ⟨_, _, hl⟩ := bind_eq_ok_iff.1 hl
    exact absurd hl throw_ne_ok
  | succ depth =>
    rw [launch] at hl
    obtain ⟨⟨file, f⟩, hf, hl⟩ := bind_eq_ok_iff.1 hl
    rw [find_of_executable hf]
    dsimp only at hl
    cases hprogram : f.program? with
    | none =>
      simp only [hprogram, Option.map_none] at hl
      split at hl
      · exact absurd hl throw_ne_ok
      · obtain ⟨next, -, hl⟩ := bind_eq_ok_iff.1 hl
        rw [← Except.ok.inj hl]
        rfl
    | some program =>
      simp only [hprogram, Option.map_some] at hl
      split at hl
      · rw [← Except.ok.inj hl]
      · obtain ⟨next, -, hl⟩ := bind_eq_ok_iff.1 hl
        rw [← Except.ok.inj hl]
        rfl

/-- The file of a search stands under the name in one of the directories. -/
theorem find_of_search {fault : SystemFault} {directories : List (List Char)}
    (hl : h.search here name given fault directories = .ok l) :
    ∃ d ∈ directories, h.files.find here (searched d name) = .ok l.file := by
  induction directories generalizing fault with
  | nil => exact absurd hl (by rintro ⟨⟩)
  | cons d directories ih =>
    rw [search] at hl
    split at hl
    · next found hfound =>
      rw [Except.ok.inj hl] at hfound
      exact ⟨d, List.mem_cons_self, find_of_launch hfound⟩
    -- the directory was passed by
    · obtain ⟨e, he, hfind⟩ := ih hl
      exact ⟨e, List.mem_cons_of_mem d he, hfind⟩
    · obtain ⟨e, he, hfind⟩ := ih hl
      exact ⟨e, List.mem_cons_of_mem d he, hfind⟩
    · obtain ⟨e, he, hfind⟩ := ih hl
      exact ⟨e, List.mem_cons_of_mem d he, hfind⟩
    · exact absurd hl (by rintro ⟨⟩)

/-- The directories in which a program with a bare name is searched. -/
def searchDirectories (h : Host) : List (List Char) :=
  splitAt ':' (h.searchPath?.getD defaultSearchPath)

/-- The program of a process is resolved from the directory of the process. -/
theorem resolveProgram_of_start
    (hstart : h.start binary directory arguments = .ok (run, response)) :
    ∃ given l, h.resolveProgram run.directory binary given = .ok l ∧ run.file = l.file := by
  rw [start] at hstart
  split at hstart
  · exact absurd hstart (by rintro ⟨⟩)
  obtain ⟨here, -, hstart⟩ := bind_eq_ok_iff.1 hstart
  dsimp only at hstart
  split at hstart
  · exact absurd hstart (by rintro ⟨⟩)
  obtain ⟨l, hl, hstart⟩ := bind_eq_ok_iff.1 hstart
  obtain ⟨r, -, hstart⟩ := bind_eq_ok_iff.1 hstart
  obtain ⟨rfl, -⟩ := Prod.mk.inj (Except.ok.inj hstart)
  exact ⟨_, l, hl, rfl⟩

/-- A path with a slash leads to the file of the process from the directory of the process. -/
theorem find_of_start (hslash : '/' ∈ binary.text)
    (hstart : h.start binary directory arguments = .ok (run, response)) :
    h.files.find run.directory binary = .ok run.file := by
  obtain ⟨given, l, hl, hfile⟩ := resolveProgram_of_start hstart
  rw [resolveProgram, if_pos hslash] at hl
  rw [hfile, find_of_launch hl]

/-- A bare name is the name of the file of the process in a directory of the search path. -/
theorem find_of_start_of_bare (hslash : '/' ∉ binary.text)
    (hstart : h.start binary directory arguments = .ok (run, response)) :
    ∃ d ∈ h.searchDirectories,
      h.files.find run.directory (searched d binary.text) = .ok run.file := by
  obtain ⟨given, l, hl, hfile⟩ := resolveProgram_of_start hstart
  rw [resolveProgram, if_neg hslash] at hl
  split at hl
  · exact absurd hl (by rintro ⟨⟩)
  · rw [hfile]
    exact find_of_search hl

theorem start_of_mem_started (hrun : run ∈ h.started binary directory arguments) :
    ∃ response, h.start binary directory arguments = .ok (run, response) := by
  unfold started at hrun
  split at hrun
  · next run' response hstart =>
    obtain rfl := List.mem_singleton.1 hrun
    exact ⟨response, hstart⟩
  · exact absurd hrun List.not_mem_nil

end Host

namespace Vcs

variable {h : Host} {directory p : Path} {run : Run}

/-! ## From the search to the process -/

/-- The path that is found leads to a regular file from the working directory. -/
theorem Search.find_of_find? {s : Search} (hp : s.find? h = some p) :
    ∃ place f, h.files.find h.workdir p = .ok place ∧ h.files.get? place = some (.file f) := by
  obtain ⟨strategy, -, hfound⟩ := List.exists_of_findSome?_eq_some hp
  exact Host.hasFile_iff.1 (List.find?_some hfound)

theorem Client.start_of_mem_runs {c : Client} (hrun : run ∈ (c.revision h directory).2.runs) :
    ∃ arguments response, h.start c.binary directory arguments = .ok (run, response) := by
  rw [runs_revision, List.mem_append] at hrun
  rcases hrun with hrun | hrun
  · exact ⟨logArguments, Host.start_of_mem_started hrun⟩
  · split at hrun
    · exact ⟨statusArguments, Host.start_of_mem_started hrun⟩
    · exact absurd hrun List.not_mem_nil

/-- **What is found is looked for again** from the working copy: the same file runs if the path is
absolute, or if it has a slash and the working copy is the working directory. -/
theorem Lookup.file_of_mem_runs {l : Lookup} {quiet : Bool} (hp : l.search.find? h = some p)
    (hrun : run ∈ (l.found h directory quiet).2.runs) :
    ∃ place f, h.files.find h.workdir p = .ok place ∧ h.files.get? place = some (.file f) ∧
      h.files.directory h.workdir directory = .ok run.directory ∧
      ('/' ∈ p.text → h.files.find run.directory p = .ok run.file) ∧
      ('/' ∉ p.text → ∃ d ∈ h.searchDirectories,
        h.files.find run.directory (Host.searched d p.text) = .ok run.file) ∧
      (p.isAbsolute = true ∨ ('/' ∈ p.text ∧ run.directory = h.workdir) → run.file = place) := by
  obtain ⟨place, f, hplace, hentry⟩ := Search.find_of_find? hp
  rw [found, hp] at hrun
  obtain ⟨arguments, response, hstart⟩ := Client.start_of_mem_runs hrun
  have hslash : '/' ∈ p.text → h.files.find run.directory p = .ok run.file :=
    fun hslash => Host.find_of_start hslash hstart
  refine ⟨place, f, hplace, hentry, (Host.directory_of_start hstart).1, hslash,
    fun hbare => Host.find_of_start_of_bare hbare hstart, ?_⟩
  rintro (habsolute | ⟨hp, hhere⟩)
  · have hfile := hslash (List.mem_of_mem_head? (beq_iff_eq.1 habsolute))
    rw [FileTree.find_of_isAbsolute habsolute _ _ h.workdir, hplace] at hfile
    exact (Except.ok.inj hfile).symm
  · have hfile := hslash hp
    rw [hhere, hplace] at hfile
    exact (Except.ok.inj hfile).symm

/-! ## A program beside the working copy -/

/-- A file tree with the same program in two places. -/
def twoPrograms : FileTree :=
  let program : File := { content := [], executable := true, program? := some (StandIn.program {}) }
  ((((FileTree.empty.put ["tools".toList] (.directory {})).put
    ["tools".toList, "git".toList] (.file program)).put
    ["work".toList] (.directory {})).put
    ["work".toList, "tools".toList] (.directory {})).put
    ["work".toList, "tools".toList, "git".toList] (.file program)

/-- A time for a run. -/
def noon : Timestamp :=
  (LogLine.timestamp? "2012-01-01".toList "12:00:00".toList "+0000".toList).get
    (by decide +kernel)

/-- A host whose environment names the program by a path that leads to either of them. -/
def relativeHost : Host where
  files := twoPrograms
  workdir := []
  searchPath? := none
  binary? := some "tools/git".toList
  now := noon

/-- The log query in the directory with the second program. -/
def relativeRun : Run where
  file := ["work".toList, "tools".toList, "git".toList]
  directory := ["work".toList]
  arguments := logArguments
  executions := [⟨["work".toList, "tools".toList, "git".toList],
    logArguments.map Encoding.utf8.encode⟩]

theorem find?_relativeHost :
    (Lookup.ofConfig relativeHost {}).search.find? relativeHost
      = some (Path.ofString "tools/git") := by
  decide +kernel

theorem relativeRun_mem_runs :
    relativeRun ∈ ((Lookup.ofConfig relativeHost {}).found relativeHost (Path.ofString "work")
      false).2.runs := by
  decide +kernel

theorem Lookup.file_of_mem_runs_relative :
    relativeHost.files.find relativeRun.directory (Path.ofString "tools/git")
      = .ok relativeRun.file := by
  obtain ⟨_, _, -, -, -, hslash, -⟩ :=
    Lookup.file_of_mem_runs find?_relativeHost relativeRun_mem_runs
  exact hslash (by decide)

/-- What runs is not always the file that was found. -/
theorem not_always_the_file_found :
    ¬∀ (h : Host) (c : Config) (directory p : Path) (place : Place) (run : Run),
      c.fault? = none → (Search.ofConfig h c.locator).find? h = some p →
      h.files.find h.workdir p = .ok place →
      run ∈ ((Lookup.ofConfig h c).found h directory false).2.runs → run.file = place := by
  intro hall
  have hfile := hall relativeHost {} (Path.ofString "work") (Path.ofString "tools/git")
    ["tools".toList, "git".toList] relativeRun rfl find?_relativeHost
    (by with_unfolding_all rfl) relativeRun_mem_runs
  exact absurd hfile (by decide)

end Vcs

end CommitStamp
