import CommitStamp.CommandLine.Run
import CommitStamp.Proofs.CommandLine.Flags
import CommitStamp.StandIn.Basic
/-!
# What becomes of a dirty tree

`--stop-if-modified` asks for a refusal where the tree is dirty. A run that stamps a file refuses
then and leaves the files alone. A run that prints does not: it is the same run without the flag.
-/

namespace CommitStamp.CommandLine

open Text

/-- The command line asks for a refusal. -/
theorem Options.stopIfModified_iff {arguments : List String} {o : Options}
    (h : Options.parse arguments = .ok o) :
    o.stopIfModified = true ↔
      ∃ w ∈ arguments.takeWhile (· ≠ "--"), Flag.stopIfModified.isRaisedBy w.toList = true := by
  obtain ⟨r, hread, rfl⟩ := Options.parse_eq_ok_iff.1 h
  rw [← mem_flags_iff rfl hread]
  exact List.contains_iff_mem

variable {h : Host} {arguments : List String} {o : Options} {c : Config} {r : Revision}
  {directory : Path}

theorem run_of_parse (hparse : Options.parse arguments = .ok o) : run h arguments = o.run h := by
  rw [run, hparse]

/-- A run that has a configuration, a working copy and a revision. -/
theorem Options.run_of_revision {trace : Vcs.Trace}
    (hconfig : Config.loadOrDefault h o.config = .ok c)
    (hcopy : o.workingCopy h = .ok directory)
    (hrevision : (Vcs.Lookup.ofConfig h c).revision h directory o.ignoreMissing = (.ok r, trace)) :
    o.run h = o.finish h c r trace := by
  simp only [Options.run, hconfig, hcopy, hrevision]

/-- A run that stamps refuses a dirty tree before it looks at any file. -/
theorem Options.finish_of_dirty (trace : Vcs.Trace) (hprints : o.prints = false)
    (hstop : o.stopIfModified = true) (hdirty : r.dirty = true) :
    o.finish h c r trace = failed h trace (.stamp .dirtyTree) := by
  have hjob : o.job.run h r = (.error .dirtyTree, h.files) := if_pos ⟨hstop, hdirty⟩
  rw [finish, hprints, hjob]
  rfl

/-- A run that prints does not ask whether the tree is dirty. -/
theorem Options.finish_of_prints (trace : Vcs.Trace) (hprints : o.prints = true) :
    o.finish h c r trace =
      { code := 0, output := Template.render (o.template c) r ++ "\n", errors := trace.errors,
        files := h.files, runs := trace.runs } :=
  if_pos hprints

/-- **A dirty tree is refused where a file would be stamped**, and the run changes nothing then. A
run that prints the revision does so all the same: it is the run without the flag. -/
theorem run_of_stopIfModified (hparse : Options.parse arguments = .ok o)
    (hflag : ∃ w ∈ arguments.takeWhile (· ≠ "--"),
      Flag.stopIfModified.isRaisedBy w.toList = true)
    (hconfig : Config.loadOrDefault h o.config = .ok c)
    (hcopy : o.workingCopy h = .ok directory)
    (hrevision : ((Vcs.Lookup.ofConfig h c).revision h directory o.ignoreMissing).1 = .ok r)
    (hdirty : r.dirty = true) :
    (run h arguments).files = h.files ∧
      (o.prints = false → (run h arguments).code = 1 ∧ (run h arguments).output = "") ∧
      (o.prints = true → (run h arguments).code = 0 ∧
        (run h arguments).output = Template.render (o.template c) r ++ "\n" ∧
        run h arguments = { o with stopIfModified := false }.run h) := by
  have hstop : o.stopIfModified = true := (Options.stopIfModified_iff hparse).2 hflag
  obtain ⟨trace, hrevision⟩ : ∃ trace, (Vcs.Lookup.ofConfig h c).revision h directory
      o.ignoreMissing = (.ok r, trace) := ⟨_, Prod.ext hrevision rfl⟩
  rw [run_of_parse hparse, Options.run_of_revision hconfig hcopy hrevision]
  cases hprints : o.prints with
  | false =>
    rw [Options.finish_of_dirty trace hprints hstop hdirty]
    exact ⟨rfl, fun _ => ⟨rfl, rfl⟩, fun h => absurd h (by simp)⟩
  | true =>
    have hwithout : { o with stopIfModified := false }.run h
        = { o with stopIfModified := false }.finish h c r trace :=
      Options.run_of_revision (o := { o with stopIfModified := false }) hconfig hcopy hrevision
    rw [hwithout, Options.finish_of_prints trace hprints,
      Options.finish_of_prints (o := { o with stopIfModified := false }) trace hprints]
    exact ⟨rfl, fun h => absurd h (by simp), fun _ => ⟨rfl, rfl, rfl⟩⟩

/-! ## A dirty tree that is printed -/

/-- What the log query tells there. -/
def dirtyLine : List Char :=
  "45d4e32f0a1b2c3d4e5f60718293a4b5c6d7e8f9 2011-12-31 14:30:45 +0100".toList

/-- The revision that this line and a changed file make. -/
def dirtyRevision : Revision :=
  let told := (LogLine.parse? dirtyLine).get (by decide +kernel)
  ⟨told.1, told.2, true⟩

/-- The program that tells a dirty tree. -/
def dirtyStandIn : StandIn where
  log := { output := Encoding.utf8.encode dirtyLine }
  status := { output := Encoding.utf8.encode "?? notes.txt".toList }

/-- A host without a configuration file, whose environment names that program. -/
def dirtyHost : Host where
  files := FileTree.empty.put ["git".toList]
    (.file { content := [], executable := true, program? := some dirtyStandIn.program })
  workdir := []
  searchPath? := none
  binary? := some "/git".toList
  now := dirtyRevision.time

theorem revision_dirtyHost :
    ((Vcs.Lookup.ofConfig dirtyHost {}).revision dirtyHost dirtyHost.workdir.path false).1
      = .ok dirtyRevision := by
  with_unfolding_all rfl

theorem run_of_stopIfModified_dirtyHost :
    (run dirtyHost ["-M"]).code = 0 ∧ (run dirtyHost ["-M"]).files = dirtyHost.files := by
  have hparse : Options.parse ["-M"] = .ok { stopIfModified := true } := rfl
  have hrun := run_of_stopIfModified (c := {}) hparse ⟨"-M", by decide, by decide⟩ rfl rfl
    revision_dirtyHost rfl
  exact ⟨(hrun.2.2 rfl).1, hrun.1⟩

/-- A dirty tree is not always refused. -/
theorem not_always_refused :
    ¬∀ (h : Host) (arguments : List String) (o : Options) (c : Config) (directory : Path)
      (r : Revision), Options.parse arguments = .ok o →
      (∃ w ∈ arguments.takeWhile (· ≠ "--"), Flag.stopIfModified.isRaisedBy w.toList = true) →
      Config.loadOrDefault h o.config = .ok c →
      o.workingCopy h = .ok directory →
      ((Vcs.Lookup.ofConfig h c).revision h directory o.ignoreMissing).1 = .ok r →
      r.dirty = true →
      (run h arguments).code = 1 ∧ (run h arguments).output = "" ∧
        (run h arguments).files = h.files := by
  intro hall
  have hcode := (hall dirtyHost ["-M"] { stopIfModified := true } {} dirtyHost.workdir.path
    dirtyRevision rfl ⟨"-M", by decide, by decide⟩ rfl rfl revision_dirtyHost rfl).1
  have hprinted : (run dirtyHost ["-M"]).code = 0 := by decide +kernel
  rw [hprinted] at hcode
  exact absurd hcode (by decide)

end CommitStamp.CommandLine
