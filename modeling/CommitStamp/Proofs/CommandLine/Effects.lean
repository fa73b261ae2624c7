import CommitStamp.Proofs.CommandLine.DirtyTrees
import CommitStamp.Proofs.Host.Frame
import CommitStamp.Proofs.Stamp.Checks
import CommitStamp.Proofs.Vcs.Resolution
import Mathlib.Logic.ExistsUnique
/-!
# What a run does to its surroundings

A run of an accepted command line has one of three effects: it fails, it prints, or it stamps a
file (`Effect`). Only the last changes a file, and only that one, under whatever names it goes. Each
effect excludes the others by the exit code or by what the command line asks for, so it is enough to
follow the run through its phases and to say at each end which effect it is
(`Options.exists_fits_run`). The processes come from the look-up alone: no phase before or after it
starts any.
-/

namespace CommitStamp.CommandLine

open Text

variable {h : Host} {arguments : List String} {o : Options} {c : Config} {r : Revision} {x : Exit}
  {directory : Path}

namespace Options

/-! ## What a run goes by -/

/-- The run is under this configuration, and this is its revision: the one that is found in the
working copy, or the sentinel if none is and that is to be ignored. -/
structure Uses (o : Options) (h : Host) (c : Config) (r : Revision) : Prop where
  config : Config.loadOrDefault h o.config = .ok c
  revision : ∃ directory, o.workingCopy h = .ok directory ∧
    (((Vcs.Lookup.ofConfig h c).found h directory o.ignoreMissing).1 = .ok r ∨
      o.ignoreMissing = true ∧
        (∃ e, ((Vcs.Lookup.ofConfig h c).found h directory o.ignoreMissing).1 = .error e) ∧
        r = .sentinel h.now)

/-- The working copy is the working directory: there is no input, or no directory is written in its
path. -/
def Stays (o : Options) : Prop :=
  ∀ parent, o.input?.bind Path.parent? = some parent → parent.text = []

/-- What makes a run fail. -/
inductive Fails (o : Options) (h : Host) : Failure → Prop
  | config {e : Config.LoadError} (config : Config.loadOrDefault h o.config = .error e) :
      Fails o h (.config e)
  | workdir {c : Config} (config : Config.loadOrDefault h o.config = .ok c) (stays : o.Stays)
      (gone : ∀ d, h.files.get? h.workdir ≠ some (.directory d)) :
      Fails o h (.workdir .notFound)
  | noRevision {c : Config} {directory : Path} {e : Vcs.NoRevision}
      (config : Config.loadOrDefault h o.config = .ok c)
      (workingCopy : o.workingCopy h = .ok directory) (needed : o.ignoreMissing = false)
      (found : ((Vcs.Lookup.ofConfig h c).found h directory o.ignoreMissing).1 = .error e) :
      Fails o h (.stamp (.noRevision e))
  | job {c : Config} {r : Revision} {e : Stamp.Error} (uses : o.Uses h c r)
      (stamps : o.prints = false) (job : (o.job.run h r).1 = .error e) :
      Fails o h (.stamp e)

/-- Only a working directory that is gone is no working copy. -/
theorem workingCopy_eq_error_iff {fault : SystemFault} :
    o.workingCopy h = .error fault ↔
      o.Stays ∧ (∀ d, h.files.get? h.workdir ≠ some (.directory d)) ∧ fault = .notFound := by
  have hgone : h.currentDirectory = .error fault ↔
      (∀ d, h.files.get? h.workdir ≠ some (.directory d)) ∧ fault = .notFound := by
    unfold Host.currentDirectory FileTree.isDirectory
    cases h.files.get? h.workdir with
    | none => simp [eq_comm]
    | some e => cases e <;> simp [eq_comm]
  unfold workingCopy Stays
  cases o.input?.bind Path.parent? with
  | none => simp [hgone]
  | some parent => by_cases hparent : parent.text = [] <;> simp [hparent, hgone]

/-- The command line asks for the revision, or names no file. -/
def PrintMode (o : Options) : Prop :=
  o.revision = true ∨ o.input? = none ∧ o.output? = none

theorem prints_iff : o.prints = true ↔ o.PrintMode := by
  rw [prints, PrintMode, Bool.or_eq_true, Bool.and_eq_true, Option.isNone_iff_eq_none,
    Option.isNone_iff_eq_none]

end Options

/-! ## Effects -/

/-- The run failed: it printed nothing and left all files as they were. -/
structure Failed (o : Options) (h : Host) (x : Exit) : Prop where
  code : x.code = 1
  output : x.output = ""
  files : x.files = h.files
  cause : ∃ f, o.Fails h f ∧ Encoding.utf8.encode f.report <:+ x.errors

/-- The run printed its revision and left all files as they were. -/
structure Printed (o : Options) (h : Host) (x : Exit) : Prop where
  code : x.code = 0
  mode : o.PrintMode
  output : ∃ c r, o.Uses h c r ∧
    x.output = Template.render (o.format?.getD c.defaultFormat) r ++ "\n"
  files : x.files = h.files

/-- The run printed nothing and put the stamped input into the output: the text of the input, with
its attribute lines stamped, in the encoding that the input had. At the end of a path that leads to
the output stands that, and at the end of any other what stood there before. -/
structure Stamped (o : Options) (h : Host) (x : Exit) : Prop where
  code : x.code = 0
  mode : ¬o.PrintMode
  output : x.output = ""
  file : ∃ c r input output b content e place, o.Uses h c r ∧
    o.input? = some input ∧ o.output? = some output ∧ Brackets.ofOutput output = .ok b ∧
    h.files.content? h.workdir input = some content ∧ Encoding.detect content = e ∧
    x.files.find h.workdir output = .ok place ∧
    h.files.Wrote x.files place (e.encode (stampText b r (e.decode content)).1) ∧
    (∀ here p, x.files.find here p = .ok place →
      x.files.content? here p = some (e.encode (stampText b r (e.decode content)).1)) ∧
    ∀ here p, x.files.find here p ≠ .ok place →
      x.files.content? here p = h.files.content? here p

/-- What a run may do. -/
inductive Effect where
  | failing
  | printing
  | stamping
deriving DecidableEq

/-- The run did that. -/
def Effect.Fits : Effect → Options → Host → Exit → Prop
  | failing => Failed
  | printing => Printed
  | stamping => Stamped

/-- The effect that the exit code and the command line tell. -/
def Effect.told (o : Options) (x : Exit) : Effect :=
  if x.code = 1 then failing else if o.prints then printing else stamping

/-- Effects exclude each other. -/
theorem Effect.Fits.eq_told {k : Effect} (hk : k.Fits o h x) : k = told o x := by
  cases k with
  | failing => exact (if_pos hk.code).symm
  | printing =>
    have hcode : x.code = 0 := hk.code
    have hprints : o.prints = true := Options.prints_iff.2 hk.mode
    rw [told, if_neg (by simp [hcode]), if_pos hprints]
  | stamping =>
    have hcode : x.code = 0 := hk.code
    have hprints : ¬o.prints = true := fun hprints => hk.mode (Options.prints_iff.1 hprints)
    rw [told, if_neg (by simp [hcode]), if_neg hprints]

/-! ## Following a run -/

theorem fits_failed {f : Failure} (trace : Vcs.Trace) (hf : o.Fails h f) :
    Effect.failing.Fits o h (failed h trace f) where
  code := rfl
  output := rfl
  files := rfl
  cause := ⟨f, hf, List.suffix_append _ _⟩

/-- What was written is there, and everything else as before. -/
theorem stamped_of_stamps {input output : Path} {b : Brackets} {content : Bytes}
    (huses : o.Uses h c r) (hmode : ¬o.PrintMode) (hinput : o.input? = some input)
    (houtput : o.output? = some output)
    (hstamps : Stamp.Stamps h input output r b content x.files) (hcode : x.code = 0)
    (hnothing : x.output = "") : Stamped o h x := by
  obtain ⟨place, hplace, hwrote⟩ := FileTree.exists_wrote hstamps.write
  exact ⟨hcode, hmode, hnothing, c, r, input, output, b, content, _, place, huses, hinput, houtput,
    hstamps.brackets, FileTree.content?_of_read hstamps.read, rfl, hplace, hwrote,
    fun _ _ hp => hwrote.content?_of_find hp, fun _ _ hp => hwrote.content?_eq hp⟩

namespace Options

/-- A job that is done was given both files: without a name there is nothing to read or write. -/
theorem exists_files_of_stamps {b : Brackets} {content : Bytes} {files : FileTree}
    (hstamps : Stamp.Stamps h o.job.input o.job.output r b content files) :
    ∃ input output, o.input? = some input ∧ o.output? = some output ∧
      Stamp.Stamps h input output r b content files := by
  have hnoBrackets : ∀ b', Brackets.ofOutput ⟨[]⟩ ≠ .ok b' := by
    intro b'
    rintro ⟨⟩
  have hnoFile : ∀ content', h.files.read h.workdir ⟨[]⟩ ≠ .ok content' := by
    intro content'
    rintro ⟨⟩
  cases hinput : o.input? with
  | none =>
    have hread := hstamps.read
    rw [job, hinput] at hread
    exact absurd hread (hnoFile content)
  | some input =>
    cases houtput : o.output? with
    | none =>
      have hbrackets := hstamps.brackets
      rw [job, houtput] at hbrackets
      exact absurd hbrackets (hnoBrackets b)
    | some output =>
      rw [job, hinput, houtput] at hstamps
      exact ⟨input, output, rfl, rfl, hstamps⟩

/-- The last phase. -/
theorem exists_fits_finish (huses : o.Uses h c r) (trace : Vcs.Trace) :
    ∃ k : Effect, k.Fits o h (o.finish h c r trace) := by
  cases hprints : o.prints with
  | true =>
    rw [finish_of_prints trace hprints]
    exact ⟨.printing, rfl, prints_iff.1 hprints, ⟨c, r, huses, rfl⟩, rfl⟩
  | false =>
    have hmode : ¬o.PrintMode := fun hmode => by simp [prints_iff.2 hmode] at hprints
    rcases o.job.exists_refused_or_stamps h r with
      ⟨e, he⟩ | ⟨b, content, files, hstamps, hjob⟩
    · have hjob := Stamp.Job.run_of_refused he
      refine ⟨.failing, ?_⟩
      rw [finish, hprints, hjob]
      exact fits_failed trace (.job huses hprints (congrArg Prod.fst hjob))
    · obtain ⟨input, output, hinput, houtput, hstamps⟩ := exists_files_of_stamps hstamps
      refine ⟨.stamping, ?_⟩
      rw [finish, hprints, hjob]
      exact stamped_of_stamps huses hmode hinput houtput hstamps rfl rfl

/-- **Every run has an effect.** -/
theorem exists_fits_run (o : Options) (h : Host) : ∃ k : Effect, k.Fits o h (o.run h) := by
  cases hconfig : Config.loadOrDefault h o.config with
  | error e =>
    refine ⟨.failing, ?_⟩
    rw [run, hconfig]
    exact fits_failed {} (.config hconfig)
  | ok c =>
    cases hcopy : o.workingCopy h with
    | error fault =>
      obtain ⟨hstays, hgone, rfl⟩ := workingCopy_eq_error_iff.1 hcopy
      refine ⟨.failing, ?_⟩
      simp only [run, hconfig, hcopy]
      exact fits_failed {} (.workdir hconfig hstays hgone)
    | ok directory =>
      cases hrevision : (Vcs.Lookup.ofConfig h c).revision h directory o.ignoreMissing with
      | mk result trace =>
        cases result with
        | ok r =>
          rw [run_of_revision hconfig hcopy hrevision]
          have hused := Vcs.Lookup.revision_eq_ok_iff.1 (congrArg Prod.fst hrevision)
          exact exists_fits_finish ⟨hconfig, directory, hcopy, hused⟩ trace
        | error e =>
          have hmissing := Vcs.Lookup.revision_eq_error_iff.1 (congrArg Prod.fst hrevision)
          refine ⟨.failing, ?_⟩
          simp only [run, hconfig, hcopy, hrevision]
          exact fits_failed trace (.noRevision hconfig hcopy hmissing.1 hmissing.2)

/-! ## Processes -/

theorem runs_finish (o : Options) (h : Host) (c : Config) (r : Revision) (trace : Vcs.Trace) :
    (o.finish h c r trace).runs = trace.runs := by
  rw [finish]
  split
  · rfl
  split
  · rfl
  · rfl

/-- **The processes of a run** are those of its look-up, if it comes to one. -/
theorem runs_run_cases (o : Options) (h : Host) :
    (o.run h).runs = [] ∨ ∃ c directory, Config.loadOrDefault h o.config = .ok c ∧
      o.workingCopy h = .ok directory ∧
      (o.run h).runs = ((Vcs.Lookup.ofConfig h c).found h directory o.ignoreMissing).2.runs := by
  cases hconfig : Config.loadOrDefault h o.config with
  | error e =>
    left
    rw [run, hconfig]
    rfl
  | ok c =>
    cases hcopy : o.workingCopy h with
    | error fault =>
      left
      simp only [run, hconfig, hcopy]
      rfl
    | ok directory =>
      refine .inr ⟨c, directory, rfl, rfl, ?_⟩
      rw [← Vcs.Lookup.trace_revision]
      simp only [run, hconfig, hcopy]
      split
      · next e trace hrevision =>
        rw [hrevision]
        rfl
      · next r trace hrevision =>
        rw [hrevision]
        exact runs_finish o h c r trace

theorem arguments_runs (o : Options) (h : Host) :
    (o.run h).runs.map Run.arguments = [] ∨
      (o.run h).runs.map Run.arguments = [Vcs.logArguments] ∨
      (o.run h).runs.map Run.arguments = [Vcs.logArguments, Vcs.statusArguments] := by
  rcases o.runs_run_cases h with hruns | ⟨c, directory, -, -, hruns⟩
  · rw [hruns]
    exact .inl rfl
  · rw [hruns]
    exact Vcs.Lookup.arguments_runs _ h _ _

/-- A process runs in the working copy. -/
theorem directory_of_mem_runs {process : Run} (hprocess : process ∈ (o.run h).runs) :
    ∃ directory, o.workingCopy h = .ok directory ∧
      h.files.directory h.workdir directory = .ok process.directory := by
  rcases o.runs_run_cases h with hruns | ⟨c, directory, -, hcopy, hruns⟩
  · rw [hruns] at hprocess
    exact absurd hprocess List.not_mem_nil
  · rw [hruns] at hprocess
    exact ⟨directory, hcopy, Vcs.Lookup.directory_of_mem_runs hprocess⟩

/-- A process runs in the directory that holds the input file. Without an input, or if no directory
is written in its path, that is the working directory: the process is given the path of that, which
leads back unless a name on the way means something else in a path or is a link. -/
structure StandsBy (o : Options) (h : Host) (process : Run) : Prop where
  parent : ∀ parent, o.input?.bind Path.parent? = some parent → parent.text ≠ [] →
    h.files.directory h.workdir parent = .ok process.directory
  workdir : o.Stays → h.files.directory h.workdir h.workdir.path = .ok process.directory ∧
    (h.workdir.Proper → h.files.FreeOfLinks h.workdir → process.directory = h.workdir)

theorem standsBy_of_mem_runs {process : Run} (hprocess : process ∈ (o.run h).runs) :
    o.StandsBy h process := by
  obtain ⟨directory, hcopy, hdirectory⟩ := directory_of_mem_runs hprocess
  constructor
  · intro parent hparent hne
    have hparent' : o.workingCopy h = .ok parent := by
      rw [workingCopy, hparent]
      exact if_neg hne
    rwa [Except.ok.inj (hcopy.symm.trans hparent')] at hdirectory
  · intro hstays
    have hcurrent : h.currentDirectory = .ok directory := by
      rw [← hcopy, workingCopy]
      split
      · next parent hparent => exact (if_pos (hstays parent hparent)).symm
      · rfl
    have hpath : directory = h.workdir.path := by
      rw [Host.currentDirectory] at hcurrent
      split at hcurrent
      · exact (Except.ok.inj hcurrent).symm
      · exact absurd hcurrent (by simp)
    rw [hpath] at hdirectory
    exact ⟨hdirectory,
      fun hproper hlinks => FileTree.eq_of_directory_path hproper hlinks hdirectory⟩

end Options

/-- **The effects of a run.** It fails, it prints, or it stamps a file: exactly one of these. It
starts at most the two queries, in this order and beside the input file. -/
theorem existsUnique_effect (hparse : Options.parse arguments = .ok o) :
    (∃! k : Effect, k.Fits o h (run h arguments)) ∧
      ((run h arguments).runs.map Run.arguments = [] ∨
        (run h arguments).runs.map Run.arguments = [Vcs.logArguments] ∨
        (run h arguments).runs.map Run.arguments = [Vcs.logArguments, Vcs.statusArguments]) ∧
      ∀ process ∈ (run h arguments).runs, o.StandsBy h process := by
  rw [run_of_parse hparse]
  obtain ⟨k, hk⟩ := o.exists_fits_run h
  refine ⟨⟨k, hk, ?_⟩, o.arguments_runs h, fun process => Options.standsBy_of_mem_runs⟩
  intro k' hk'
  exact hk'.eq_told.trans hk.eq_told.symm

/-! ## A file stamped beside a dirty tree -/

/-- The host with the dirty tree, and a file with an attribute line in it. -/
def lineHost : Host :=
  { dirtyHost with
    files := dirtyHost.files.put ["A.vb".toList] (.file { content := Stamp.utf16Line }) }

/-- What `A.vb B.vb` asks for. -/
def lineOptions : Options :=
  { input? := some ⟨"A.vb".toList⟩, output? := some ⟨"B.vb".toList⟩ }

/-- The file with its attribute line stamped. -/
def dirtyUtf16Line : Bytes :=
  (Encoding.utf16 .little).encode
    "\n<assembly: AssemblyInformationalVersion(\"1.2-dirty\")>".toList

theorem existsUnique_effect_lineHost :
    Effect.stamping.Fits lineOptions lineHost (run lineHost ["A.vb", "B.vb"]) ∧
      (run lineHost ["A.vb", "B.vb"]).files.content? [] ⟨"B.vb".toList⟩ = some dirtyUtf16Line ∧
      (run lineHost ["A.vb", "B.vb"]).files.content? [] ⟨"A.vb".toList⟩ = some Stamp.utf16Line ∧
      (run lineHost ["A.vb", "B.vb"]).runs.map Run.arguments
        = [Vcs.logArguments, Vcs.statusArguments] ∧
      ∀ process ∈ (run lineHost ["A.vb", "B.vb"]).runs, process.directory = lineHost.workdir := by
  have hparse : Options.parse ["A.vb", "B.vb"] = .ok lineOptions := rfl
  have hcode : (run lineHost ["A.vb", "B.vb"]).code = 0 := by decide +kernel
  have hruns : (run lineHost ["A.vb", "B.vb"]).runs.map Run.arguments
      = [Vcs.logArguments, Vcs.statusArguments] := by decide +kernel
  obtain ⟨⟨k, hk, -⟩, -, hplaces⟩ := existsUnique_effect (h := lineHost) hparse
  refine ⟨?_, by decide +kernel, by decide +kernel, hruns, ?_⟩
  · have hstamping : k = .stamping := by
      rw [hk.eq_told, Effect.told, hcode]
      rfl
    exact hstamping ▸ hk
  · intro process hprocess
    have hproper : lineHost.workdir.Proper := by
      intro name hname
      exact absurd hname List.not_mem_nil
    have hlinks : lineHost.files.FreeOfLinks lineHost.workdir := by
      intro q hq l
      rw [List.prefix_nil.1 hq]
      exact fun hlink => absurd hlink (by simp [FileTree.get?])
    have hstays : lineOptions.Stays := by
      intro parent hparent
      obtain rfl : (⟨[]⟩ : Path) = parent := Option.some.inj hparent
      rfl
    exact ((hplaces process hprocess).workdir hstays).2 hproper hlinks

end CommitStamp.CommandLine
