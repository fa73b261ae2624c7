import CommitStamp.Proofs.CommandLine.AddedFlag
import CommitStamp.Proofs.CommandLine.Effects
/-!
# Going on without a revision

`--ignore-missing` puts a sentinel in the place of a revision that cannot be found. It also keeps
error output of the queries back. `run_ignoreMissing` compares a run with the flag to the same run
without it: a revision that is found is used by both, and whatever else may go wrong does so in both
(`IgnoresMissing`). The queries do not depend on whether their error output is kept back
(`Vcs.Lookup.found_quiet`), and what comes after them only puts its own error output behind theirs
(`Options.finish_eq`), so the two runs are compared where the revision is looked up and nowhere
else.
-/

namespace CommitStamp

open Text

/-! ## Queries in silence -/

namespace Vcs

/-- What is left behind where error output is kept back. -/
def Trace.silenced (t : Trace) : Trace :=
  { runs := t.runs }

variable {h : Host} {directory : Path}

theorem Client.query_quiet {σ : Type} (c : Client) (arguments : List (List Char)) (l : Listener σ)
    (s : σ) :
    { c with quiet := true }.query h directory arguments l s
      = ((c.query h directory arguments l s).1, (c.query h directory arguments l s).2.1,
        (c.query h directory arguments l s).2.2.silenced) := by
  unfold query
  cases h.start c.binary directory arguments with
  | error fault => rfl
  | ok started => rfl

theorem Client.revision_quiet (c : Client) (h : Host) (directory : Path) :
    { c with quiet := true }.revision h directory
      = ((c.revision h directory).1, (c.revision h directory).2.silenced) := by
  unfold revision
  rw [query_quiet, query_quiet]
  cases c.query h directory logArguments commitListener none with
  | mk outcome known =>
    obtain ⟨commit, asked⟩ := known
    match outcome, commit with
    | .completed _, some (hash, time) => rfl
    | .completed _, none => rfl
    | .timedOut, _ => rfl
    | .failed _, _ => rfl

/-- **A look-up in silence** finds the same, by the same processes. -/
theorem Lookup.found_quiet (l : Lookup) (h : Host) (directory : Path) :
    l.found h directory true
      = ((l.found h directory false).1, (l.found h directory false).2.silenced) := by
  unfold found
  cases l.search.find? h with
  | none => rfl
  | some binary =>
    dsimp only
    rw [Bool.or_true, Bool.or_false]
    exact Client.revision_quiet ⟨binary, l.timeout, l.quiet⟩ h directory

end Vcs

/-! ## What goes wrong -/

/-- A job never fails for want of a revision. -/
theorem Stamp.Job.run_ne_noRevision (j : Job) (h : Host) (r : Revision) (e : Vcs.NoRevision) :
    (j.run h r).1 ≠ .error (.noRevision e) := by
  unfold run
  split
  · rintro ⟨⟩
  split
  · rintro ⟨⟩
  split
  · dsimp only
    cases (stampFile h j.input j.output r).1 with
    | ok report => rintro ⟨⟩
    | error obstacle => cases obstacle <;> rintro ⟨⟩
  · rintro ⟨⟩

namespace CommandLine

variable {h : Host} {o : Options} {c c' : Config} {r : Revision} {trace : Vcs.Trace}
  {e : Vcs.NoRevision} {f : Failure} {directory : Path}

namespace Options

/-- Without a configuration, that is what goes wrong. -/
theorem fails_of_config {e : Config.LoadError}
    (hconfig : Config.loadOrDefault h o.config = .error e) (hf : o.Fails h f) : f = .config e := by
  have hnone : ∀ c, Config.loadOrDefault h o.config ≠ .ok c := by simp [hconfig]
  cases hf with
  | config hconfig' =>
    rw [hconfig] at hconfig'
    rw [Except.error.inj hconfig']
  | workdir hconfig' => exact absurd hconfig' (hnone _)
  | noRevision hconfig' => exact absurd hconfig' (hnone _)
  | job huses => exact absurd huses.config (hnone _)

/-- Without a working copy, that is what goes wrong. -/
theorem fails_of_workingCopy {fault : SystemFault}
    (hconfig : Config.loadOrDefault h o.config = .ok c) (hcopy : o.workingCopy h = .error fault)
    (hf : o.Fails h f) : f = .workdir fault := by
  have hnone : ∀ directory, o.workingCopy h ≠ .ok directory := by simp [hcopy]
  cases hf with
  | config hconfig' =>
    rw [hconfig] at hconfig'
    exact absurd hconfig' (by simp)
  | workdir => rw [(workingCopy_eq_error_iff.1 hcopy).2.2]
  | noRevision _ hcopy' => exact absurd hcopy' (hnone _)
  | job huses =>
    obtain ⟨directory, hcopy', -⟩ := huses.revision
    exact absurd hcopy' (hnone directory)

/-- The working copy of a run: a revision is used if it is found there, under the configuration that
is loaded. -/
theorem uses_iff (hneeded : o.ignoreMissing = false)
    (hconfig : Config.loadOrDefault h o.config = .ok c) (hcopy : o.workingCopy h = .ok directory) :
    o.Uses h c' r ↔
      c' = c ∧ ((Vcs.Lookup.ofConfig h c).found h directory false).1 = .ok r := by
  constructor
  · intro huses
    have hconfig' := huses.config
    obtain ⟨directory', hcopy', hrevision⟩ := huses.revision
    rw [hconfig] at hconfig'
    obtain rfl := Except.ok.inj hconfig'
    rw [hcopy] at hcopy'
    obtain rfl := Except.ok.inj hcopy'
    rw [hneeded] at hrevision
    simpa using hrevision
  · rintro ⟨rfl, hfound⟩
    refine ⟨hconfig, directory, hcopy, .inl ?_⟩
    rw [hneeded, hfound]

/-- With a working copy, something goes wrong in the look-up or in the job. -/
theorem fails_cases_of_workingCopy (hneeded : o.ignoreMissing = false)
    (hconfig : Config.loadOrDefault h o.config = .ok c) (hcopy : o.workingCopy h = .ok directory)
    (hf : o.Fails h f) :
    (∃ e, f = .stamp (.noRevision e) ∧
        ((Vcs.Lookup.ofConfig h c).found h directory false).1 = .error e) ∨
      ∃ r e, ((Vcs.Lookup.ofConfig h c).found h directory false).1 = .ok r ∧ f = .stamp e ∧
        o.prints = false ∧ (o.job.run h r).1 = .error e := by
  cases hf with
  | config hconfig' =>
    rw [hconfig] at hconfig'
    exact absurd hconfig' (by simp)
  | workdir _ hstays hgone =>
    have hcopy' := workingCopy_eq_error_iff.2 ⟨hstays, hgone, rfl⟩
    rw [hcopy] at hcopy'
    exact absurd hcopy' (by simp)
  | noRevision hconfig' hcopy' _ hfound =>
    rw [hconfig] at hconfig'
    obtain rfl := Except.ok.inj hconfig'
    rw [hcopy] at hcopy'
    obtain rfl := Except.ok.inj hcopy'
    rw [hneeded] at hfound
    exact .inl ⟨_, rfl, hfound⟩
  | job huses hprints hjob =>
    obtain ⟨rfl, hr⟩ := (uses_iff hneeded hconfig hcopy).1 huses
    exact .inr ⟨_, _, hr, rfl, hprints, hjob⟩

/-- With a revision, only the job can go wrong. -/
theorem fails_of_found (hneeded : o.ignoreMissing = false)
    (hconfig : Config.loadOrDefault h o.config = .ok c) (hcopy : o.workingCopy h = .ok directory)
    (hfound : (Vcs.Lookup.ofConfig h c).found h directory false = (.ok r, trace))
    (hf : o.Fails h f) :
    ∃ e, f = .stamp e ∧ o.prints = false ∧ (o.job.run h r).1 = .error e := by
  rcases fails_cases_of_workingCopy hneeded hconfig hcopy hf with
    ⟨e, -, hnone⟩ | ⟨r', e, hr, hf, hprints, hjob⟩
  · rw [hfound] at hnone
    exact absurd hnone (by simp)
  · rw [hfound] at hr
    obtain rfl := Except.ok.inj hr
    exact ⟨e, hf, hprints, hjob⟩

/-- Without one, that is what goes wrong. -/
theorem fails_of_not_found (hneeded : o.ignoreMissing = false)
    (hconfig : Config.loadOrDefault h o.config = .ok c) (hcopy : o.workingCopy h = .ok directory)
    (hfound : (Vcs.Lookup.ofConfig h c).found h directory false = (.error e, trace))
    (hf : o.Fails h f) : f = .stamp (.noRevision e) := by
  rcases fails_cases_of_workingCopy hneeded hconfig hcopy hf with
    ⟨e', hf, hnone⟩ | ⟨r', e', hr, -⟩
  · rw [hfound] at hnone
    rw [hf, Except.error.inj hnone]
  · rw [hfound] at hr
    exact absurd hr (by simp)

end Options

/-! ## Two runs -/

/-- The second run is the first, but that it goes on if there is no revision. -/
structure IgnoresMissing (o : Options) (h : Host) (x x' : Exit) : Prop where
  /-- A revision that is found is used by both. -/
  resolved : ∀ c r, o.Uses h c r →
    ∃ trace : Vcs.Trace, x = o.finish h c r trace ∧ x' = o.finish h c r { runs := trace.runs }
  success : x.code = 0 → x'.code = 0 ∧ x'.output = x.output ∧ x'.files = x.files
  cause : x.code ≠ 0 → ∃ f, o.Fails h f
  failure : ∀ f, o.Fails h f → (∀ e, f ≠ .stamp (.noRevision e)) →
    x.code = 1 ∧ x'.code = 1 ∧ x'.output = x.output ∧ x'.files = x.files ∧
      x'.errors = Encoding.utf8.encode f.report ∧ x'.errors <:+ x.errors
  missing : ∀ e, o.Fails h (.stamp (.noRevision e)) →
    x.code = 1 ∧ ∃ c, Config.loadOrDefault h o.config = .ok c ∧
      x' = o.finish h c ⟨CommitHash.zero, h.now, false⟩ { runs := x.runs }

namespace Options

/-- The options with a missing revision ignored. -/
def ignoring (o : Options) : Options :=
  { o with ignoreMissing := true }

/-- What the look-up left behind shows in the error output and the processes, and nowhere else. -/
theorem finish_eq (o : Options) (h : Host) (c : Config) (r : Revision) (trace : Vcs.Trace) :
    o.finish h c r trace = { o.finish h c r {} with
      errors := trace.errors ++ (o.finish h c r {}).errors, runs := trace.runs } := by
  unfold finish
  cases o.prints with
  | true =>
    show Exit.mk _ _ _ _ _ = Exit.mk _ _ (trace.errors ++ []) _ _
    rw [List.append_nil]
    rfl
  | false =>
    cases o.job.run h r with
    | mk result files =>
      cases result with
      | error e => rfl
      | ok report =>
        show Exit.mk _ _ _ _ _ = Exit.mk _ _ (trace.errors ++ []) _ _
        rw [List.append_nil]
        rfl

/-- A job that fails is reported, behind what the look-up let through. -/
theorem finish_of_job_error {e : Stamp.Error} (trace : Vcs.Trace) (hprints : o.prints = false)
    (hjob : (o.job.run h r).1 = .error e) :
    o.finish h c r trace
      = { failed h trace (.stamp e) with files := (o.job.run h r).2 } := by
  rw [finish, hprints]
  cases hrun : o.job.run h r with
  | mk result files =>
    rw [hrun] at hjob
    obtain rfl : result = .error e := hjob
    rfl

/-- The run that ignores a missing revision, from the look-up of the run that does not. -/
theorem run_ignoring {result : Except Vcs.NoRevision Revision}
    (hconfig : Config.loadOrDefault h o.config = .ok c) (hcopy : o.workingCopy h = .ok directory)
    (hfound : (Vcs.Lookup.ofConfig h c).found h directory false = (result, trace)) :
    o.ignoring.run h
      = o.finish h c (result.toOption.getD (.sentinel h.now)) { runs := trace.runs } := by
  refine run_of_revision (o := o.ignoring) hconfig hcopy ?_
  show (Vcs.Lookup.ofConfig h c).revision h directory true = _
  rw [Vcs.Lookup.revision, Vcs.Lookup.found_quiet, hfound]
  cases result <;> rfl

/-- A run that does not succeed has something that went wrong. -/
theorem exists_fails (hcode : (o.run h).code ≠ 0) : ∃ f, o.Fails h f := by
  obtain ⟨k, hk⟩ := o.exists_fits_run h
  cases k with
  | failing =>
    obtain ⟨f, hf, -⟩ := hk.cause
    exact ⟨f, hf⟩
  | printing => exact absurd hk.code hcode
  | stamping => exact absurd hk.code hcode

/-- Two runs with a configuration and a revision differ in what the look-up let through. -/
theorem ignoresMissing_of_found (hneeded : o.ignoreMissing = false)
    (hconfig : Config.loadOrDefault h o.config = .ok c) (hcopy : o.workingCopy h = .ok directory)
    (hfound : (Vcs.Lookup.ofConfig h c).found h directory false = (.ok r, trace)) :
    IgnoresMissing o h (o.run h) (o.ignoring.run h) := by
  have hrun : o.run h = o.finish h c r trace := by
    apply run_of_revision hconfig hcopy
    rw [hneeded, Vcs.Lookup.revision, hfound]
  have hrun' : o.ignoring.run h = o.finish h c r { runs := trace.runs } := by
    rw [run_ignoring hconfig hcopy hfound, Except.toOption, Option.getD_some]
  have hkept : (o.ignoring.run h).code = (o.run h).code ∧
      (o.ignoring.run h).output = (o.run h).output ∧
      (o.ignoring.run h).files = (o.run h).files := by
    rw [hrun, hrun', finish_eq o h c r trace, finish_eq o h c r { runs := trace.runs }]
    exact ⟨rfl, rfl, rfl⟩
  constructor
  · intro c' r' huses
    obtain ⟨rfl, hr⟩ := (uses_iff hneeded hconfig hcopy).1 huses
    rw [hfound] at hr
    obtain rfl := Except.ok.inj hr
    exact ⟨trace, hrun, hrun'⟩
  · intro hcode
    exact ⟨hkept.1.trans hcode, hkept.2⟩
  · exact exists_fails
  · intro f hf _
    obtain ⟨e, rfl, hprints, hjob⟩ := fails_of_found hneeded hconfig hcopy hfound hf
    have hcode : (o.run h).code = 1 := by
      rw [hrun, finish_of_job_error trace hprints hjob]
      rfl
    refine ⟨hcode, hkept.1.trans hcode, hkept.2.1, hkept.2.2, ?_, ?_⟩
    · rw [hrun', finish_of_job_error _ hprints hjob]
      rfl
    · rw [hrun, hrun', finish_of_job_error _ hprints hjob, finish_of_job_error _ hprints hjob]
      exact List.suffix_append _ _
  · intro e hf
    obtain ⟨e', heq, -, hjob⟩ := fails_of_found hneeded hconfig hcopy hfound hf
    rw [← Failure.stamp.inj heq] at hjob
    exact absurd hjob (o.job.run_ne_noRevision h r e)

/-- Without a revision, one run fails and the other goes on with the sentinel. -/
theorem ignoresMissing_of_not_found (hneeded : o.ignoreMissing = false)
    (hconfig : Config.loadOrDefault h o.config = .ok c) (hcopy : o.workingCopy h = .ok directory)
    (hfound : (Vcs.Lookup.ofConfig h c).found h directory false = (.error e, trace)) :
    IgnoresMissing o h (o.run h) (o.ignoring.run h) := by
  have hrun : o.run h = failed h trace (.stamp (.noRevision e)) := by
    have hrevision : (Vcs.Lookup.ofConfig h c).revision h directory o.ignoreMissing
        = (.error e, trace) := by
      rw [hneeded, Vcs.Lookup.revision, hfound]
      rfl
    simp only [run, hconfig, hcopy, hrevision]
  have hrun' : o.ignoring.run h = o.finish h c (.sentinel h.now) { runs := trace.runs } := by
    rw [run_ignoring hconfig hcopy hfound, Except.toOption, Option.getD_none]
  have hcode : (o.run h).code = 1 := by
    rw [hrun]
    rfl
  constructor
  · intro c' r' huses
    have hr := ((uses_iff hneeded hconfig hcopy).1 huses).2
    rw [hfound] at hr
    exact absurd hr (by simp)
  · intro hzero
    rw [hcode] at hzero
    exact absurd hzero (by decide)
  · exact exists_fails
  · intro f hf hother
    exact absurd (fails_of_not_found hneeded hconfig hcopy hfound hf) (hother e)
  · intro _ _
    refine ⟨hcode, c, hconfig, ?_⟩
    rw [hrun, hrun']
    rfl

/-- Both runs fail before they look anything up. -/
theorem ignoresMissing_of_failed (hrun : o.run h = failed h {} f)
    (hrun' : o.ignoring.run h = failed h {} f) (hfails : ∀ f', o.Fails h f' → f' = f)
    (huses : ∀ c r, ¬o.Uses h c r) (hother : ∀ e, f ≠ .stamp (.noRevision e)) :
    IgnoresMissing o h (o.run h) (o.ignoring.run h) := by
  have hcode : (o.run h).code = 1 := by
    rw [hrun]
    rfl
  constructor
  · exact fun c r hr => absurd hr (huses c r)
  · intro hzero
    rw [hcode] at hzero
    exact absurd hzero (by decide)
  · exact exists_fails
  · intro f' hf _
    obtain rfl := hfails f' hf
    rw [hrun, hrun']
    exact ⟨rfl, rfl, rfl, rfl, rfl, List.suffix_refl _⟩
  · intro e hf
    exact absurd (hfails _ hf).symm (hother e)

theorem ignoresMissing_of_config {e : Config.LoadError}
    (hconfig : Config.loadOrDefault h o.config = .error e) :
    IgnoresMissing o h (o.run h) (o.ignoring.run h) := by
  apply ignoresMissing_of_failed (f := .config e)
  · rw [run, hconfig]
  · have hconfig' : Config.loadOrDefault h o.ignoring.config = .error e := hconfig
    rw [run, hconfig']
  · exact fun f hf => fails_of_config hconfig hf
  · intro c r huses
    exact absurd (hconfig.symm.trans huses.config) (by simp)
  · simp

theorem ignoresMissing_of_workingCopy {fault : SystemFault}
    (hconfig : Config.loadOrDefault h o.config = .ok c) (hcopy : o.workingCopy h = .error fault) :
    IgnoresMissing o h (o.run h) (o.ignoring.run h) := by
  apply ignoresMissing_of_failed (f := .workdir fault)
  · simp only [run, hconfig, hcopy]
  · have hconfig' : Config.loadOrDefault h o.ignoring.config = .ok c := hconfig
    have hcopy' : o.ignoring.workingCopy h = .error fault := hcopy
    simp only [run, hconfig', hcopy']
  · exact fun f hf => fails_of_workingCopy hconfig hcopy hf
  · intro c r huses
    obtain ⟨directory, hcopy', -⟩ := huses.revision
    exact absurd (hcopy.symm.trans hcopy') (by simp)
  · simp

/-- **A missing revision is all that is ignored.** -/
theorem ignoresMissing (hneeded : o.ignoreMissing = false) (h : Host) :
    IgnoresMissing o h (o.run h) (o.ignoring.run h) := by
  cases hconfig : Config.loadOrDefault h o.config with
  | error e => exact ignoresMissing_of_config hconfig
  | ok c =>
    cases hcopy : o.workingCopy h with
    | error fault => exact ignoresMissing_of_workingCopy hconfig hcopy
    | ok directory =>
      cases hfound : (Vcs.Lookup.ofConfig h c).found h directory false with
      | mk result trace =>
        cases result with
        | ok r => exact ignoresMissing_of_found hneeded hconfig hcopy hfound
        | error e => exact ignoresMissing_of_not_found hneeded hconfig hcopy hfound

end Options

/-- **A missing revision is all that `--ignore-missing` ignores.** The flag may stand in front of
every accepted command line, and wherever else it is accepted. A run that succeeds without it does
the same with it, and a run that fails for another reason fails for that with it; a run that fails
for want of a revision goes on, as if the sentinel had been found. -/
theorem run_ignoreMissing {arguments : List String} {w : String}
    (hw : w = "-i" ∨ w = "--ignore-missing") (haccepted : Accepted arguments)
    (hwithout : ∀ v ∈ arguments.takeWhile (· ≠ "--"),
      Flag.ignoreMissing.isRaisedBy v.toList = false) (h : Host) :
    Accepted (w :: arguments) ∧
      ∀ before after, arguments = before ++ after → "--" ∉ before →
        Accepted (before ++ w :: after) →
        (∀ o, Options.parse arguments = .ok o →
          IgnoresMissing o h (run h arguments) (run h (before ++ w :: after))) ∧
        ((∀ o, Options.parse arguments ≠ .ok o) →
          run h (before ++ w :: after) = run h arguments) := by
  refine ⟨Options.accepted_cons hw hwithout haccepted, ?_⟩
  rintro before after rfl hbefore haccepted'
  rcases Options.parse_ignoreMissing hw hbefore hwithout haccepted' with
    ⟨o, hparse, hneeded, hparse'⟩ | ⟨stop, hstop, hstop'⟩
  · refine ⟨fun o' ho' => ?_, fun hnone => absurd hparse (hnone o)⟩
    rw [hparse] at ho'
    obtain rfl := Except.ok.inj ho'
    rw [run_of_parse hparse, run_of_parse hparse']
    exact o.ignoresMissing hneeded h
  · refine ⟨fun o ho => ?_, fun _ => ?_⟩
    · rw [hstop] at ho
      exact absurd ho (by simp)
    · rw [run, run, hstop, hstop']

theorem run_ignoreMissing_dirtyHost :
    (run dirtyHost ["-M"]).code = 0 ∧ (run dirtyHost ["-M", "-i"]).code = 0 ∧
      (run dirtyHost ["-M", "-i"]).output = (run dirtyHost ["-M"]).output ∧
      ∃ trace, run dirtyHost ["-M", "-i"]
        = Options.finish { stopIfModified := true } dirtyHost {} dirtyRevision trace := by
  have hparse : Options.parse ["-M"] = .ok { stopIfModified := true } := rfl
  have haccepted : Accepted ["-M"] := by
    rintro e ⟨⟩
  have haccepted' : Accepted (["-M"] ++ ["-i"]) := by
    rintro e ⟨⟩
  have hcode : (run dirtyHost ["-M"]).code = 0 := by decide +kernel
  have huses : Options.Uses { stopIfModified := true } dirtyHost {} dirtyRevision :=
    ⟨rfl, dirtyHost.workdir.path, rfl, Vcs.Lookup.revision_eq_ok_iff.1 revision_dirtyHost⟩
  obtain ⟨hruns, -⟩ := (run_ignoreMissing (.inl rfl) haccepted (by decide) dirtyHost).2
    ["-M"] [] rfl (by decide) haccepted'
  have hsame := hruns _ hparse
  obtain ⟨trace, -, hfinish⟩ := hsame.resolved _ _ huses
  exact ⟨hcode, (hsame.success hcode).1, (hsame.success hcode).2.1, _, hfinish⟩

/-- Where there is no program, the sentinel is printed. -/
example : (run { dirtyHost with binary? := none } ["-i", "-f", "\x7bcommit:8\x7d"]).output
    = "00000000\n" := by
  decide +kernel

/-- A working directory that is gone is not a missing revision. -/
example : (run { dirtyHost with workdir := ["gone".toList] } ["-i"]).code = 1 := by
  decide +kernel

end CommandLine

end CommitStamp
