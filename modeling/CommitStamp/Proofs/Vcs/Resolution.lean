import CommitStamp.Proofs.Host.Following
import CommitStamp.Proofs.Vcs.Lines
import CommitStamp.Vcs.Resolve
/-!
# What the two queries tell

`Client.revision` runs two queries whose listeners carry a state from line to line. Here the answer
is said without them: a query counts if it was started and ended in time (`Client.Answers`), the log
query tells the commit of its first line that reads as one (`Client.TellsCommit`), and the status
query tells changes if any of its lines is not blank (`Client.TellsChanges`). Nothing else has a
part in the answer: neither how the programs ended nor what a query said that was not in time.
-/

namespace CommitStamp

open Text

/-! ## Starting a program -/

namespace Host

variable {h : Host} {binary directory : Path} {arguments : List (List Char)} {run : Run}
  {response : Response}

/-- A process runs in the directory that it was started in, with the arguments that it was given. -/
theorem directory_of_start (hstart : h.start binary directory arguments = .ok (run, response)) :
    h.files.directory h.workdir directory = .ok run.directory ∧ run.arguments = arguments := by
  rw [start] at hstart
  split at hstart
  · exact absurd hstart (by rintro ⟨⟩)
  obtain ⟨here, hhere, hstart⟩ := bind_eq_ok_iff.1 hstart
  dsimp only at hstart
  split at hstart
  · exact absurd hstart (by rintro ⟨⟩)
  obtain ⟨l, -, hstart⟩ := bind_eq_ok_iff.1 hstart
  obtain ⟨r, -, hstart⟩ := bind_eq_ok_iff.1 hstart
  obtain ⟨rfl, -⟩ := Prod.mk.inj (Except.ok.inj hstart)
  exact ⟨hhere, rfl⟩

/-- The process of a program that could be started. -/
def started (h : Host) (binary directory : Path) (arguments : List (List Char)) : List Run :=
  match h.start binary directory arguments with
  | .ok (run, _) => [run]
  | .error _ => []

theorem directory_of_mem_started (hrun : run ∈ h.started binary directory arguments) :
    h.files.directory h.workdir directory = .ok run.directory ∧ run.arguments = arguments := by
  rw [started] at hrun
  split at hrun
  · next hstart =>
    rw [List.mem_singleton] at hrun
    subst hrun
    exact directory_of_start hstart
  · exact absurd hrun List.not_mem_nil

theorem arguments_started (h : Host) (binary directory : Path) (arguments : List (List Char)) :
    (h.started binary directory arguments).map Run.arguments = [] ∨
      (h.started binary directory arguments).map Run.arguments = [arguments] := by
  rw [started]
  split
  · next hstart =>
    right
    rw [List.map_singleton, (directory_of_start hstart).2]
  · left
    rfl

end Host

namespace Vcs

/-! ## Listeners -/

/-- The listener for commits knows the first one. -/
theorem listen_commitListener (lines : List (List Char)) :
    listen commitListener none lines = lines.findSome? LogLine.parse? := by
  induction lines with
  | nil => rfl
  | cons line lines ih =>
    rw [listen, commitListener, List.findSome?_cons]
    cases LogLine.parse? line with
    | none => exact ih
    | some commit => rfl

/-- The listener for changes knows whether any line is not blank. -/
theorem listen_dirtyListener (lines : List (List Char)) :
    listen dirtyListener false lines = lines.any fun line => !line.all isBlank := by
  induction lines with
  | nil => rfl
  | cons line lines ih =>
    rw [listen, dirtyListener, List.any_cons]
    cases line.all isBlank with
    | true => exact ih
    | false => rfl

/-! ## Queries that count -/

namespace Client

variable {c : Client} {h : Host} {directory : Path} {arguments : List (List Char)}

/-- The query is started and ends in time, with these lines of output. How it ends does not
matter. -/
def Answers (c : Client) (h : Host) (directory : Path) (arguments lines : List (List Char)) :
    Prop :=
  ∃ run response, h.start c.binary directory arguments = .ok (run, response) ∧
    response.duration < c.timeout ∧ Consists response.output lines

theorem Answers.unique {lines lines' : List (List Char)}
    (hl : c.Answers h directory arguments lines) (hl' : c.Answers h directory arguments lines') :
    lines = lines' := by
  obtain ⟨_, _, hstart, -, hlines⟩ := hl
  obtain ⟨_, _, hstart', -, hlines'⟩ := hl'
  rw [hstart] at hstart'
  obtain ⟨rfl, rfl⟩ := Prod.mk.inj (Except.ok.inj hstart')
  rw [← consists_iff.1 hlines, consists_iff.1 hlines']

/-- A query that counts has a process. -/
theorem Answers.arguments_started {lines : List (List Char)}
    (hl : c.Answers h directory arguments lines) :
    (h.started c.binary directory arguments).map Run.arguments = [arguments] := by
  obtain ⟨run, response, hstart, -, -⟩ := hl
  rw [Host.started, hstart]
  show [run.arguments] = _
  rw [(Host.directory_of_start hstart).2]

/-- The processes that a query leaves behind. -/
theorem runs_query {σ : Type} (l : Listener σ) (s : σ) :
    (c.query h directory arguments l s).2.2.runs = h.started c.binary directory arguments := by
  rw [query, Host.started]
  cases h.start c.binary directory arguments <;> rfl

/-- **A query that counts** is completed, and its listener heard all lines. -/
theorem query_of_answers {σ : Type} {lines : List (List Char)}
    (hl : c.Answers h directory arguments lines) (l : Listener σ) (s : σ) :
    ∃ ending, (c.query h directory arguments l s).1 = .completed ending ∧
      (c.query h directory arguments l s).2.1 = listen l s lines := by
  obtain ⟨run, response, hstart, htime, hlines⟩ := hl
  refine ⟨response.ending, ?_, ?_⟩
  · simp only [query, hstart, htime, decide_true, if_true]
  · simp only [query, hstart, htime, decide_true, consists_iff.1 hlines]

/-- A query that does not count is not completed. -/
theorem query_of_not_answers {σ : Type} (hl : ∀ lines, ¬c.Answers h directory arguments lines)
    (l : Listener σ) (s : σ) (ending : Ending) :
    (c.query h directory arguments l s).1 ≠ .completed ending := by
  cases hstart : h.start c.binary directory arguments with
  | error fault =>
    simp only [query, hstart]
    rintro ⟨⟩
  | ok started =>
    obtain ⟨run, response⟩ := started
    -- it was started, so it can only have taken too long
    have htime : ¬response.duration < c.timeout := fun htime =>
      hl _ ⟨run, response, hstart, htime, consists_iff.2 rfl⟩
    simp only [query, hstart, htime, decide_false]
    rintro ⟨⟩

/-! ## Answers -/

/-- The log query tells a commit: its first line that reads as one. -/
def TellsCommit (c : Client) (h : Host) (directory : Path) (hash : CommitHash) (time : Timestamp) :
    Prop :=
  ∃ before line after, c.Answers h directory logArguments (before ++ line :: after) ∧
    (∀ l ∈ before, LogLine.parse? l = none) ∧ LogLine.parse? line = some (hash, time)

/-- The status query tells that there are changes: one of its lines is not blank. -/
def TellsChanges (c : Client) (h : Host) (directory : Path) : Prop :=
  ∃ lines, c.Answers h directory statusArguments lines ∧
    ∃ line ∈ lines, ∃ ch ∈ line, isBlank ch = false

theorem tellsCommit_iff {lines : List (List Char)} {hash : CommitHash} {time : Timestamp}
    (hl : c.Answers h directory logArguments lines) :
    c.TellsCommit h directory hash time
      ↔ lines.findSome? LogLine.parse? = some (hash, time) := by
  rw [List.findSome?_eq_some_iff]
  constructor
  · rintro ⟨before, line, after, hl', hbefore, hline⟩
    exact ⟨before, line, after, hl.unique hl', hline, hbefore⟩
  · rintro ⟨before, line, after, rfl, hline, hbefore⟩
    exact ⟨before, line, after, hl, hbefore, hline⟩

theorem tellsChanges_iff {lines : List (List Char)}
    (hl : c.Answers h directory statusArguments lines) :
    c.TellsChanges h directory ↔ (lines.any fun line => !line.all isBlank) = true := by
  simp only [List.any_eq_true, Bool.not_eq_true', List.all_eq_false, Bool.not_eq_true]
  constructor
  · rintro ⟨lines', hl', hline⟩
    rwa [hl.unique hl']
  · intro hline
    exact ⟨lines, hl, hline⟩

theorem TellsCommit.exists_lines {hash : CommitHash} {time : Timestamp}
    (ht : c.TellsCommit h directory hash time) :
    ∃ lines, c.Answers h directory logArguments lines ∧
      lines.findSome? LogLine.parse? = some (hash, time) := by
  have hcommit := ht
  obtain ⟨_, _, _, hl, -⟩ := hcommit
  exact ⟨_, hl, (tellsCommit_iff hl).1 ht⟩

/-- There is one first line. -/
theorem TellsCommit.unique {hash hash' : CommitHash} {time time' : Timestamp}
    (ht : c.TellsCommit h directory hash time) (ht' : c.TellsCommit h directory hash' time') :
    hash = hash' ∧ time = time' := by
  obtain ⟨lines, hl, hfirst⟩ := ht.exists_lines
  rw [(tellsCommit_iff hl).1 ht'] at hfirst
  obtain ⟨rfl, rfl⟩ := Prod.mk.inj (Option.some.inj hfirst)
  exact ⟨rfl, rfl⟩

/-- No commit is told if no line of the log query in time reads as one. -/
theorem not_tellsCommit_iff :
    (∀ hash time, ¬c.TellsCommit h directory hash time) ↔
      ∀ lines, c.Answers h directory logArguments lines →
        ∀ line ∈ lines, LogLine.parse? line = none := by
  constructor
  · intro hnone lines hl
    rw [← List.findSome?_eq_none_iff]
    cases hfirst : lines.findSome? LogLine.parse? with
    | none => rfl
    | some commit => exact absurd ((tellsCommit_iff hl).2 hfirst) (hnone commit.1 commit.2)
  · rintro hnone hash time ⟨before, line, after, hl, -, hline⟩
    have hmem : line ∈ before ++ line :: after := by simp
    rw [hnone _ hl line hmem] at hline
    exact absurd hline (by simp)

/-- Whether a tree counts as dirty after the status query: not if that was not completed. -/
def knownDirty (outcome : Outcome) (dirty : Bool) : Bool :=
  match outcome with
  | .completed _ => dirty
  | _ => false

theorem knownDirty_eq_true_iff :
    knownDirty (c.query h directory statusArguments dirtyListener false).1
      (c.query h directory statusArguments dirtyListener false).2.1 = true
        ↔ c.TellsChanges h directory := by
  by_cases hl : ∃ lines, c.Answers h directory statusArguments lines
  · obtain ⟨lines, hl⟩ := hl
    obtain ⟨ending, hend, hheard⟩ := query_of_answers hl dirtyListener false
    rw [hend, hheard, listen_dirtyListener, knownDirty, tellsChanges_iff hl]
  · have hnot : ∀ lines, ¬c.Answers h directory statusArguments lines :=
      fun lines hl' => hl ⟨lines, hl'⟩
    constructor
    · intro hdirty
      exfalso
      cases hend : (c.query h directory statusArguments dirtyListener false).1 with
      | completed ending => exact query_of_not_answers hnot _ _ ending hend
      | timedOut =>
        rw [hend] at hdirty
        exact absurd hdirty (by simp [knownDirty])
      | failed fault =>
        rw [hend] at hdirty
        exact absurd hdirty (by simp [knownDirty])
    · rintro ⟨lines, hl', -⟩
      exact absurd hl' (hnot lines)

/-- A commit that is told is the answer, and the tree is asked for as well. -/
theorem revision_of_tellsCommit {hash : CommitHash} {time : Timestamp}
    (ht : c.TellsCommit h directory hash time) :
    ∃ dirty : Bool, (dirty = true ↔ c.TellsChanges h directory) ∧
      c.revision h directory = (.ok ⟨hash, time, dirty⟩,
        (c.query h directory logArguments commitListener none).2.2 ++
          (c.query h directory statusArguments dirtyListener false).2.2) := by
  refine ⟨_, knownDirty_eq_true_iff, ?_⟩
  obtain ⟨lines, hl, hfirst⟩ := ht.exists_lines
  obtain ⟨ending, hend, hheard⟩ := query_of_answers hl commitListener none
  rw [listen_commitListener, hfirst] at hheard
  simp only [revision, hend, hheard]
  rfl

/-- Without one there is no answer, and the tree is not asked for. -/
theorem revision_of_not_tellsCommit (hnone : ∀ hash time, ¬c.TellsCommit h directory hash time) :
    c.revision h directory = (.error (.noCommit directory),
      (c.query h directory logArguments commitListener none).2.2) := by
  rw [revision]
  cases hquery : c.query h directory logArguments commitListener none with
  | mk outcome known =>
    obtain ⟨commit, asked⟩ := known
    match outcome, commit, hquery with
    | .completed ending, some (hash, time), hquery =>
      -- a completed query was heard to its end, so what the listener knows was told
      exfalso
      by_cases hl : ∃ lines, c.Answers h directory logArguments lines
      · obtain ⟨lines, hl⟩ := hl
        obtain ⟨_, -, hheard⟩ := query_of_answers hl commitListener none
        rw [hquery, listen_commitListener] at hheard
        exact hnone hash time ((tellsCommit_iff hl).2 hheard.symm)
      · refine query_of_not_answers (fun lines hl' => hl ⟨lines, hl'⟩) commitListener none ending ?_
        rw [hquery]
    | .completed _, none, _ => rfl
    | .timedOut, _, _ => rfl
    | .failed _, _, _ => rfl

/-- What a look-up does, in its two cases. -/
theorem revision_cases (c : Client) (h : Host) (directory : Path) :
    (∃ hash time dirty, c.TellsCommit h directory hash time ∧
        (dirty = true ↔ c.TellsChanges h directory) ∧
        c.revision h directory = (.ok ⟨hash, time, dirty⟩,
          (c.query h directory logArguments commitListener none).2.2 ++
            (c.query h directory statusArguments dirtyListener false).2.2)) ∨
      ((∀ hash time, ¬c.TellsCommit h directory hash time) ∧
        c.revision h directory = (.error (.noCommit directory),
          (c.query h directory logArguments commitListener none).2.2)) := by
  by_cases ht : ∃ hash time, c.TellsCommit h directory hash time
  · obtain ⟨hash, time, ht⟩ := ht
    obtain ⟨dirty, hdirty, hrevision⟩ := revision_of_tellsCommit ht
    exact .inl ⟨hash, time, dirty, ht, hdirty, hrevision⟩
  · have hnone : ∀ hash time, ¬c.TellsCommit h directory hash time :=
      fun hash time ht' => ht ⟨hash, time, ht'⟩
    exact .inr ⟨hnone, revision_of_not_tellsCommit hnone⟩

/-- The processes of a look-up: the log query's, and the status query's if a commit was told. -/
theorem runs_revision (c : Client) (h : Host) (directory : Path) :
    (c.revision h directory).2.runs
      = h.started c.binary directory logArguments ++
        (match (c.revision h directory).1 with
          | .ok _ => h.started c.binary directory statusArguments
          | .error _ => []) := by
  rcases revision_cases c h directory with ⟨_, _, _, -, -, hrevision⟩ | ⟨-, hrevision⟩
  · rw [hrevision]
    show (c.query h directory logArguments commitListener none).2.2.runs ++
      (c.query h directory statusArguments dirtyListener false).2.2.runs = _
    rw [runs_query, runs_query]
  · rw [hrevision]
    show (c.query h directory logArguments commitListener none).2.2.runs = _
    rw [runs_query, List.append_nil]

theorem directory_of_mem_runs {run : Run} (hrun : run ∈ (c.revision h directory).2.runs) :
    h.files.directory h.workdir directory = .ok run.directory := by
  rw [runs_revision, List.mem_append] at hrun
  rcases hrun with hrun | hrun
  · exact (Host.directory_of_mem_started hrun).1
  · split at hrun
    · exact (Host.directory_of_mem_started hrun).1
    · exact absurd hrun List.not_mem_nil

/-- The processes are none, the log query's, or both. -/
theorem arguments_runs (c : Client) (h : Host) (directory : Path) :
    (c.revision h directory).2.runs.map Run.arguments = [] ∨
      (c.revision h directory).2.runs.map Run.arguments = [logArguments] ∨
      (c.revision h directory).2.runs.map Run.arguments = [logArguments, statusArguments] := by
  rw [runs_revision, List.map_append]
  rcases revision_cases c h directory with ⟨_, _, _, ht, -, hrevision⟩ | ⟨-, hrevision⟩
  · -- a log query that tells a commit was started
    obtain ⟨lines, hl, -⟩ := ht.exists_lines
    rw [hrevision, hl.arguments_started]
    rcases h.arguments_started c.binary directory statusArguments with hstatus | hstatus
    · rw [hstatus]
      exact .inr (.inl rfl)
    · rw [hstatus]
      exact .inr (.inr rfl)
  · rw [hrevision, List.map_nil, List.append_nil]
    rcases h.arguments_started c.binary directory logArguments with hlog | hlog
    · exact .inl hlog
    · exact .inr (.inl hlog)

/-- **What the queries tell is the answer.** A revision comes from the first line of the log query
that reads as a commit, if that query ends in time; the status query is asked only then, and its
failure is no error. -/
theorem revision_iff (c : Client) (h : Host) (directory : Path) :
    (∀ r, (c.revision h directory).1 = .ok r ↔
        c.TellsCommit h directory r.hash r.time ∧
          (r.dirty = true ↔ c.TellsChanges h directory)) ∧
      (∀ e, (c.revision h directory).1 = .error e ↔
        e = .noCommit directory ∧ ∀ lines, c.Answers h directory logArguments lines →
          ∀ line ∈ lines, LogLine.parse? line = none) ∧
      (c.revision h directory).2.runs
        = h.started c.binary directory logArguments ++
          (match (c.revision h directory).1 with
            | .ok _ => h.started c.binary directory statusArguments
            | .error _ => []) ∧
      ((c.revision h directory).2.runs.map Run.arguments = [] ∨
        (c.revision h directory).2.runs.map Run.arguments = [logArguments] ∨
        (c.revision h directory).2.runs.map Run.arguments = [logArguments, statusArguments]) ∧
      ∀ run ∈ (c.revision h directory).2.runs,
        h.files.directory h.workdir directory = .ok run.directory := by
  refine ⟨fun r => ?_, fun e => ?_, runs_revision c h directory, arguments_runs c h directory,
    fun run hrun => directory_of_mem_runs hrun⟩
  · rcases revision_cases c h directory with
      ⟨hash, time, dirty, ht, hdirty, hrevision⟩ | ⟨hnone, hrevision⟩
    · rw [hrevision, Except.ok.injEq, ← hdirty, ← Bool.eq_iff_iff]
      constructor
      · rintro rfl
        exact ⟨ht, rfl⟩
      · rintro ⟨ht', hsame⟩
        obtain ⟨hhash, htime⟩ := ht.unique ht'
        rw [hhash, htime, ← hsame]
    · rw [hrevision]
      constructor
      · rintro ⟨⟩
      · rintro ⟨ht, -⟩
        exact absurd ht (hnone r.hash r.time)
  · rw [← not_tellsCommit_iff]
    rcases revision_cases c h directory with
      ⟨hash, time, dirty, ht, -, hrevision⟩ | ⟨hnone, hrevision⟩
    · rw [hrevision]
      constructor
      · rintro ⟨⟩
      · rintro ⟨-, hnone⟩
        exact absurd ht (hnone hash time)
    · rw [hrevision, Except.error.injEq]
      constructor
      · rintro rfl
        exact ⟨rfl, hnone⟩
      · rintro ⟨rfl, -⟩
        rfl

end Client

/-! ## Look-ups -/

namespace Lookup

variable {l : Lookup} {h : Host} {directory : Path} {ignoreMissing quiet : Bool} {r : Revision}
  {e : NoRevision}

/-- A revision that is used was found, or stands for one that was not. -/
theorem revision_eq_ok_iff :
    (l.revision h directory ignoreMissing).1 = .ok r ↔
      (l.found h directory ignoreMissing).1 = .ok r ∨
        ignoreMissing = true ∧ (∃ e, (l.found h directory ignoreMissing).1 = .error e) ∧
          r = .sentinel h.now := by
  rw [revision]
  cases hfound : l.found h directory ignoreMissing with
  | mk result trace =>
    cases result with
    | ok found => simp
    | error e => cases ignoreMissing <;> simp [eq_comm]

theorem revision_eq_error_iff :
    (l.revision h directory ignoreMissing).1 = .error e ↔
      ignoreMissing = false ∧ (l.found h directory ignoreMissing).1 = .error e := by
  rw [revision]
  cases hfound : l.found h directory ignoreMissing with
  | mk result trace =>
    cases result with
    | ok found => simp
    | error e => cases ignoreMissing <;> simp

/-- To ignore that a revision is missing leaves nothing else behind. -/
theorem trace_revision (l : Lookup) (h : Host) (directory : Path) (ignoreMissing : Bool) :
    (l.revision h directory ignoreMissing).2 = (l.found h directory ignoreMissing).2 := by
  rw [revision]
  cases hfound : l.found h directory ignoreMissing with
  | mk result trace => cases result <;> rfl

theorem arguments_runs (l : Lookup) (h : Host) (directory : Path) (quiet : Bool) :
    (l.found h directory quiet).2.runs.map Run.arguments = [] ∨
      (l.found h directory quiet).2.runs.map Run.arguments = [logArguments] ∨
      (l.found h directory quiet).2.runs.map Run.arguments = [logArguments, statusArguments] := by
  rw [found]
  cases l.search.find? h with
  | none => exact .inl rfl
  | some binary => exact Client.arguments_runs _ h directory

theorem directory_of_mem_runs {run : Run} (hrun : run ∈ (l.found h directory quiet).2.runs) :
    h.files.directory h.workdir directory = .ok run.directory := by
  rw [found] at hrun
  split at hrun
  · exact absurd hrun List.not_mem_nil
  · exact Client.directory_of_mem_runs hrun

end Lookup

end Vcs

end CommitStamp
