import CommitStamp.Proofs.Vcs.Location
/-!
# What a listener hears

A listener hears the lines of an output from the first one on, up to the one after which it wants no
more (`IsHeard`). `Client.query_hears` says this of a query that ends in time, together with what
its output consists of. How such a query ends is no matter of the listener.
-/

namespace CommitStamp.Vcs

open Text

/-! ## Listeners -/

/-- What a listener knows after it heard all of these lines. -/
def Listener.after {σ : Type} (l : Listener σ) (s : σ) (lines : List (List Char)) : σ :=
  lines.foldl (fun s line => (l s line).1) s

/-- The listener wants more after it heard these lines and then another one. -/
def Listener.wants {σ : Type} (l : Listener σ) (s : σ) (before : List (List Char))
    (line : List Char) : Bool :=
  (l (l.after s before) line).2

/-- The listener that also keeps a record of the lines it hears. -/
def Listener.recording {σ : Type} (l : Listener σ) : Listener (σ × List (List Char)) :=
  fun s line => (((l s.1 line).1, s.2 ++ [line]), (l s.1 line).2)

/-- Of some lines the listener hears the first ones: it wants more after each but the last of them,
and if there are more lines, it wants none of these. -/
structure IsHeard {σ : Type} (l : Listener σ) (s : σ) (lines heard : List (List Char)) : Prop where
  initial : heard <+: lines
  wants_more : ∀ before line, before ++ [line] <+: heard → before ++ [line] ≠ heard →
    l.wants s before line = true
  wants_no_more : heard ≠ lines →
    ∃ before line, heard = before ++ [line] ∧ l.wants s before line = false

/-- The lines that a listener hears. -/
def heard {σ : Type} (l : Listener σ) (s : σ) : List (List Char) → List (List Char)
  | [] => []
  | line :: lines => line :: if (l s line).2 then heard l (l s line).1 lines else []

section Listeners

variable {σ : Type} {l : Listener σ} {s : σ} {lines : List (List Char)} {line : List Char}

theorem IsHeard.nil : IsHeard l s [] [] where
  initial := List.prefix_rfl
  wants_more before line h := absurd (List.prefix_nil.1 h) (by simp)
  wants_no_more h := absurd rfl h

theorem IsHeard.singleton (hw : (l s line).2 = false) : IsHeard l s (line :: lines) [line] where
  initial := ⟨lines, rfl⟩
  wants_more before other h hne := by
    cases before with
    | nil =>
      obtain ⟨rfl, -⟩ := List.cons_prefix_cons.1 h
      exact absurd rfl hne
    | cons b before =>
      obtain ⟨-, h⟩ := List.cons_prefix_cons.1 h
      exact absurd (List.prefix_nil.1 h) (by simp)
  wants_no_more _ := ⟨[], line, rfl, hw⟩

theorem IsHeard.cons {heard : List (List Char)} (hw : (l s line).2 = true)
    (h : IsHeard l (l s line).1 lines heard) : IsHeard l s (line :: lines) (line :: heard) where
  initial := List.cons_prefix_cons.2 ⟨rfl, h.initial⟩
  wants_more before other hbefore hne := by
    cases before with
    | nil =>
      obtain ⟨rfl, -⟩ := List.cons_prefix_cons.1 hbefore
      exact hw
    | cons b before =>
      obtain ⟨rfl, hrest⟩ := List.cons_prefix_cons.1 hbefore
      exact h.wants_more before other hrest fun heq => hne (by rw [← heq]; rfl)
  wants_no_more hne := by
    obtain ⟨before, other, rfl, hno⟩ := h.wants_no_more fun heq => hne (by rw [heq])
    exact ⟨line :: before, other, rfl, hno⟩

theorem isHeard_heard (l : Listener σ) (s : σ) (lines : List (List Char)) :
    IsHeard l s lines (heard l s lines) := by
  induction lines generalizing s with
  | nil => exact .nil
  | cons line lines ih =>
    rw [heard]
    cases hw : (l s line).2 with
    | true => exact .cons hw (ih _)
    | false => exact .singleton hw

/-- It is settled what a listener hears. -/
theorem IsHeard.eq_of_prefix {heard heard' : List (List Char)} (h : IsHeard l s lines heard)
    (h' : IsHeard l s lines heard') (hinitial : heard <+: heard') : heard = heard' := by
  by_contra hne
  have hshort : heard ≠ lines := by
    rintro rfl
    exact hne (hinitial.eq_of_length_le h'.initial.length_le)
  obtain ⟨before, line, rfl, hno⟩ := h.wants_no_more hshort
  have hmore := h'.wants_more before line hinitial hne
  rw [hno] at hmore
  exact absurd hmore (by decide)

theorem IsHeard.unique {heard heard' : List (List Char)} (h : IsHeard l s lines heard)
    (h' : IsHeard l s lines heard') : heard = heard' := by
  rcases List.prefix_or_prefix_of_prefix h.initial h'.initial with hinitial | hinitial
  · exact h.eq_of_prefix h' hinitial
  · exact (h'.eq_of_prefix h hinitial).symm

/-- What a listener knows in the end comes from the lines that it hears. -/
theorem listen_eq_after (l : Listener σ) (s : σ) (lines : List (List Char)) :
    listen l s lines = l.after s (heard l s lines) := by
  induction lines generalizing s with
  | nil => rfl
  | cons line lines ih =>
    rw [listen, heard, Listener.after, List.foldl_cons]
    cases hline : l s line with
    | mk s' more =>
      cases more with
      | true => exact ih s'
      | false => rfl

theorem heard_recording (l : Listener σ) (s : σ) (calls lines : List (List Char)) :
    heard l.recording (s, calls) lines = heard l s lines := by
  induction lines generalizing s calls with
  | nil => rfl
  | cons line lines ih =>
    rw [heard, heard, Listener.recording, ← ih (l s line).1 (calls ++ [line])]

/-- The record holds the lines in their order. -/
theorem after_recording (l : Listener σ) (s : σ) (calls lines : List (List Char)) :
    l.recording.after (s, calls) lines = (l.after s lines, calls ++ lines) := by
  induction lines generalizing s calls with
  | nil => rw [List.append_nil]; rfl
  | cons line lines ih =>
    rw [Listener.after, List.foldl_cons]
    refine (ih (l s line).1 (calls ++ [line])).trans ?_
    rw [List.append_assoc]
    rfl

end Listeners

/-! ## Queries -/

variable {c : Client} {h : Host} {directory : Path} {arguments : List (List Char)} {run : Run}
  {response : Response}

/-- A query that ends in time hands the lines of its output to the listener. -/
theorem Client.query_of_start (hstart : h.start c.binary directory arguments = .ok (run, response))
    (htime : response.duration < c.timeout) {σ : Type} (l : Listener σ) (s : σ) :
    (c.query h directory arguments l s).1 = .completed response.ending ∧
      (c.query h directory arguments l s).2.1
        = l.after s (heard l s (outputLines response.output true)) := by
  rw [← listen_eq_after]
  constructor
  · simp only [query, hstart, htime, decide_true, if_true]
  · simp only [query, hstart, htime, decide_true]

/-- **A listener hears the lines of the output** up to the first after which it wants no more, each
of them once and in their order, and the query ends as its program does, whatever the listener
wants. -/
theorem Client.query_hears (hstart : h.start c.binary directory arguments = .ok (run, response))
    (htime : response.duration < c.timeout) :
    ∃ lines, Consists response.output lines ∧
      (∀ others, Consists response.output others → others = lines) ∧
      ∀ (σ : Type) (l : Listener σ) (s : σ), ∃ heard, IsHeard l s lines heard ∧
        (∀ others, IsHeard l s lines others → others = heard) ∧
        (c.query h directory arguments l.recording (s, [])).2.1 = (l.after s heard, heard) ∧
        (c.query h directory arguments l s).2.1 = l.after s heard ∧
        (c.query h directory arguments l s).1 = .completed response.ending := by
  refine ⟨outputLines response.output true, consists_iff.2 rfl,
    fun others hothers => (consists_iff.1 hothers).symm, fun σ l s => ?_⟩
  obtain ⟨hend, hafter⟩ := query_of_start hstart htime l s
  have hheard := isHeard_heard l s (outputLines response.output true)
  refine ⟨_, hheard, fun others hothers => hothers.unique hheard, ?_, hafter, hend⟩
  rw [(query_of_start hstart htime l.recording (s, [])).2, heard_recording, after_recording,
    List.nil_append]

/-! ## A program with three lines -/

/-- A host with a program and nothing else. -/
def hostWith (program : StandIn) : Host where
  files := FileTree.empty.put ["git".toList] 
    (.file { content := [], executable := true, program? := some program.program })
  workdir := []
  searchPath? := none
  binary? := none
  now := noon

/-- How the program is asked. -/
def Client.asking : Client where
  binary := Path.ofString "/git"

/-- The process of a query on that host. -/
def askingRun (arguments : List (List Char)) : Run where
  file := ["git".toList]
  directory := []
  arguments := arguments
  executions := [⟨["git".toList], arguments.map Encoding.utf8.encode⟩]

/-- A program whose log has three lines: carriage returns end the first, nothing is on the second,
and the third is a defect without a newline after it. -/
def threeLines : StandIn where
  log := { output := [0x6f, 0x6e, 0x65, 0x0d, 0x0d, 0x0a, 0x0a, 0xff], code := 3 }

/-- A listener that counts the lines and wants no more than two. -/
def twoLines : Listener Nat := fun n _ => (n + 1, decide (n + 1 < 2))

theorem start_threeLines :
    (hostWith threeLines).start Client.asking.binary (Path.ofString ".") logArguments
      = .ok (askingRun logArguments, threeLines.log.response []) := by
  with_unfolding_all rfl

/-- It hears the first two, and the query still ends with the exit code of the program. -/
theorem Client.query_hears_threeLines :
    ∃ lines, Consists threeLines.log.output lines ∧ IsHeard twoLines 0 lines ["one".toList, []] ∧
      (Client.asking.query (hostWith threeLines) (Path.ofString ".") logArguments twoLines 0).1
        = .completed (.exit 3) := by
  obtain ⟨lines, hlines, -, hheard⟩ := Client.query_hears start_threeLines (by decide)
  obtain ⟨heard, hfirst, -, hrecord, -, hend⟩ := hheard Nat twoLines 0
  have hrecorded : (Client.asking.query (hostWith threeLines) (Path.ofString ".") logArguments
      twoLines.recording (0, [])).2.1.2 = ["one".toList, []] := by
    decide +kernel
  rw [hrecord] at hrecorded
  exact ⟨lines, hlines, hrecorded ▸ hfirst, hend⟩

end CommitStamp.Vcs
