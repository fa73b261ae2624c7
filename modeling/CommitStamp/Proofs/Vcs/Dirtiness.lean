import CommitStamp.Proofs.Encoding.Cutting
import CommitStamp.Proofs.Vcs.Listening
import Mathlib.Logic.Relation
/-!
# What makes a tree dirty

The listener for changes looks at one line after the other and stops early. What it finds out is a
property of the output as a whole: that some character in it is no blank (`Shows`). Cutting bytes
before a blank below 0x80 takes nothing else away (`shows_append_cons`), and so nothing that only
moves, repeats or ends lines in another way makes a difference (`shows_iff_of_rearranged`).
-/

namespace CommitStamp.Vcs

open Text

/-! ## Outputs as a whole -/

/-- The output reads as a text with a character that is no blank. -/
def Shows (output : Bytes) : Prop :=
  ∃ ch ∈ Encoding.utf8.decode output, isBlank ch = false

theorem not_shows_nil : ¬Shows [] := by
  rintro ⟨ch, hch, -⟩
  rw [Encoding.decode_utf8, Utf8.items] at hch
  exact absurd hch List.not_mem_nil

/-- A blank below 0x80 may be cut out. -/
theorem shows_append_cons {b : UInt8} (hb : b.toNat < 0x80)
    (hblank : isBlank (Char.ofNat b.toNat) = true) (s t : Bytes) :
    Shows (s ++ b :: t) ↔ Shows s ∨ Shows t := by
  simp only [Shows, Encoding.decode_append_cons hb, List.mem_append, List.mem_cons]
  constructor
  · rintro ⟨ch, hch | rfl | hch, hshown⟩
    · exact .inl ⟨ch, hch, hshown⟩
    · exact absurd hshown (by simp [hblank])
    · exact .inr ⟨ch, hch, hshown⟩
  · rintro (⟨ch, hch, hshown⟩ | ⟨ch, hch, hshown⟩)
    · exact ⟨ch, .inl hch, hshown⟩
    · exact ⟨ch, .inr (.inr hch), hshown⟩

theorem shows_append_newline (s t : Bytes) : Shows (s ++ 10 :: t) ↔ Shows s ∨ Shows t :=
  shows_append_cons (by decide) (by decide) s t

theorem shows_append_return (s t : Bytes) : Shows (s ++ 13 :: t) ↔ Shows s ∨ Shows t :=
  shows_append_cons (by decide) (by decide) s t

theorem shows_joinWith (ls : List Bytes) : Shows (joinWith 10 ls) ↔ ∃ l ∈ ls, Shows l := by
  fun_induction joinWith 10 ls with
  | case1 => simp [not_shows_nil]
  | case2 l => simp
  | case3 l ls hne ih => rw [shows_append_newline, ih, List.exists_mem_cons_iff]

/-! ## Lines -/

theorem CutsInto.shows_iff {output : Bytes} {pieces : List Bytes} (h : CutsInto output pieces) :
    Shows output ↔ ∃ piece ∈ pieces, Shows piece := by
  induction h with
  | nil => simp [not_shows_nil]
  | last hne hn => simp
  | cons hn _ ih => rw [shows_append_newline, ih, List.exists_mem_cons_iff]

/-- The carriage returns at the end of a line are blank. -/
theorem Holds.shows_iff {piece : Bytes} {line : List Char} (h : Holds piece line) :
    Shows piece ↔ ∃ ch ∈ line, isBlank ch = false := by
  obtain ⟨n, htext⟩ := h.text
  rw [Shows, htext]
  constructor
  · rintro ⟨ch, hch, hshown⟩
    rcases List.mem_append.1 hch with hline | hreturn
    · exact ⟨ch, hline, hshown⟩
    · rw [List.eq_of_mem_replicate hreturn] at hshown
      exact absurd hshown (by decide)
  · rintro ⟨ch, hline, hshown⟩
    exact ⟨ch, List.mem_append_left _ hline, hshown⟩

/-- **A line that is not blank** is in the output if the output is not blank. -/
theorem exists_mem_outputLines_iff (output : Bytes) :
    (∃ line ∈ outputLines output true, ∃ ch ∈ line, isBlank ch = false) ↔ Shows output := by
  rw [(cutsInto_segments output).shows_iff, outputLines]
  simp only [List.mem_map, exists_exists_and_eq_and]
  exact exists_congr fun piece => and_congr_right fun _ => (holds_trimReturns piece).shows_iff.symm

/-! ## Other outputs with the same lines -/

/-- One output is another with a change that leaves its lines what they are. -/
inductive Rearranges : Bytes → Bytes → Prop
  /-- The lines come in another order. -/
  | permuted {ls ls' : List Bytes} (perm : ls.Perm ls') :
      Rearranges (joinWith 10 ls) (joinWith 10 ls')
  /-- A line comes twice. -/
  | repeated (l : Bytes) (ls : List Bytes) :
      Rearranges (joinWith 10 (l :: ls)) (joinWith 10 (l :: l :: ls))
  /-- There is a blank line more; an empty one may be nothing but the newline at the end. -/
  | blank {l : Bytes} (all_blank : ∀ ch ∈ Encoding.utf8.decode l, isBlank ch = true)
      (ls : List Bytes) : Rearranges (joinWith 10 ls) (joinWith 10 (l :: ls))
  /-- A line ends with a carriage return and a newline, and not with a newline alone. -/
  | terminated (before after : Bytes) :
      Rearranges (before ++ 10 :: after) (before ++ 13 :: 10 :: after)

theorem Rearranges.shows_iff {output output' : Bytes} (h : Rearranges output output') :
    Shows output ↔ Shows output' := by
  cases h with
  | permuted perm =>
    rw [shows_joinWith, shows_joinWith]
    exact exists_congr fun l => and_congr_left fun _ => perm.mem_iff
  | repeated l ls =>
    simp only [shows_joinWith, List.exists_mem_cons_iff, or_self_left]
  | @blank l hblank ls =>
    have hnot : ¬Shows l := fun ⟨ch, hch, hshown⟩ => absurd hshown (by simp [hblank ch hch])
    simp only [shows_joinWith, List.exists_mem_cons_iff, hnot, false_or]
  | terminated before after =>
    have hreturn := shows_append_return before (10 :: after)
    have hnewline := shows_append_newline [] after
    rw [List.nil_append] at hnewline
    rw [shows_append_newline, hreturn, hnewline]
    simp only [not_shows_nil, false_or]

/-- Any number of such changes, there and back, makes no difference. -/
theorem shows_iff_of_rearranged {output output' : Bytes}
    (h : Relation.EqvGen Rearranges output output') : Shows output ↔ Shows output' := by
  induction h with
  | rel _ _ hstep => exact hstep.shows_iff
  | refl => rfl
  | symm _ _ _ ih => exact ih.symm
  | trans _ _ _ _ _ ih ih' => exact ih.trans ih'

/-! ## The state of a tree -/

namespace Client

variable {c : Client} {h : Host} {directory : Path} {output : Bytes} {hash : CommitHash}
  {time : Timestamp}

/-- The status query is completed in time, however its program ends, and this is its output. -/
def TellsStatus (c : Client) (h : Host) (directory : Path) (output : Bytes) : Prop :=
  ∃ run response, h.start c.binary directory statusArguments = .ok (run, response) ∧
    response.duration < c.timeout ∧ response.output = output

theorem tellsChanges_iff_shows (hstatus : c.TellsStatus h directory output) :
    c.TellsChanges h directory ↔ Shows output := by
  obtain ⟨run, response, hstart, htime, rfl⟩ := hstatus
  have hlines : c.Answers h directory statusArguments (outputLines response.output true) :=
    ⟨run, response, hstart, htime, consists_iff.2 rfl⟩
  rw [← exists_mem_outputLines_iff]
  constructor
  · rintro ⟨lines, hlines', hline⟩
    rwa [hlines.unique hlines']
  · intro hline
    exact ⟨_, hlines, hline⟩

/-- **A tree is dirty if its status is not blank,** taken as a whole. So it is the same tree that two
queries tell whose outputs have the same lines, blank ones apart, in whatever order, however often
and however ended. -/
theorem revision_of_tellsStatus (hcommit : c.TellsCommit h directory hash time)
    (hstatus : c.TellsStatus h directory output) :
    ∃ dirty : Bool,
      (dirty = true ↔ ∃ ch ∈ Encoding.utf8.decode output, isBlank ch = false) ∧
      (c.revision h directory).1 = .ok ⟨hash, time, dirty⟩ ∧
      ∀ (c' : Client) (h' : Host) (directory' : Path) (hash' : CommitHash) (time' : Timestamp)
        (output' : Bytes), c'.TellsCommit h' directory' hash' time' →
        c'.TellsStatus h' directory' output' → Relation.EqvGen Rearranges output output' →
        (c'.revision h' directory').1 = .ok ⟨hash', time', dirty⟩ := by
  obtain ⟨dirty, hdirty, hrevision⟩ := revision_of_tellsCommit hcommit
  rw [tellsChanges_iff_shows hstatus] at hdirty
  refine ⟨dirty, hdirty, by rw [hrevision], ?_⟩
  intro c' h' directory' hash' time' output' hcommit' hstatus' hsame
  obtain ⟨dirty', hdirty', hrevision'⟩ := revision_of_tellsCommit hcommit'
  rw [tellsChanges_iff_shows hstatus', ← shows_iff_of_rearranged hsame, ← hdirty] at hdirty'
  rw [hrevision', Bool.eq_iff_iff.2 hdirty']

/-! ## Every status can be told -/

/-- What the log query tells beside it. -/
def headLine : List Char :=
  "45d4e32f0a1b2c3d4e5f60718293a4b5c6d7e8f9 2011-12-31 14:30:45 +0100".toList

/-- The commit of that line. -/
def head : CommitHash × Timestamp :=
  (LogLine.parse? headLine).get (by decide +kernel)

/-- A program that tells that commit and any status. -/
def tells (status : Bytes) : StandIn where
  log := { output := Encoding.utf8.encode headLine }
  status := { output := status, code := 1 }

theorem tellsStatus_tells (status : Bytes) :
    asking.TellsStatus (hostWith (tells status)) (Path.ofString ".") status :=
  ⟨askingRun statusArguments, (tells status).status.response [], by with_unfolding_all rfl,
    Nat.zero_lt_succ 999, rfl⟩

theorem tellsCommit_tells (status : Bytes) :
    asking.TellsCommit (hostWith (tells status)) (Path.ofString ".") head.1 head.2 := by
  have hlines : Consists (Encoding.utf8.encode headLine) [headLine] :=
    consists_iff.2 (by decide +kernel)
  have hcommit : LogLine.parse? headLine = some (head.1, head.2) := by decide +kernel
  exact ⟨[], headLine, [], ⟨askingRun logArguments, (tells status).log.response [],
    by with_unfolding_all rfl, Nat.zero_lt_succ 999, hlines⟩, by simp, hcommit⟩

/-- Two bytes that would be a blank together are defects on two lines, in either order. -/
theorem revision_of_tellsStatus_defects :
    (asking.revision (hostWith (tells [0xc2, 0x0a, 0xa0])) (Path.ofString ".")).1
        = .ok ⟨head.1, head.2, true⟩ ∧
      (asking.revision (hostWith (tells [0xa0, 0x0d, 0x0a, 0xc2])) (Path.ofString ".")).1
        = .ok ⟨head.1, head.2, true⟩ := by
  have hsame : Relation.EqvGen Rearranges [0xc2, 0x0a, 0xa0] [0xa0, 0x0d, 0x0a, 0xc2] :=
    .trans _ [0xa0, 0x0a, 0xc2] _
      (.rel _ _ (@Rearranges.permuted [[0xc2], [0xa0]] [[0xa0], [0xc2]] (.swap _ _ _)))
      (.rel _ _ (.terminated [0xa0] [0xc2]))
  obtain ⟨dirty, hdirty, hrevision, hother⟩ := revision_of_tellsStatus
    (tellsCommit_tells [0xc2, 0x0a, 0xa0]) (tellsStatus_tells [0xc2, 0x0a, 0xa0])
  have hrevision' := hother _ _ _ _ _ _ (tellsCommit_tells [0xa0, 0x0d, 0x0a, 0xc2])
    (tellsStatus_tells _) hsame
  obtain rfl : dirty = true := hdirty.2 ⟨Encoding.replacement, by decide +kernel, by decide⟩
  exact ⟨hrevision, hrevision'⟩

end Client

end CommitStamp.Vcs
