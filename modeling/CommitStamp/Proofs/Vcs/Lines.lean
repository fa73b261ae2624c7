import CommitStamp.Vcs.Query
import Mathlib.Data.List.DropRight
import Mathlib.Data.List.Forall2
/-!
# The lines of an output

There is one way to cut an output into lines (`Consists`): at its newlines, where what follows the
last of them is a line unless it is empty, and without the carriage returns at the end of a line.
The lines that are handed to a listener are these (`consists_iff`).
-/

namespace CommitStamp.Vcs

open Text

/-- Bytes are cut into pieces: each ends before a newline, and the last may also end with the bytes,
unless it is empty. -/
inductive CutsInto : Bytes → List Bytes → Prop
  | nil : CutsInto [] []
  | last {piece : Bytes} (ne_nil : piece ≠ []) (no_newline : 10 ∉ piece) : CutsInto piece [piece]
  | cons {piece rest : Bytes} {pieces : List Bytes} (no_newline : 10 ∉ piece)
      (cuts : CutsInto rest pieces) : CutsInto (piece ++ 10 :: rest) (piece :: pieces)

/-- A piece holds a line: it reads as that line and some carriage returns, and the line does not end
with one. -/
structure Holds (piece : Bytes) (line : List Char) : Prop where
  text : ∃ n, Encoding.utf8.decode piece = line ++ List.replicate n '\r'
  no_return : line.getLast? ≠ some '\r'

/-- The output consists of these lines. -/
def Consists (output : Bytes) (lines : List (List Char)) : Prop :=
  ∃ pieces, CutsInto output pieces ∧ List.Forall₂ Holds pieces lines

variable {piece output : Bytes} {pieces : List Bytes} {line : List Char}
  {lines : List (List Char)}

theorem segments_of_no_newline (hne : piece ≠ []) (hn : 10 ∉ piece) :
    segments piece true = [piece] := by
  simp only [segments, splitAt_of_not_mem hn, List.getLast?_singleton]
  exact if_pos ⟨trivial, hne⟩

/-- The first piece ends before the first newline. -/
theorem segments_append_cons (hn : 10 ∉ piece) (rest : Bytes) :
    segments (piece ++ 10 :: rest) true = piece :: segments rest true := by
  rw [segments, segments, splitAt_append_cons hn]
  cases hrest : splitAt 10 rest with
  | nil => exact absurd hrest (splitAt_ne_nil 10 rest)
  | cons first others =>
    rw [List.getLast?_cons_cons]
    split
    · next last hlast =>
      split
      · rfl
      · rfl
    · next hnone => exact absurd hnone (by simp)

theorem CutsInto.segments_eq (h : CutsInto output pieces) : segments output true = pieces := by
  induction h with
  | nil => rfl
  | last hne hn => exact segments_of_no_newline hne hn
  | cons hn _ ih => rw [segments_append_cons hn, ih]

/-- The pieces that are handed on are those of the cut. -/
theorem cutsInto_segments (output : Bytes) : CutsInto output (segments output true) := by
  by_cases hn : 10 ∈ output
  · obtain ⟨piece, rest, houtput, hpiece⟩ := List.eq_append_cons_of_mem hn
    have hshorter : rest.length < output.length := by
      rw [houtput, List.length_append, List.length_cons]
      omega
    rw [houtput, segments_append_cons hpiece]
    exact .cons hpiece (cutsInto_segments rest)
  · by_cases hne : output = []
    · subst hne
      exact .nil
    · rw [segments_of_no_newline hne hn]
      exact .last hne hn
termination_by output.length

theorem trimReturns_append_replicate (hline : line.getLast? ≠ some '\r') (n : Nat) :
    trimReturns (line ++ List.replicate n '\r') = line := by
  show (line ++ List.replicate n '\r').rdropWhile (· = '\r') = line
  induction n with
  | zero =>
    rw [List.replicate_zero, List.append_nil, List.rdropWhile_eq_self_iff]
    intro hne hlast
    exact hline (List.getLast?_eq_some_getLast hne ▸ congrArg some (of_decide_eq_true hlast))
  | succ n ih =>
    rw [List.replicate_succ', ← List.append_assoc, List.rdropWhile_concat_pos _ _ _ rfl, ih]

theorem holds_trimReturns (piece : Bytes) :
    Holds piece (trimReturns (Encoding.utf8.decode piece)) := by
  let text := Encoding.utf8.decode piece
  refine ⟨⟨(text.rtakeWhile (· = '\r')).length, ?_⟩, ?_⟩
  · have hreturns : text.rtakeWhile (· = '\r')
        = List.replicate (text.rtakeWhile (· = '\r')).length '\r' :=
      List.eq_replicate_of_mem fun c hc =>
        of_decide_eq_true (List.mem_rtakeWhile_imp (p := (· = '\r')) hc)
    rw [← hreturns]
    exact List.rdropWhile_append_rtakeWhile.symm
  · intro hlast
    have hne : text.rdropWhile (· = '\r') ≠ [] := by
      obtain ⟨before, hbefore⟩ := List.getLast?_eq_some_iff.1 hlast
      exact fun hnil => absurd (hbefore.symm.trans hnil) (by simp)
    have hreturn : (text.rdropWhile (· = '\r')).getLast hne = '\r' :=
      List.getLast_of_getLast?_eq_some hlast
    exact List.rdropWhile_last_not _ _ hne (decide_eq_true hreturn)

theorem holds_iff : Holds piece line ↔ trimReturns (Encoding.utf8.decode piece) = line := by
  constructor
  · rintro ⟨⟨n, htext⟩, hline⟩
    rw [htext, trimReturns_append_replicate hline]
  · rintro rfl
    exact holds_trimReturns piece

/-- **The lines of an output** are the lines that it consists of, and no others. -/
theorem consists_iff : Consists output lines ↔ outputLines output true = lines := by
  have hholds : Holds = fun piece line => trimReturns (Encoding.utf8.decode piece) = line :=
    funext₂ fun _ _ => propext holds_iff
  have hlines : ∀ pieces, List.Forall₂ Holds pieces lines ↔
      pieces.map (fun piece => trimReturns (Encoding.utf8.decode piece)) = lines := by
    intro pieces
    rw [← List.forall₂_eq_eq_eq, List.forall₂_map_left_iff, hholds]
  constructor
  · rintro ⟨pieces, hcuts, hall⟩
    rw [outputLines, hcuts.segments_eq, (hlines pieces).1 hall]
  · rintro houtput
    exact ⟨_, cutsInto_segments output, (hlines _).2 houtput⟩

end CommitStamp.Vcs
