import Mathlib.Tactic.SplitIfs
import CommitStamp.Host.Basic
import CommitStamp.Proofs.Host.Following
/-!
# Where a path leads

A path leads to a regular file, to a directory or nowhere (`Host.hasFile_iff`), and what stands at
each place of the tree decides it. Trees with the same entries lead to the same places by the same
paths (`SameEntries.find_eq`), although a directory lists its names in the order that its entries
were made in, the latest first (`sameEntries_put_put`).
-/

namespace CommitStamp

/-- A path leads to a regular file. -/
def Host.LeadsToFile (h : Host) (p : Path) : Prop :=
  ∃ place f, h.files.find h.workdir p = .ok place ∧ h.files.get? place = some (.file f)

namespace Host

variable {h : Host} {p : Path}

/-- Where a path is said to lead to a file, it leads there. -/
theorem hasFile_iff : h.hasFile p = true ↔ h.LeadsToFile p := by
  unfold hasFile FileTree.hasFile FileTree.entry? LeadsToFile
  cases hplace : h.files.find h.workdir p with
  | error fault => simp
  | ok place =>
    cases hentry : h.files.get? place with
    | none => simp [hentry]
    | some e => cases e <;> simp [hentry]

theorem not_leadsToFile_of_hasDirectory (hp : h.files.hasDirectory h.workdir p = true) :
    ¬h.LeadsToFile p := by
  rintro ⟨place, f, hplace, hentry⟩
  simp [FileTree.hasDirectory, FileTree.entry?, hplace, hentry] at hp

end Host

namespace FileTree

/-! ## Trees with the same entries -/

/-- Two trees have the same entries, and list the same names in every directory, in whatever
order. -/
structure SameEntries (t t' : FileTree) : Prop where
  get?_eq : ∀ place, t'.get? place = t.get? place
  mem_names_iff : ∀ place name, name ∈ t'.names place ↔ name ∈ t.names place

variable {t t' u v : FileTree} {p q place : Place} {e e' : Entry} {m n name : List Char}

theorem mem_names_withChild :
    name ∈ (t.withChild n u).names [] ↔
      if name = n then (listed? [] u).isSome = true else name ∈ t.names [] := by
  obtain ⟨top?, children⟩ := t
  by_cases h : name = n <;> simp [withChild, names, FileTree.children, h, List.mem_cons]

/-- Children with different names may be put in place in either order. -/
theorem mem_names_withChild_comm (hmn : m ≠ n) :
    name ∈ ((t.withChild m u).withChild n v).names place ↔
      name ∈ ((t.withChild n v).withChild m u).names place := by
  cases place with
  | nil =>
    simp only [mem_names_withChild]
    split_ifs with hn hm
    · exact absurd (hm.symm.trans hn) hmn
    all_goals exact .rfl
  | cons k place =>
    simp only [names, child_withChild]
    split_ifs with hn hm
    · exact absurd (hm.symm.trans hn) hmn
    all_goals exact .rfl

theorem listed?_put_put (hpq : p ≠ q) :
    listed? place ((t.put p e).put q e') = listed? place ((t.put q e').put p e) := by
  rw [listed?_put, listed?_put, listed?_put, listed?_put]
  split_ifs with h h'
  · exact absurd (h'.symm.trans h) hpq
  all_goals rfl

/-- Two entries may be made one after the other or the other way round: a directory has the same
names. -/
theorem mem_names_put_put (hpq : p ≠ q) :
    name ∈ ((t.put p e).put q e').names place ↔ name ∈ ((t.put q e').put p e).names place := by
  induction p generalizing t q place with
  | nil =>
    cases q with
    | nil => exact absurd rfl hpq
    | cons n q =>
      obtain ⟨top?, children⟩ := t
      exact .rfl
  | cons m p ih =>
    cases q with
    | nil =>
      obtain ⟨top?, children⟩ := t
      exact .rfl
    | cons n q =>
      by_cases hmn : m = n
      · subst hmn
        have h : p ≠ q := fun h => hpq (by rw [h])
        cases place with
        | nil =>
          simp only [put, mem_names_withChild, child_withChild, if_true, listed?_put_put h]
          split_ifs <;> exact .rfl
        | cons k place =>
          simp only [put, names, child_withChild, if_true]
          split_ifs
          · exact ih h
          · exact .rfl
      · simp only [put, child_withChild, if_neg hmn, if_neg (Ne.symm hmn)]
        exact mem_names_withChild_comm hmn

theorem sameEntries_put_put (hpq : p ≠ q) :
    SameEntries ((t.put p e).put q e') ((t.put q e').put p e) where
  get?_eq place := by
    cases place with
    | nil => rw [get?, get?, top, top, listed?_put_put hpq.symm]
    | cons n place => exact listed?_put_put hpq.symm
  mem_names_iff _ _ := mem_names_put_put hpq.symm

namespace SameEntries

theorem step_eq (h : t.SameEntries t') : t'.step = t.step := by
  funext purpose here name rest
  simp only [step, lookUp, h.get?_eq]

theorem walk_eq (h : t.SameEntries t') : t'.walk = t.walk := by
  funext purpose onward here names
  induction names generalizing here with
  | nil => rfl
  | cons name names ih => simp only [walk, h.step_eq, ih]

theorem follow_eq (h : t.SameEntries t') : t'.follow = t.follow := by
  funext purpose links
  induction links with
  | zero => simp only [follow, h.walk_eq]
  | succ links ih => simp only [follow, h.walk_eq, ih]

theorem find_eq (h : t.SameEntries t') : t'.find = t.find := by
  funext workdir path
  simp only [find, h.follow_eq]

theorem entry?_eq (h : t.SameEntries t') : FileTree.entry? t' = FileTree.entry? t := by
  funext workdir path
  simp only [FileTree.entry?, h.find_eq, h.get?_eq]

theorem directoryEntry_eq (h : t.SameEntries t') : t'.directoryEntry = t.directoryEntry := by
  funext workdir path
  simp only [directoryEntry, h.find_eq, h.get?_eq]

/-- A directory lists the same names, if it can be listed. -/
theorem mem_list_iff (h : t.SameEntries t') (workdir : Place) (path : Path) :
    (∃ listed, t'.list workdir path = .ok listed ∧ name ∈ listed) ↔
      ∃ listed, t.list workdir path = .ok listed ∧ name ∈ listed := by
  simp only [list, h.directoryEntry_eq]
  cases t.directoryEntry workdir path with
  | error fault => exact .rfl
  | ok found =>
    obtain ⟨place, d⟩ := found
    cases hlistable : d.listable with
    | false => simp [bind, Except.bind, hlistable, throw_ne_ok]
    | true =>
      simpa [bind, Except.bind, hlistable, pure, Except.pure] using h.mem_names_iff place name

theorem hasFile_eq (h : t.SameEntries t') : t'.hasFile = t.hasFile := by
  funext workdir path
  simp only [hasFile, h.entry?_eq]

theorem hasDirectory_eq (h : t.SameEntries t') : t'.hasDirectory = t.hasDirectory := by
  funext workdir path
  simp only [hasDirectory, h.entry?_eq]

end SameEntries

end FileTree

end CommitStamp
