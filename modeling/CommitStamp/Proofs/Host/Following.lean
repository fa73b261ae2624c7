import CommitStamp.Host.FileTree
/-!
# Following a path

`FileTree.follow` goes from name to name and counts the symbolic links on its way. `Leads` has one
rule for each thing that may happen there: the names are over, a name leads to a place, or it leads
through a symbolic link, whose names come before the rest then. `follow_eq_ok_iff` says that the two
agree, so what a change of the tree does to paths is shown along `Leads`, rule by rule.
-/

namespace CommitStamp

open Text

theorem bind_eq_ok_iff {ε α β : Type} {x : Except ε α} {f : α → Except ε β} {b : β} :
    x >>= f = .ok b ↔ ∃ a, x = .ok a ∧ f a = .ok b := by
  cases x with
  | error e => simp [bind, Except.bind]
  | ok a => simp [bind, Except.bind]

theorem bind_eq_error_iff {ε α β : Type} {x : Except ε α} {f : α → Except ε β} {e : ε} :
    x >>= f = .error e ↔ x = .error e ∨ ∃ a, x = .ok a ∧ f a = .error e := by
  cases x with
  | error e => simp [bind, Except.bind]
  | ok a => simp [bind, Except.bind]

theorem throw_ne_ok {ε α : Type} {e : ε} {a : α} : (throw e : Except ε α) ≠ .ok a := by
  rintro ⟨⟩

namespace FileTree

variable {t t' : FileTree} {purpose : Purpose} {links : Nat} {workdir here place start : Place}
  {name : List Char} {names rest : List (List Char)} {way : Way} {d : Directory} {last : Bool}
  {p : Path}

/-! ## Rules -/

/-- Names lead from one place to another through at most so many symbolic links. -/
inductive Leads (t : FileTree) (purpose : Purpose) :
    Nat → Place → List (List Char) → Place → Prop where
  | arrive (links : Nat) (here : Place) : Leads t purpose links here [] here
  | straight {links : Nat} {here next place : Place} {name : List Char} {names : List (List Char)}
      (hstep : t.step purpose here name names = .ok (.straight next))
      (honward : Leads t purpose links next names place) :
      Leads t purpose links here (name :: names) place
  | through {links : Nat} {here start place : Place} {name : List Char}
      {names more : List (List Char)}
      (hstep : t.step purpose here name names = .ok (.through start more))
      (honward : Leads t purpose links start (more ++ names) place) :
      Leads t purpose (links + 1) here (name :: names) place

theorem follow_nil (t : FileTree) (purpose : Purpose) (links : Nat) (here : Place) :
    t.follow purpose links here [] = .ok here := by
  cases links <;> rfl

theorem leads_of_follow {links : Nat} {start : Place} {names : List (List Char)}
    (h : t.follow purpose links start names = .ok place) :
    t.Leads purpose links start names place := by
  match links, names with
  | links, [] =>
    rw [follow_nil] at h
    exact Except.ok.inj h ▸ .arrive links start
  | 0, name :: names =>
    obtain ⟨way, hstep, h⟩ := bind_eq_ok_iff.1 h
    cases way with
    | straight next =>
      have honward : t.follow purpose 0 next names = .ok place := h
      exact .straight hstep (leads_of_follow honward)
    | through start more => exact absurd h (by simp)
  | links + 1, name :: names =>
    obtain ⟨way, hstep, h⟩ := bind_eq_ok_iff.1 h
    cases way with
    | straight next =>
      have honward : t.follow purpose (links + 1) next names = .ok place := h
      exact .straight hstep (leads_of_follow honward)
    | through start more => exact .through hstep (leads_of_follow h)
termination_by (links, names.length)

theorem Leads.follow_eq (h : t.Leads purpose links start names place) :
    t.follow purpose links start names = .ok place := by
  induction h with
  | arrive links here => exact t.follow_nil purpose links here
  | @straight links here next place name names hstep _ ih =>
    cases links <;> exact bind_eq_ok_iff.2 ⟨_, hstep, ih⟩
  | through hstep _ ih => exact bind_eq_ok_iff.2 ⟨_, hstep, ih⟩

/-- **Following names** comes to the place that they lead to. -/
theorem follow_eq_ok_iff :
    t.follow purpose links start names = .ok place ↔ t.Leads purpose links start names place :=
  ⟨leads_of_follow, Leads.follow_eq⟩

theorem find_eq_ok_iff :
    t.find workdir p = .ok place ↔ ∃ start names, origin workdir p = .ok (start, names) ∧
      t.Leads .existing linkLimit start names place := by
  simp only [find, bind_eq_ok_iff, follow_eq_ok_iff, Prod.exists]

/-! ## Single steps -/

/-- Where a name of a directory leads: through a symbolic link, to the file that has another name
here, to what stands under the name, or to a file that is still to be written. -/
inductive LooksUp (t : FileTree) (purpose : Purpose) (here : Place) (d : Directory)
    (name : List Char) (last : Bool) : Way → Prop where
  | symbolic {target : Path} {start : Place} {names : List (List Char)}
      (hentry : t.get? (here ++ [name]) = some (.link (.symbolic target)))
      (horigin : origin here target = .ok (start, names)) :
      LooksUp t purpose here d name last (.through start names)
  | hard {home : Place} {f : File} (hentry : t.get? (here ++ [name]) = some (.link (.hard home)))
      (hhome : t.get? home = some (.file f)) : LooksUp t purpose here d name last (.straight home)
  | present {e : Entry} (hentry : t.get? (here ++ [name]) = some e) (he : ∀ l, e ≠ .link l) :
      LooksUp t purpose here d name last (.straight (here ++ [name]))
  | new (hentry : t.get? (here ++ [name]) = none) (hpurpose : purpose = .writing)
      (hlast : last = true) (hwritable : d.writable = true) :
      LooksUp t purpose here d name last (.straight (here ++ [name]))

theorem lookUp_eq_ok_iff :
    t.lookUp purpose here d name last = .ok way ↔ t.LooksUp purpose here d name last way := by
  constructor
  · intro h
    unfold lookUp at h
    split at h
    · next target hentry =>
      obtain ⟨⟨start, names⟩, horigin, h⟩ := bind_eq_ok_iff.1 h
      exact Except.ok.inj h ▸ .symbolic hentry horigin
    · next home hentry =>
      split at h
      · next f hhome => exact Except.ok.inj h ▸ .hard hentry hhome
      · exact absurd h (by simp)
    · next e hsymbolic hhard hentry =>
      refine Except.ok.inj h ▸ .present hentry ?_
      rintro (target | home) rfl
      · exact hsymbolic target rfl
      · exact hhard home rfl
    · next hentry =>
      split at h
      · exact absurd h (by simp)
      next hnew =>
      rw [not_or, Decidable.not_not] at hnew
      split at h
      · next hwritable =>
        refine Except.ok.inj h ▸ .new hentry ?_ hnew.2 hwritable
        cases purpose with
        | existing => exact absurd rfl hnew.1
        | writing => rfl
      · exact absurd h (by simp)
  · intro h
    cases h with
    | symbolic hentry horigin =>
      simp only [lookUp, hentry, horigin]
      rfl
    | hard hentry hhome => simp only [lookUp, hentry, hhome]
    | @present e hentry he =>
      cases e with
      | directory d => simp only [lookUp, hentry]
      | file f => simp only [lookUp, hentry]
      | link l => exact absurd rfl (he l)
    | new hentry hpurpose hlast hwritable =>
      simp [lookUp, hentry, hpurpose, hlast, hwritable]

/-- A step starts at a directory. -/
theorem exists_directory_of_step (h : t.step purpose here name rest = .ok way) :
    ∃ d, t.get? here = some (.directory d) := by
  unfold step at h
  split at h
  · next d hdir => exact ⟨d, hdir⟩
  · exact absurd h (by simp)
  · exact absurd h (by simp)
  · exact absurd h (by simp)

/-- A step to what exists goes the way of another step, if it starts at the same directory and its
name leads the same way. -/
theorem step_of_step (h : t.step purpose here name rest = .ok way)
    (hhere : t'.get? here = t.get? here)
    (hname : ∀ d, t.LooksUp purpose here d name rest.isEmpty way →
      t'.LooksUp .existing here d name rest.isEmpty way) :
    t'.step .existing here name rest = .ok way := by
  obtain ⟨d, hdir⟩ := exists_directory_of_step h
  simp only [step, hdir] at h
  simp only [step, hhere.trans hdir]
  split at h
  · next hnil => rwa [if_pos hnil]
  next hnil =>
  rw [if_neg hnil]
  split at h
  · exact absurd h (by simp)
  next hsearchable =>
  rw [if_neg hsearchable]
  split at h
  · next hdot => rwa [if_pos hdot]
  next hdot =>
  rw [if_neg hdot]
  split at h
  · next hup => rwa [if_pos hup]
  next hup =>
  rw [if_neg hup, if_neg (by simp)]
  split at h
  · exact absurd h (by simp)
  split at h
  · exact absurd h (by simp)
  next hlength =>
  rw [if_neg hlength]
  exact lookUp_eq_ok_iff.2 (hname d (lookUp_eq_ok_iff.1 h))

/-- No name leads on from what is no directory. -/
theorem Leads.eq_of_not_directory (h : t.Leads purpose links here names place)
    (hhere : ∀ d, t.get? here ≠ some (.directory d)) : place = here := by
  cases h with
  | arrive => rfl
  | straight hstep =>
    obtain ⟨d, hdir⟩ := exists_directory_of_step hstep
    exact absurd hdir (hhere d)
  | through hstep =>
    obtain ⟨d, hdir⟩ := exists_directory_of_step hstep
    exact absurd hdir (hhere d)

end FileTree

end CommitStamp
