import CommitStamp.Proofs.Host.Following
/-!
# Reading what was written

A file is written where a file is or nothing (`takesFile_of_target`). No way through the tree goes
on from such a place, so every way that was there is there after a file was put (`Leads.put`); and
a way that was gone for writing can be gone for reading then, because its last name is no longer
missing. So what was written is found at the same path (`content?_write`), although it need not be
readable there.
-/

namespace CommitStamp

open Text

namespace FileTree

variable {t t' : FileTree} {purpose : Purpose} {links : Nat} {workdir here place start : Place}
  {name : List Char} {names rest : List (List Char)} {way : Way} {d : Directory} {e : Entry}
  {f : File} {last : Bool} {p : Path} {content : Bytes}

/-! ## Ways through a changed tree -/

/-- A file can be put at a place: there is one, or nothing. -/
def TakesFile (t : FileTree) (place : Place) : Prop :=
  t.get? place = none ∨ ∃ f, t.get? place = some (.file f)

theorem TakesFile.ne_nil (h : t.TakesFile place) : place ≠ [] := by
  rintro rfl
  rcases h with h | ⟨f, h⟩ <;> exact absurd h (by simp [get?])

theorem TakesFile.ne_of_directory (h : t.TakesFile place)
    (hhere : t.get? here = some (.directory d)) : here ≠ place := by
  rintro rfl
  rcases h with h | ⟨f, h⟩ <;> exact absurd (h.symm.trans hhere) (by simp)

theorem get?_put_of_directory (hplace : t.TakesFile place)
    (hhere : t.get? here = some (.directory d)) : (t.put place e).get? here = t.get? here := by
  rw [get?_put hplace.ne_nil, if_neg (hplace.ne_of_directory hhere)]

/-- A name leads where it led before a file was put. For a name that was new to have been the way
to that file, it has to be its place. -/
theorem LooksUp.put (h : t.LooksUp purpose here d name last way) (hplace : t.TakesFile place)
    (hnew : purpose = .writing → last = true → way = .straight (here ++ [name]) →
      here ++ [name] = place) :
    (t.put place (.file f)).LooksUp .existing here d name last way := by
  have hput : ∀ q, (t.put place (.file f)).get? q
      = if q = place then some (.file f) else t.get? q := fun q => get?_put hplace.ne_nil
  -- no link stands at the place
  have hlink : ∀ q l, t.get? q = some (.link l) → q ≠ place := by
    rintro q l hl rfl
    rcases hplace with hnone | ⟨f', hfile⟩
    · exact absurd (hl.symm.trans hnone) (by simp)
    · exact absurd (hl.symm.trans hfile) (by simp)
  cases h with
  | symbolic hentry horigin =>
    refine .symbolic ?_ horigin
    rw [hput, if_neg (hlink _ _ hentry), hentry]
  | @hard home f' hentry hhome =>
    have hentry' : (t.put place (.file f)).get? (here ++ [name]) = some (.link (.hard home)) := by
      rw [hput, if_neg (hlink _ _ hentry), hentry]
    by_cases hsame : home = place
    · exact .hard hentry' ((hput home).trans (if_pos hsame))
    · exact .hard hentry' ((hput home).trans ((if_neg hsame).trans hhome))
  | present hentry he =>
    by_cases hsame : here ++ [name] = place
    · exact .present ((hput _).trans (if_pos hsame)) (by simp)
    · exact .present ((hput _).trans ((if_neg hsame).trans hentry)) he
  | new hentry hpurpose hlast _ =>
    exact .present ((hput _).trans (if_pos (hnew hpurpose hlast rfl))) (by simp)

/-- **Every way that there was still is there**, and one that was gone to write a file is a way to
that file. -/
theorem Leads.put {q : Place} (h : t.Leads purpose links here names q) (hplace : t.TakesFile place)
    (hq : purpose = .writing → q = place) :
    (t.put place (.file f)).Leads .existing links here names q := by
  induction h with
  | arrive links here => exact .arrive links here
  | @straight links here next q name names hstep honward ih =>
    obtain ⟨d, hdir⟩ := exists_directory_of_step hstep
    refine .straight ?_ (ih hq)
    apply step_of_step hstep (get?_put_of_directory hplace hdir)
    intro d' hlooks
    refine hlooks.put hplace fun hpurpose hlast hway => ?_
    -- behind the last name there is nothing left to follow
    obtain rfl := List.isEmpty_iff.1 hlast
    cases honward
    rw [← hq hpurpose, Way.straight.inj hway]
  | @through links here start q name names more hstep honward ih =>
    obtain ⟨d, hdir⟩ := exists_directory_of_step hstep
    refine .through ?_ (ih hq)
    apply step_of_step hstep (get?_put_of_directory hplace hdir)
    intro d' hlooks
    exact hlooks.put hplace fun _ _ hway => absurd hway (by simp)

/-! ## Targets -/

theorem takesFile_of_target (h : t.target workdir p = .ok place) : t.TakesFile place := by
  obtain ⟨⟨start, names⟩, -, h⟩ := bind_eq_ok_iff.1 h
  obtain ⟨q, -, h⟩ := bind_eq_ok_iff.1 h
  split at h
  · next f hfile => exact Except.ok.inj h ▸ .inr ⟨f, hfile⟩
  · next hnone => exact Except.ok.inj h ▸ .inl hnone
  · exact absurd h throw_ne_ok
  · exact absurd h throw_ne_ok

/-- A file that was put at the target of a path is found at its end. -/
theorem find_put_of_target (h : t.target workdir p = .ok place) (f : File) :
    (t.put place (.file f)).find workdir p = .ok place := by
  have hplace := takesFile_of_target h
  obtain ⟨⟨start, names⟩, horigin, h⟩ := bind_eq_ok_iff.1 h
  obtain ⟨q, hfollow, h⟩ := bind_eq_ok_iff.1 h
  have hq : q = place := by
    split at h
    · exact Except.ok.inj h
    · exact Except.ok.inj h
    · exact absurd h throw_ne_ok
    · exact absurd h throw_ne_ok
  subst hq
  exact find_eq_ok_iff.2 ⟨start, names, horigin,
    (follow_eq_ok_iff.1 hfollow).put hplace fun _ => rfl⟩

/-- **A write** puts a file with the content at the target of its path. One that was there keeps its
permissions, and it has to allow the write. -/
theorem write_eq_ok_iff :
    t.write workdir p content = .ok t' ↔ ∃ place f, t.target workdir p = .ok place ∧
      t' = t.put place (.file f) ∧ f.content = content ∧
      (t.get? place = none ∧ f = { content } ∨
        ∃ old, t.get? place = some (.file old) ∧ old.writable = true ∧
          f = { old with content, program? := none }) := by
  constructor
  · intro h
    obtain ⟨place, htarget, h⟩ := bind_eq_ok_iff.1 h
    rcases takesFile_of_target htarget with hnone | ⟨old, hfile⟩
    · rw [hnone] at h
      exact ⟨place, _, htarget, (Except.ok.inj h).symm, rfl, .inl ⟨hnone, rfl⟩⟩
    · rw [hfile] at h
      dsimp only at h
      split at h
      · next hwritable =>
        exact ⟨place, _, htarget, (Except.ok.inj h).symm, rfl, .inr ⟨old, hfile, hwritable, rfl⟩⟩
      · exact absurd h throw_ne_ok
  · rintro ⟨place, f, htarget, rfl, -, ⟨hnone, rfl⟩ | ⟨old, hfile, hwritable, rfl⟩⟩
    · refine bind_eq_ok_iff.2 ⟨place, htarget, ?_⟩
      rw [hnone]
      rfl
    · refine bind_eq_ok_iff.2 ⟨place, htarget, ?_⟩
      rw [hfile]
      exact if_pos hwritable

/-! ## Reading -/

theorem content?_eq_some_iff :
    t.content? workdir p = some content ↔ ∃ q f, t.find workdir p = .ok q ∧
      t.get? q = some (.file f) ∧ f.content = content := by
  unfold content? entry?
  cases t.find workdir p with
  | error fault => simp
  | ok q =>
    cases hentry : t.get? q with
    | none => simp [hentry]
    | some e => cases e <;> simp [hentry]

theorem read_eq_ok_iff :
    t.read workdir p = .ok content ↔ ∃ q f, t.find workdir p = .ok q ∧
      t.get? q = some (.file f) ∧ f.readable = true ∧ f.content = content := by
  constructor
  · intro h
    obtain ⟨q, hq, h⟩ := bind_eq_ok_iff.1 h
    split at h
    · next f hfile =>
      split at h
      · next hreadable => exact ⟨q, f, hq, hfile, hreadable, Except.ok.inj h⟩
      · exact absurd h throw_ne_ok
    · exact absurd h throw_ne_ok
    · exact absurd h throw_ne_ok
    · exact absurd h throw_ne_ok
  · rintro ⟨q, f, hq, hfile, hreadable, rfl⟩
    refine bind_eq_ok_iff.2 ⟨q, hq, ?_⟩
    rw [hfile]
    exact if_pos hreadable

/-- What is read is the content of the file. -/
theorem content?_of_read (h : t.read workdir p = .ok content) :
    t.content? workdir p = some content := by
  obtain ⟨q, f, hfind, hfile, -, hcontent⟩ := read_eq_ok_iff.1 h
  exact content?_eq_some_iff.2 ⟨q, f, hfind, hfile, hcontent⟩

/-- **What was written stands** at the end of the same path from the same directory. -/
theorem content?_write (h : t.write workdir p content = .ok t') :
    t'.content? workdir p = some content := by
  obtain ⟨place, f, htarget, rfl, hcontent, -⟩ := write_eq_ok_iff.1 h
  have hplace := (takesFile_of_target htarget).ne_nil
  exact content?_eq_some_iff.2
    ⟨place, f, find_put_of_target htarget f, (get?_put hplace).trans (if_pos rfl), hcontent⟩

end FileTree

end CommitStamp
