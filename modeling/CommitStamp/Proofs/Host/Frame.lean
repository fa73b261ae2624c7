import CommitStamp.Proofs.Host.Writing
/-!
# What a write leaves alone

A write changes the file at one place (`exists_wrote`), and a place is where a path leads to, be it
by another name or through a link. A path that does not lead to that place leads to the same content
after the write as before, from whatever directory it is followed (`Wrote.content?_eq`): no way goes
through the file that was written, so it is the end of every way that comes to it.

The path of a place leads to that place (`eq_of_find_path`), unless a name on the way has a meaning
of its own for paths or is a link.
-/

namespace CommitStamp

open Text

/-- A path can lead through these names: none has a slash, and none is a step of another kind. -/
def Place.Proper (p : Place) : Prop :=
  ∀ name ∈ p, '/' ∉ name ∧ Path.isFiller name = false ∧ name ≠ ['.', '.']

namespace FileTree

variable {t t' : FileTree} {links : Nat} {workdir here place start q : Place} {name : List Char}
  {names rest : List (List Char)} {way : Way} {d : Directory} {last : Bool} {f : File} {p : Path}
  {content : Bytes}

/-! ## Ways that a write opens -/

/-- A name that does not lead to the file that was put there led the same way before. -/
theorem LooksUp.of_put (hplace : place ≠ [])
    (h : (t.put place (.file f)).LooksUp .existing here d name last way)
    (hway : way ≠ .straight place) :
    t.LooksUp .existing here d name last way := by
  have hlink : ∀ q l, (t.put place (.file f)).get? q = some (.link l) →
      t.get? q = some (.link l) := by
    intro q l hl
    rw [get?_put hplace] at hl
    split at hl
    · exact absurd hl (by simp)
    · exact hl
  cases h with
  | symbolic hentry horigin => exact .symbolic (hlink _ _ hentry) horigin
  | hard hentry hhome =>
    rw [get?_put hplace, if_neg fun hsame => hway (congrArg Way.straight hsame)] at hhome
    exact .hard (hlink _ _ hentry) hhome
  | present hentry he =>
    rw [get?_put hplace, if_neg fun hsame => hway (congrArg Way.straight hsame)] at hentry
    exact .present hentry he
  | new _ hpurpose => exact absurd hpurpose (by simp)

/-- A way that does not end at the file that was put there could be gone before. -/
theorem Leads.of_put (hplace : place ≠ [])
    (h : (t.put place (.file f)).Leads .existing links here names q) (hq : q ≠ place) :
    t.Leads .existing links here names q := by
  have hstart : ∀ {here d}, (t.put place (.file f)).get? here = some (.directory d) →
      t.get? here = (t.put place (.file f)).get? here := by
    intro here d hdir
    rw [get?_put hplace] at hdir ⊢
    split at hdir
    · exact absurd hdir (by simp)
    · next hne => rw [if_neg hne]
  induction h with
  | arrive links here => exact .arrive links here
  | @straight links here next q name names hstep honward ih =>
    obtain ⟨d, hdir⟩ := exists_directory_of_step hstep
    -- if the step led to the file, no other could come after it
    have hnext : next ≠ place := by
      rintro rfl
      refine hq (honward.eq_of_not_directory fun d => ?_)
      rw [get?_put hplace, if_pos rfl]
      simp
    refine .straight ?_ (ih hq)
    exact step_of_step hstep (hstart hdir) fun d' hlooks =>
      hlooks.of_put hplace fun hway => hnext (Way.straight.inj hway)
  | through hstep honward ih =>
    obtain ⟨d, hdir⟩ := exists_directory_of_step hstep
    refine .through ?_ (ih hq)
    exact step_of_step hstep (hstart hdir) fun d' hlooks => hlooks.of_put hplace (by simp)

/-! ## Contents around a write -/

/-- The tree `t'` is the tree `t` with a file of this content at a place, and nothing else. -/
structure Wrote (t t' : FileTree) (place : Place) (content : Bytes) : Prop where
  content_at : ∃ f, t'.get? place = some (.file f) ∧ f.content = content
  elsewhere : ∀ q, q ≠ place → t'.get? q = t.get? q
  /-- A file that was there keeps what may be done with it. -/
  permissions : ∀ old, t.get? place = some (.file old) →
    t'.get? place = some (.file { old with content, program? := none })
  /-- Every path still leads where it led. -/
  find_of_find : ∀ here p q, t.find here p = .ok q → t'.find here p = .ok q
  /-- The only new paths are those to the file. -/
  find_of_ne : ∀ here p q, q ≠ place → t'.find here p = .ok q → t.find here p = .ok q

/-- **A write** changes what stands at the place that its path leads to. -/
theorem exists_wrote (h : t.write workdir p content = .ok t') :
    ∃ place, t'.find workdir p = .ok place ∧ t.Wrote t' place content := by
  obtain ⟨place, f, htarget, rfl, hcontent, hfile⟩ := write_eq_ok_iff.1 h
  have hplace := takesFile_of_target htarget
  have hput : (t.put place (.file f)).get? place = some (.file f) :=
    (get?_put hplace.ne_nil).trans (if_pos rfl)
  refine ⟨place, find_put_of_target htarget f, ⟨f, hput, hcontent⟩, ?_, ?_, ?_, ?_⟩
  · intro q hq
    exact (get?_put hplace.ne_nil).trans (if_neg hq)
  · intro old hold
    rcases hfile with ⟨hnone, -⟩ | ⟨old', hold', -, rfl⟩
    · exact absurd (hold.symm.trans hnone) (by simp)
    · rw [hold] at hold'
      obtain rfl := Entry.file.inj (Option.some.inj hold')
      exact hput
  · intro here p q hfind
    obtain ⟨start, names, horigin, hleads⟩ := find_eq_ok_iff.1 hfind
    exact find_eq_ok_iff.2 ⟨start, names, horigin, hleads.put hplace fun h => absurd h (by simp)⟩
  · intro here p q hq hfind
    obtain ⟨start, names, horigin, hleads⟩ := find_eq_ok_iff.1 hfind
    exact find_eq_ok_iff.2 ⟨start, names, horigin, hleads.of_put hplace.ne_nil hq⟩

/-- **A path that does not lead to the place of a write** has the same content at its end. -/
theorem Wrote.content?_eq {written : Bytes} (h : t.Wrote t' place written)
    (hp : t'.find here p ≠ .ok place) : t'.content? here p = t.content? here p := by
  apply Option.ext
  intro content
  rw [content?_eq_some_iff, content?_eq_some_iff]
  constructor
  · rintro ⟨q, f, hfind, hfile, hcontent⟩
    have hq : q ≠ place := by
      rintro rfl
      exact hp hfind
    exact ⟨q, f, h.find_of_ne here p q hq hfind, h.elsewhere q hq ▸ hfile, hcontent⟩
  · rintro ⟨q, f, hfind, hfile, hcontent⟩
    have hfind' := h.find_of_find here p q hfind
    have hq : q ≠ place := by
      rintro rfl
      exact hp hfind'
    exact ⟨q, f, hfind', (h.elsewhere q hq).symm ▸ hfile, hcontent⟩

/-- A path that leads to the place of a write has the written content at its end. -/
theorem Wrote.content?_of_find (h : t.Wrote t' place content) (hp : t'.find here p = .ok place) :
    t'.content? here p = some content := by
  obtain ⟨f, hfile, hcontent⟩ := h.content_at
  exact content?_eq_some_iff.2 ⟨place, f, hp, hfile, hcontent⟩

/-! ## The path of a place -/

/-- No link stands at a place or on the way to it. -/
def FreeOfLinks (t : FileTree) (place : Place) : Prop :=
  ∀ q, q <+: place → ∀ l, t.get? q ≠ some (.link l)

/-- A name that is no step of another kind is looked up. -/
theorem looksUp_of_step (hname : Path.isFiller name = false ∧ name ≠ ['.', '.'])
    (h : t.step .existing here name rest = .ok way) :
    ∃ d, t.LooksUp .existing here d name rest.isEmpty way := by
  obtain ⟨hfiller, hup⟩ := hname
  rw [Path.isFiller, Bool.or_eq_false_iff, beq_eq_false_iff_ne, beq_eq_false_iff_ne] at hfiller
  obtain ⟨d, hdir⟩ := exists_directory_of_step h
  simp only [step, hdir, if_neg hfiller.1, if_neg hfiller.2, if_neg hup] at h
  split at h
  · exact absurd h (by simp)
  rw [if_neg (by simp)] at h
  split at h
  · exact absurd h (by simp)
  · exact ⟨d, lookUp_eq_ok_iff.1 h⟩

/-- Proper names lead to the places below the start with these names, if there are no links. -/
theorem Leads.eq_append (h : t.Leads .existing links start names q) (hnames : Place.Proper names)
    (hlinks : ∀ before, before <+: names → ∀ l, t.get? (start ++ before) ≠ some (.link l)) :
    q = start ++ names := by
  induction names generalizing start links with
  | nil =>
    cases h
    rw [List.append_nil]
  | cons name names ih =>
    obtain ⟨hname, hrest⟩ := List.forall_mem_cons.1 hnames
    have hlink : ∀ l, t.get? (start ++ [name]) ≠ some (.link l) :=
      hlinks [name] (List.prefix_append [name] names)
    cases h with
    | @straight _ _ next _ _ _ hstep honward =>
      obtain ⟨d, hlooks⟩ := looksUp_of_step hname.2 hstep
      have hnext : next = start ++ [name] := by
        cases hlooks with
        | hard hentry => exact absurd hentry (hlink _)
        | present => rfl
        | new => rfl
      subst hnext
      rw [ih honward hrest, List.append_assoc]
      · rfl
      · intro before hbefore l
        rw [List.append_assoc]
        exact hlinks _ (List.cons_prefix_cons.2 ⟨rfl, hbefore⟩) l
    | through hstep =>
      obtain ⟨d, hlooks⟩ := looksUp_of_step hname.2 hstep
      cases hlooks with
      | symbolic hentry => exact absurd hentry (hlink _)

/-- A name between two slashes with nothing there leads nowhere else. -/
theorem Leads.of_nil_cons (h : t.Leads .existing links start ([] :: names) q) :
    t.Leads .existing links start names q := by
  cases h with
  | straight hstep honward =>
    obtain ⟨d, hdir⟩ := exists_directory_of_step hstep
    simp only [step, hdir, if_true] at hstep
    rwa [Way.straight.inj (Except.ok.inj hstep)]
  | through hstep =>
    obtain ⟨d, hdir⟩ := exists_directory_of_step hstep
    simp [step, hdir] at hstep

/-- **The path of a place** leads there, if it leads anywhere. -/
theorem eq_of_find_path (hp : place.Proper) (hlinks : t.FreeOfLinks place)
    (h : t.find here place.path = .ok q) : q = place := by
  obtain ⟨start, names, horigin, hleads⟩ := find_eq_ok_iff.1 h
  have hstart : start = [] ∧ names = [] :: splitAt '/' (joinWith '/' place) := by
    rw [origin] at horigin
    split at horigin
    · exact absurd horigin (by simp)
    split at horigin
    · exact absurd horigin (by simp)
    split at horigin
    · exact absurd horigin (by simp)
    · obtain ⟨hstart, hnames⟩ := Prod.mk.inj (Except.ok.inj horigin)
      exact ⟨hstart.symm, hnames.symm⟩
  obtain ⟨rfl, rfl⟩ := hstart
  have hleads := hleads.of_nil_cons
  by_cases hnil : place = []
  · subst hnil
    cases hleads.of_nil_cons
    rfl
  · rw [splitAt_joinWith hnil fun name hname => (hp name hname).1] at hleads
    exact hleads.eq_append hp hlinks

theorem find_of_directory (h : t.directory here p = .ok place) :
    t.find here p = .ok place ∧ ∃ d, t.get? place = some (.directory d) := by
  obtain ⟨⟨q, d⟩, hentry, h⟩ := bind_eq_ok_iff.1 h
  dsimp only at h
  split at h
  case isFalse => exact absurd h throw_ne_ok
  obtain rfl := Except.ok.inj h
  obtain ⟨q', hfind, hentry⟩ := bind_eq_ok_iff.1 hentry
  split at hentry
  · next d' hdir =>
    obtain ⟨rfl, rfl⟩ := Prod.mk.inj (Except.ok.inj hentry)
    exact ⟨hfind, d', hdir⟩
  · exact absurd hentry throw_ne_ok
  · exact absurd hentry throw_ne_ok
  · exact absurd hentry throw_ne_ok

theorem eq_of_directory_path (hp : place.Proper) (hlinks : t.FreeOfLinks place)
    (h : t.directory here place.path = .ok q) : q = place :=
  eq_of_find_path hp hlinks (find_of_directory h).1

end FileTree

end CommitStamp
