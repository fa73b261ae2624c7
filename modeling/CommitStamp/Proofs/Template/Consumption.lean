import CommitStamp.Proofs.Template.Composition
/-!
# What rendering uses up

In any template, however its braces are nested, rendering changes nothing but by replacing
directives, and each directive that is replaced takes its opening brace with it. So the number of
opening braces tells whether there was a directive at all: `render_consumes`.

## Shape of the proof

A substitution that recognises no group of a text leaves it alone
(`substitute_of_not_recognises`); any other one leaves fewer opening braces
(`count_substitute_lt`), because an expansion opens no more groups than the body that it stands
for. Of several substitutions, the first that recognises a group still sees the text as it was. A
directive that this one destroys need not be looked at: a brace is gone already.
-/

namespace CommitStamp.Template

open Text

variable {f : List Char → Option (List Char)} {r : Revision} {d : Directive} {ds : List Directive}
  {s body : List Char}

/-! ## One substitution -/

/-- Some group of the text is recognised. -/
def Recognises (f : List Char → Option (List Char)) (s : List Char) : Prop :=
  ∃ body t, '}' ∉ body ∧ f body = some t ∧ group body <:+: s

theorem Recognises.cons (c : Char) (h : Recognises f s) : Recognises f (c :: s) := by
  obtain ⟨body, t, hb, ht, hin⟩ := h
  exact ⟨body, t, hb, ht, List.infix_cons hin⟩

theorem group_append (body rest : List Char) :
    group body ++ rest = '{' :: (body ++ '}' :: rest) := by
  rw [group, List.cons_append, List.append_assoc, List.singleton_append]

/-- A text without a recognised group stays as it is. -/
theorem substitute_of_not_recognises (h : ¬Recognises f s) : substitute f s = s := by
  induction s using scan_induction f with
  | nil => exact substitute_nil
  | group body t rest hb ht ih =>
    exfalso
    apply h
    exact ⟨body, t, hb, ht, [], rest, group_append body rest⟩
  | copy c s hskip ih =>
    have htail : ¬Recognises f s := fun htail => h (htail.cons c)
    rw [substitute_cons hskip, ih htail]

theorem count_group_append (body rest : List Char) :
    ('{' :: (body ++ '}' :: rest)).count '{' = body.count '{' + rest.count '{' + 1 := by
  simp

/-- A substitution opens no more groups than there were. -/
theorem count_substitute_le (hf : OpensNoMore f) (s : List Char) :
    (substitute f s).count '{' ≤ s.count '{' := by
  induction s using scan_induction f with
  | nil => exact Nat.le_of_eq (by rw [substitute_nil])
  | group body t rest hb ht ih =>
    have hcount : t.count '{' ≤ body.count '{' := hf body t hb ht
    rw [substitute_group hb ht, List.count_append, count_group_append]
    omega
  | copy c s hskip ih =>
    rw [substitute_cons hskip, List.count_cons, List.count_cons]
    omega

/-- **A recognised group costs a brace.** -/
theorem count_substitute_lt (hf : OpensNoMore f) (h : Recognises f s) :
    (substitute f s).count '{' < s.count '{' := by
  induction s using scan_induction f with
  | nil =>
    obtain ⟨body, t, -, -, hin⟩ := h
    exact absurd (List.infix_nil.1 hin) (by simp [group])
  | group body t rest hb ht ih =>
    have hcount : t.count '{' ≤ body.count '{' := hf body t hb ht
    have hrest : (substitute f rest).count '{' ≤ rest.count '{' := count_substitute_le hf rest
    rw [substitute_group hb ht, List.count_append, count_group_append]
    omega
  | copy c s hskip ih =>
    obtain ⟨body, t, hb, ht, before, after, hin⟩ := h
    have htail : Recognises f s := by
      cases before with
      | nil =>
        -- the group would start with the character that is copied
        rw [List.nil_append, group_append] at hin
        obtain ⟨hc, hs⟩ := List.cons.inj hin
        have hnone : f body = none := hskip hc.symm body after hs.symm hb
        rw [hnone] at ht
        exact absurd ht (by simp)
      | cons _ before =>
        exact ⟨body, t, hb, ht, before, after, (List.cons.inj hin).2⟩
    rw [substitute_cons hskip, List.count_cons, List.count_cons]
    exact Nat.add_lt_add_right (ih htail) _

/-! ## Several substitutions -/

theorem count_expandBy_le (r : Revision) (ds : List Directive) (s : List Char) :
    (expandBy r ds s).count '{' ≤ s.count '{' := by
  induction ds generalizing s with
  | nil => exact Nat.le_refl _
  | cons d ds ih =>
    rw [expandBy_cons]
    exact Nat.le_trans (ih _) (count_substitute_le (d.opensNoMore r) s)

theorem expandBy_of_not_recognises (h : ∀ d ∈ ds, ¬Recognises (d.expand? r) s) :
    expandBy r ds s = s := by
  induction ds with
  | nil => rfl
  | cons d ds ih =>
    rw [expandBy_cons, substitute_of_not_recognises (h d List.mem_cons_self)]
    exact ih fun e he => h e (List.mem_cons_of_mem d he)

theorem count_expandBy_lt (hd : d ∈ ds) (h : Recognises (d.expand? r) s) :
    (expandBy r ds s).count '{' < s.count '{' := by
  induction ds with
  | nil => exact absurd hd List.not_mem_nil
  | cons e ds ih =>
    rw [expandBy_cons]
    by_cases he : Recognises (e.expand? r) s
    · exact Nat.lt_of_le_of_lt (count_expandBy_le r ds _) (count_substitute_lt (e.opensNoMore r) he)
    · -- nothing has happened yet, so the group is still there
      have hne : d ≠ e := by
        intro hde
        exact he (hde ▸ h)
      rw [substitute_of_not_recognises he]
      exact ih ((List.mem_cons.1 hd).resolve_left hne)

/-! ## Directives in a text -/

/-- The text is a directive. Between the braces of one for dirty trees other groups may open. -/
inductive IsDirective : List Char → Prop
  | fixed (token : FixedToken) : IsDirective (group token.body)
  | dirtyText {text : List Char} (no_closing : '}' ∉ text) :
      IsDirective (group (['!', ':'] ++ text))
  | hashPrefix {n : Nat} (hn : 5 ≤ n ∧ n ≤ hashLength) :
      IsDirective (group ("commit:".toList ++ Nat.toDigits 10 n))
  | minutes (year : DigitRun 4 4) : IsDirective (group ("xmin:".toList ++ year.digits))
  | paddedMinutes (year : DigitRun 4 4) (width : DigitRun 1 2) :
      IsDirective (group ("xmin:".toList ++ (year.digits ++ ':' :: width.digits)))

theorem isDirective_group (w : WrittenDirective) : IsDirective (group w.body) := by
  cases w with
  | fixed token => exact .fixed token
  | dirtyText text => exact .dirtyText text.no_closing
  | hashPrefix n hn => exact .hashPrefix hn
  | minutes year => exact .minutes year
  | paddedMinutes year width => exact .paddedMinutes year width

theorem isDirective_of_expand? {t : List Char} (hb : '}' ∉ body) (ht : d.expand? r body = some t) :
    IsDirective (group body) := by
  rcases Directive.expand?_cases ht with ⟨w, -, rfl, -⟩ | ⟨-, text, rfl, -⟩
  · exact isDirective_group w
  · exact .dirtyText fun hmem => hb (List.mem_append_right _ hmem)

/-- Every directive is recognised, whatever the revision is. -/
theorem IsDirective.exists_expand? {x : List Char} (h : IsDirective x) (r : Revision) :
    ∃ d ∈ Directive.order, ∃ body t, '}' ∉ body ∧ d.expand? r body = some t ∧ x = group body := by
  have hwritten : ∀ w : WrittenDirective, ∃ d ∈ Directive.order, ∃ body t, '}' ∉ body ∧
      d.expand? r body = some t ∧ group w.body = group body := fun w =>
    ⟨w.directive, w.directive_mem_order, w.body, w.meaning r, w.not_mem_body (.inr rfl),
      w.expand?_body r, rfl⟩
  cases h with
  | fixed token => exact hwritten (.fixed token)
  | hashPrefix hn => exact hwritten (.hashPrefix _ hn)
  | minutes year => exact hwritten (.minutes year)
  | paddedMinutes year width => exact hwritten (.paddedMinutes year width)
  | @dirtyText text hc =>
    refine ⟨.dirtyText, by simp [Directive.order], ['!', ':'] ++ text, _, ?_, rfl, rfl⟩
    simpa using hc

/-- The directives of a text are the groups that some substitution recognises. -/
theorem exists_recognises_iff (r : Revision) (s : List Char) :
    (∃ d ∈ Directive.order, Recognises (d.expand? r) s) ↔ ∃ x, IsDirective x ∧ x <:+: s := by
  constructor
  · intro ⟨d, _, body, t, hb, ht, hin⟩
    exact ⟨group body, isDirective_of_expand? hb ht, hin⟩
  · intro ⟨x, hx, hin⟩
    obtain ⟨d, hd, body, t, hb, ht, rfl⟩ := hx.exists_expand? r
    exact ⟨d, hd, body, t, hb, ht, hin⟩

/-! ## Rendering -/

theorem expand_of_no_directive (h : ∀ x, IsDirective x → ¬x <:+: s) : expand r s = s := by
  apply expandBy_of_not_recognises
  intro d hd hrec
  obtain ⟨x, hx, hin⟩ := (exists_recognises_iff r s).1 ⟨d, hd, hrec⟩
  exact h x hx hin

theorem count_expand_lt {x : List Char} (hx : IsDirective x) (hin : x <:+: s) :
    (expand r s).count '{' < s.count '{' := by
  obtain ⟨d, hd, hrec⟩ := (exists_recognises_iff r s).2 ⟨x, hx, hin⟩
  exact count_expandBy_lt hd hrec

/-- **Rendering uses up braces with directives only.** There are never more opening braces than
before, and just as many if and only if the template holds no directive; these templates, and no
others, are rendered to themselves. -/
theorem render_consumes (template : String) (r : Revision) :
    (render template r).toList.count '{' ≤ template.toList.count '{' ∧
      ((render template r).toList.count '{' = template.toList.count '{' ↔
        ∀ x, IsDirective x → ¬x <:+: template.toList) ∧
      (render template r = template ↔ ∀ x, IsDirective x → ¬x <:+: template.toList) := by
  have hrender : (render template r).toList = expand r template.toList := String.toList_ofList
  have hcount : (render template r).toList.count '{' = template.toList.count '{' →
      ∀ x, IsDirective x → ¬x <:+: template.toList := by
    intro heq x hx hin
    rw [hrender] at heq
    exact absurd heq (Nat.ne_of_lt (count_expand_lt hx hin))
  have hsame : (∀ x, IsDirective x → ¬x <:+: template.toList) → render template r = template := by
    intro hnone
    rw [← String.toList_inj, hrender]
    exact expand_of_no_directive hnone
  refine ⟨?_, ⟨hcount, ?_⟩, ⟨?_, hsame⟩⟩
  · rw [hrender]
    exact count_expandBy_le r Directive.order _
  · intro hnone
    rw [hsame hnone]
  · intro heq
    apply hcount
    rw [heq]

end CommitStamp.Template
