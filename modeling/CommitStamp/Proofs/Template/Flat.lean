import CommitStamp.Proofs.Template.Composition
/-!
# Rendering twice

What is rendered once may be rendered again, with another revision. `not_mem_expand` says that
rendering brings in no new character but those of hashes, dates and numbers. `expand_expand` says
that nothing is left to expand in a *flat* template, one that opens no group in another: it is a
composition of plain text and single groups (`exists_composition`), and what it renders to is a
composition of plain text and groups that no directive recognises.

Templates with nested braces can leave a group for the second time, so flatness is needed.
-/

namespace CommitStamp.Template

open Text

variable {r : Revision} {s : List Char}

/-! ## The characters of rendered text -/

theorem mem_substitute {d : Directive} {c : Char} (hc : c ∈ substitute (d.expand? r) s) :
    c ∈ s ∨ isStampChar c = true := by
  induction s using scan_induction (d.expand? r) with
  | nil =>
    rw [substitute_nil] at hc
    exact .inl hc
  | group body t rest hb ht ih =>
    rw [substitute_group hb ht, List.mem_append] at hc
    simp only [List.mem_cons, List.mem_append]
    rcases hc with hc | hc
    · rcases d.expand?_stampChars_or_suffix ht with hstamp | hsuffix
      · exact .inr (hstamp c hc)
      · exact .inl (.inr (.inl (hsuffix.mem hc)))
    · exact (ih hc).imp_left fun h => .inr (.inr (.inr h))
  | copy c' s hskip ih =>
    rw [substitute_cons hskip, List.mem_cons] at hc
    rw [List.mem_cons]
    rcases hc with hc | hc
    · exact .inl (.inl hc)
    · exact (ih hc).imp_left .inr

theorem mem_expandBy {ds : List Directive} {c : Char} (hc : c ∈ expandBy r ds s) :
    c ∈ s ∨ isStampChar c = true := by
  induction ds generalizing s with
  | nil => exact .inl hc
  | cons d ds ih =>
    rcases ih hc with hc | hc
    · exact mem_substitute hc
    · exact .inr hc

/-- Rendering brings in no character but those of hashes, dates and numbers. -/
theorem not_mem_expand {c : Char} (hc : isStampChar c = false) (hs : c ∉ s) :
    c ∉ expand r s := by
  intro hmem
  rcases mem_expandBy hmem with h | h
  · exact hs h
  · exact absurd (hc.symm.trans h) (by decide)

/-! ## Flat templates -/

/-- Any two opening braces have a closing one between them. -/
def Flat (s : List Char) : Prop :=
  ∀ x y z, s = x ++ '{' :: y ++ '{' :: z → '}' ∈ y

/-- A closing brace comes before the next opening one, if there is any. -/
def closesFirst : List Char → Bool
  | [] => true
  | c :: s => c = '}' || (c ≠ '{' && closesFirst s)

/-- Every opening brace has a closing one before the next. -/
def isFlat : List Char → Bool
  | [] => true
  | c :: s => (c ≠ '{' || closesFirst s) && isFlat s

theorem closesFirst_iff : closesFirst s = true ↔ ∀ y z, s = y ++ '{' :: z → '}' ∈ y := by
  induction s with
  | nil => simp [closesFirst]
  | cons c s ih =>
    rw [closesFirst, Bool.or_eq_true, Bool.and_eq_true, decide_eq_true_eq, decide_eq_true_eq, ih]
    constructor
    · intro h y z hs
      cases y with
      | nil =>
        obtain ⟨rfl, -⟩ := List.cons.inj hs
        exact absurd h (by simp)
      | cons d y =>
        obtain ⟨rfl, hrest⟩ := List.cons.inj hs
        rw [List.mem_cons]
        exact h.imp Eq.symm fun h => h.2 y z hrest
    · intro h
      by_cases hc : c = '}'
      · exact .inl hc
      refine .inr ⟨?_, fun y z hs => ?_⟩
      · rintro rfl
        exact absurd (h [] s rfl) List.not_mem_nil
      · exact (List.mem_cons.1 (h (c :: y) z (by rw [hs]; rfl))).resolve_left (Ne.symm hc)

theorem flat_cons_iff {c : Char} :
    Flat (c :: s) ↔ (c = '{' → ∀ y z, s = y ++ '{' :: z → '}' ∈ y) ∧ Flat s := by
  constructor
  · intro h
    refine ⟨?_, fun x y z hs => h (c :: x) y z (by rw [hs]; rfl)⟩
    rintro rfl y z rfl
    exact h [] y z rfl
  · rintro ⟨hc, hs⟩ x y z h
    cases x with
    | nil =>
      obtain ⟨rfl, hrest⟩ := List.cons.inj h
      exact hc rfl y z hrest
    | cons d x => exact hs x y z (List.cons.inj h).2

theorem isFlat_iff : isFlat s = true ↔ Flat s := by
  induction s with
  | nil => simp [isFlat, Flat]
  | cons c s ih =>
    rw [isFlat, flat_cons_iff, Bool.and_eq_true, Bool.or_eq_true, decide_eq_true_eq, ih,
      closesFirst_iff, ← Decidable.imp_iff_not_or]

instance : DecidablePred Flat := fun _ => decidable_of_iff _ isFlat_iff

theorem Flat.right {t : List Char} (h : Flat (s ++ t)) : Flat t := by
  intro x y z ht
  refine h (s ++ x) y z ?_
  rw [ht, List.append_assoc, List.append_assoc, List.append_assoc]

/-- The body of a group in a flat template has no braces. -/
theorem Flat.not_mem_body {body rest : List Char} (h : Flat ('{' :: (body ++ rest)))
    (hb : '}' ∉ body) : '{' ∉ body := by
  intro hmem
  obtain ⟨y, z, rfl⟩ := List.append_of_mem hmem
  refine hb (List.mem_append_left _ (h [] y (z ++ rest) ?_))
  rw [List.append_assoc]
  rfl

theorem Composition.text_cons (p : Piece) (pieces : List Piece) (unclosed? : Option BraceFree) :
    Composition.text ⟨p :: pieces, unclosed?⟩ = p.text ++ Composition.text ⟨pieces, unclosed?⟩ :=
  List.append_assoc p.text (pieces.flatMap Piece.text) _

/-- A flat template is a composition. -/
theorem Flat.exists_composition (h : Flat s) : ∃ c : Composition, c.text = s := by
  -- by the first opening brace and the first closing one after it
  induction hn : s.length using Nat.strongRecOn generalizing s with
  | ind n ih =>
    subst hn
    cases hopen : cutAt '{' s with
    | none =>
      have hs : '{' ∉ s := cutAt_eq_none_iff.1 hopen
      exact ⟨⟨[.plain s hs], none⟩, by simp [Composition.text, Composition.ending, Piece.text]⟩
    | some cut =>
      obtain ⟨plain, rest⟩ := cut
      obtain ⟨rfl, hplain⟩ := cutAt_eq_some_iff.1 hopen
      have hgroup : Flat ('{' :: rest) := h.right
      rcases exists_cut_or_not_mem rest with ⟨body, rest, rfl, hb⟩ | hrest
      · -- the group closes, and what follows it is shorter
        have hrest : Flat rest := by
          refine Flat.right (s := '{' :: (body ++ ['}'])) ?_
          rwa [List.cons_append, List.append_assoc]
        obtain ⟨c, hc⟩ := ih rest.length (by simp; omega) hrest rfl
        obtain ⟨p, hp⟩ := Piece.exists_text_eq_group ⟨body, hgroup.not_mem_body hb, hb⟩
        refine ⟨⟨.plain plain hplain :: p :: c.pieces, c.unclosed?⟩, ?_⟩
        rw [Composition.text_cons, Composition.text_cons, hp, hc]
        simp [Piece.text, group]
      · -- the group stays open, so no other one opens after it
        have hself : Flat ('{' :: (rest ++ [])) := by rwa [List.append_nil]
        have hbody : '{' ∉ rest := hself.not_mem_body hrest
        refine ⟨⟨[.plain plain hplain], some ⟨rest, hbody, hrest⟩⟩, ?_⟩
        simp [Composition.text, Composition.ending, Piece.text]

/-! ## Settled compositions -/

namespace Piece

/-- What the piece stands for is a piece that stands for itself. -/
theorem exists_settled (r : Revision) (p : Piece) :
    ∃ q : Piece, q.text = p.meaning r ∧ ∀ r', q.meaning r' = p.meaning r := by
  cases p with
  | plain s hs => exact ⟨plain s hs, rfl, fun _ => rfl⟩
  | directive w => exact ⟨plain (w.meaning r) (w.not_mem_meaning (.inl rfl) r), rfl, fun _ => rfl⟩
  | unrecognised body hne => exact ⟨unrecognised body hne, rfl, fun _ => rfl⟩
  | conditional parts =>
    have hopen : '{' ∉ meaning r (conditional parts) := by
      rw [meaning]
      split
      · exact not_mem_parts_meaning (.inl rfl) parts
      · exact List.not_mem_nil
    exact ⟨plain _ hopen, rfl, fun _ => rfl⟩

end Piece

/-- What a composition means is a composition that means itself. -/
theorem Composition.exists_settled (r : Revision) (c : Composition) :
    ∃ d : Composition, d.text = c.meaning r ∧ ∀ r', d.meaning r' = c.meaning r := by
  obtain ⟨pieces, unclosed?⟩ := c
  have hpieces : ∃ qs : List Piece, qs.flatMap Piece.text = pieces.flatMap (Piece.meaning r) ∧
      ∀ r', qs.flatMap (Piece.meaning r') = pieces.flatMap (Piece.meaning r) := by
    induction pieces with
    | nil => exact ⟨[], rfl, fun _ => rfl⟩
    | cons p pieces ih =>
      obtain ⟨qs, htext, hmeaning⟩ := ih
      obtain ⟨q, hq, hq'⟩ := p.exists_settled r
      refine ⟨q :: qs, ?_, fun r' => ?_⟩
      · rw [List.flatMap_cons, List.flatMap_cons, hq, htext]
      · rw [List.flatMap_cons, List.flatMap_cons, hq', hmeaning]
  obtain ⟨qs, htext, hmeaning⟩ := hpieces
  refine ⟨⟨qs, unclosed?⟩, congrArg (· ++ _) htext, fun r' => congrArg (· ++ _) (hmeaning r')⟩

/-- Nothing is left to expand in what a composition renders to. -/
theorem Composition.expand_expand_text (i j : Revision) (c : Composition) :
    expand j (expand i c.text) = expand i c.text := by
  obtain ⟨d, htext, hmeaning⟩ := c.exists_settled i
  rw [c.expand_text, ← htext, d.expand_text, hmeaning j, htext]

/-- **Flat templates are expanded once and for all.** -/
theorem Flat.expand_expand (h : Flat s) (i j : Revision) :
    expand j (expand i s) = expand i s := by
  obtain ⟨c, rfl⟩ := h.exists_composition
  exact c.expand_expand_text i j

end CommitStamp.Template
