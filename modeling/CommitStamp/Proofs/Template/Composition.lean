import CommitStamp.Proofs.Template.Written
/-!
# The meaning of a template

Rendering rewrites the whole text fifteen times. For templates without nesting, and for texts for
dirty trees with fixed tokens in them, one pass from left to right gives the same:
`render_text` says that a `Composition` renders to the meanings of its pieces.

## Shape of the proof

`expandBy` makes any number of substitutions. Each of them takes balanced parts apart
(`substitute_append`) and leaves them balanced, so all of them together do
(`expandBy_append`), and the pieces of a composition may be looked at one by one. A group is copied
until the one directive comes that recognises it, and what that puts in its place has no brace that
a later one could see (`expandBy_group`). In a conditional the fixed tokens come first, which leaves
the group of a text for dirty trees.
-/

namespace CommitStamp.Template

open Text

variable {r : Revision} {ds : List Directive} {s t body : List Char}

/-! ## Several substitutions -/

/-- The substitutions of the given directives, one after the other. -/
def expandBy (r : Revision) (ds : List Directive) (s : List Char) : List Char :=
  ds.foldl (fun text d => substitute (d.expand? r) text) s

theorem expandBy_cons (d : Directive) :
    expandBy r (d :: ds) s = expandBy r ds (substitute (d.expand? r) s) := rfl

theorem expandBy_append_list (ds es : List Directive) :
    expandBy r (ds ++ es) s = expandBy r es (expandBy r ds s) :=
  List.foldl_append

theorem expand_eq_expandBy (r : Revision) (s : List Char) :
    expand r s = expandBy r Directive.order s := rfl

theorem expandBy_of_no_opening (hs : '{' ∉ s) : expandBy r ds s = s := by
  induction ds with
  | nil => rfl
  | cons d ds ih => rw [expandBy_cons, substitute_of_no_opening hs, ih]

theorem expandBy_of_no_closing (hs : '}' ∉ s) : expandBy r ds s = s := by
  induction ds with
  | nil => rfl
  | cons d ds ih => rw [expandBy_cons, substitute_of_no_closing hs, ih]

/-- **Balanced parts are expanded apart.** -/
theorem expandBy_append (hs : Balanced s) (t : List Char) :
    expandBy r ds (s ++ t) = expandBy r ds s ++ expandBy r ds t := by
  induction ds generalizing s t with
  | nil => rfl
  | cons d ds ih =>
    rw [expandBy_cons, substitute_append hs, ih (hs.substitute (d.opensNoMore r))]
    rfl

/-! ## Groups -/

/-- A body in braces. -/
def group (body : List Char) : List Char :=
  '{' :: (body ++ ['}'])

/-- A group whose body has no brace is replaced as a whole or not at all. -/
theorem substitute_group_eq {f : List Char → Option (List Char)} (ho : '{' ∉ body)
    (hc : '}' ∉ body) : substitute f (group body) = (f body).getD (group body) := by
  cases ht : f body with
  | some t =>
    rw [group, substitute_group hc ht, substitute_nil, List.append_nil]
    rfl
  | none =>
    have htail : '{' ∉ body ++ ['}'] := by simp [ho]
    rw [group, substitute_cons, substitute_of_no_opening htail]
    · rfl
    · rintro - body' rest hcut hb'
      have heq : cutAt '}' (body ++ ['}']) = some (body', rest) :=
        cutAt_eq_some_iff.2 ⟨hcut, hb'⟩
      rw [cutAt_eq_some_iff.2 ⟨rfl, hc⟩] at heq
      obtain ⟨rfl, -⟩ := Prod.mk.inj (Option.some.inj heq)
      exact ht

/-- A group that none of the directives recognises stays as it is. -/
theorem expandBy_group_of_none (ho : '{' ∉ body) (hc : '}' ∉ body)
    (hnone : ∀ d ∈ ds, d.expand? r body = none) : expandBy r ds (group body) = group body := by
  induction ds with
  | nil => rfl
  | cons d ds ih =>
    rw [expandBy_cons, substitute_group_eq ho hc, hnone d List.mem_cons_self]
    exact ih fun e he => hnone e (List.mem_cons_of_mem d he)

theorem expand?_eq_none_of_ne {w : WrittenDirective} {d : Directive} (hd : w.directive ≠ d) :
    d.expand? r w.body = none := by
  cases ht : d.expand? r w.body with
  | none => rfl
  | some t =>
    have ho := w.not_mem_body (.inl rfl)
    have hc := w.not_mem_body (.inr rfl)
    obtain ⟨v, hv, hbody, -⟩ := (Directive.expand?_eq_some_iff ho hc).1 ht
    rw [WrittenDirective.body_injective hbody] at hv
    exact absurd hv hd

/-- **A directive gives way to its meaning**, whatever substitutions come before and after. -/
theorem expandBy_group {w : WrittenDirective} (hw : w.directive ∈ ds) :
    expandBy r ds (group w.body) = w.meaning r := by
  have ho := w.not_mem_body (.inl rfl)
  have hc := w.not_mem_body (.inr rfl)
  induction ds with
  | nil => exact absurd hw List.not_mem_nil
  | cons d ds ih =>
    rw [expandBy_cons, substitute_group_eq ho hc]
    by_cases hd : w.directive = d
    · -- later directives find no group in the meaning
      rw [← hd, w.expand?_body]
      exact expandBy_of_no_opening (w.not_mem_meaning (.inl rfl) r)
    · rw [expand?_eq_none_of_ne hd]
      exact ih ((List.mem_cons.1 hw).resolve_left hd)

/-! ## Compositions -/

/-- A part of a text for dirty trees. -/
inductive Part where
  | plain (t : BraceFree)
  | token (t : FixedToken)

/-- How the part is written. -/
def Part.text : Part → List Char
  | plain t => t.chars
  | token t => group t.body

/-- What the part stands for. -/
def Part.meaning (r : Revision) : Part → List Char
  | plain t => t.chars
  | token t => t.meaning r

/-- A piece of a template without nesting, apart from fixed tokens in a text for dirty trees. -/
inductive Piece where
  /-- A text that opens no group. -/
  | plain (s : List Char) (no_opening : '{' ∉ s)
  /-- A group that some directive recognises. -/
  | directive (w : WrittenDirective)
  /-- A group that none recognises. -/
  | unrecognised (body : BraceFree) (ne_body : ∀ w : WrittenDirective, w.body ≠ body.chars)
  /-- A text for dirty trees with fixed tokens in it. -/
  | conditional (parts : List Part)

namespace Piece

/-- How the piece is written. -/
def text : Piece → List Char
  | plain s _ => s
  | directive w => group w.body
  | unrecognised body _ => group body.chars
  | conditional parts => group ('!' :: ':' :: parts.flatMap Part.text)

/-- What the piece stands for. -/
def meaning (r : Revision) : Piece → List Char
  | plain s _ => s
  | directive w => w.meaning r
  | unrecognised body _ => group body.chars
  | conditional parts => if r.dirty then parts.flatMap (Part.meaning r) else []

/-- Every group without braces in it is a piece. -/
theorem exists_text_eq_group (body : BraceFree) : ∃ p : Piece, p.text = group body.chars := by
  by_cases h : ∃ w : WrittenDirective, w.body = body.chars
  · obtain ⟨w, hw⟩ := h
    exact ⟨directive w, congrArg group hw⟩
  · exact ⟨unrecognised body fun w hw => h ⟨w, hw⟩, rfl⟩

end Piece

/-- A template in pieces; at its end one more group may open that does not close. -/
structure Composition where
  pieces : List Piece
  unclosed? : Option BraceFree := none

namespace Composition

/-- The end of a template from a brace that does not close. -/
def ending (c : Composition) : List Char :=
  match c.unclosed? with
  | some t => '{' :: t.chars
  | none => []

/-- How the template is written. -/
def text (c : Composition) : List Char :=
  c.pieces.flatMap Piece.text ++ c.ending

/-- The meanings of the pieces, from left to right. -/
def meaning (r : Revision) (c : Composition) : List Char :=
  c.pieces.flatMap (Piece.meaning r) ++ c.ending

end Composition

/-! ## Parts of a text for dirty trees -/

theorem Part.balanced_text (p : Part) : Balanced p.text := by
  cases p with
  | plain t => exact balanced_of_not_mem t.no_opening
  | token t =>
    exact (balanced_of_not_mem ((WrittenDirective.fixed t).not_mem_body (.inl rfl))).inBraces

theorem balanced_flatMap {α : Type} {f : α → List Char} {l : List α}
    (h : ∀ a ∈ l, Balanced (f a)) : Balanced (l.flatMap f) := by
  induction l with
  | nil => rfl
  | cons a l ih =>
    rw [List.flatMap_cons]
    exact (h a List.mem_cons_self).append (ih fun b hb => h b (List.mem_cons_of_mem a hb))

/-- The fixed tokens alone expand the parts. -/
theorem expandBy_parts (r : Revision) (parts : List Part) :
    expandBy r (FixedToken.all.map .fixed) (parts.flatMap Part.text)
      = parts.flatMap (Part.meaning r) := by
  induction parts with
  | nil => exact expandBy_of_no_opening List.not_mem_nil
  | cons p parts ih =>
    rw [List.flatMap_cons, expandBy_append p.balanced_text, ih, List.flatMap_cons]
    congr 1
    cases p with
    | plain t => exact expandBy_of_no_opening t.no_opening
    | token t => exact expandBy_group (w := .fixed t) (List.mem_map_of_mem t.mem_all)

theorem not_mem_parts_meaning {c : Char} (hc : c = '{' ∨ c = '}') (parts : List Part) :
    c ∉ parts.flatMap (Part.meaning r) := by
  rw [List.mem_flatMap]
  rintro ⟨p, -, hp⟩
  cases p with
  | plain t =>
    rcases hc with rfl | rfl
    · exact t.no_opening hp
    · exact t.no_closing hp
  | token t => exact WrittenDirective.not_mem_meaning hc r (.fixed t) hp

/-- A fixed token does not see the braces around a text for dirty trees. -/
theorem substitute_conditional (token : FixedToken) (hs : Balanced s) :
    substitute ((Directive.fixed token).expand? r) (group ('!' :: ':' :: s))
      = group ('!' :: ':' :: substitute ((Directive.fixed token).expand? r) s) := by
  have hskip : ∀ body rest, '!' :: ':' :: (s ++ ['}']) = body ++ '}' :: rest → '}' ∉ body →
      (Directive.fixed token).expand? r body = none := by
    intro body rest hcut _
    -- the body starts like a text for dirty trees, and no fixed token does
    obtain ⟨x, rfl⟩ : ∃ x, body = ['!', ':'] ++ x := by
      match body, hcut with
      | [], h => exact absurd (List.cons.inj h).1 (by decide)
      | [a], h => exact absurd (List.cons.inj (List.cons.inj h).2).1 (by decide)
      | a :: b :: x, h =>
        obtain ⟨ha, h⟩ := List.cons.inj h
        obtain ⟨hb, -⟩ := List.cons.inj h
        exact ⟨x, by rw [← ha, ← hb]; rfl⟩
    exact if_neg fun h => token.body_ne_append (by simp) x h.symm
  have hmark : '!' ≠ '{' := by decide
  have hcolon : ':' ≠ '{' := by decide
  show substitute _ ('{' :: '!' :: ':' :: (s ++ ['}'])) = '{' :: '!' :: ':' :: (_ ++ ['}'])
  rw [substitute_cons fun _ => hskip, substitute_cons fun h => absurd h hmark,
    substitute_cons fun h => absurd h hcolon, substitute_append hs,
    substitute_of_no_opening (s := ['}']) (by decide)]

/-- The fixed tokens go through a text for dirty trees as if it stood alone. -/
theorem expandBy_conditional (tokens : List FixedToken) (hs : Balanced s) :
    expandBy r (tokens.map .fixed) (group ('!' :: ':' :: s))
      = group ('!' :: ':' :: expandBy r (tokens.map .fixed) s) := by
  induction tokens generalizing s with
  | nil => rfl
  | cons token tokens ih =>
    rw [List.map_cons, expandBy_cons, substitute_conditional token hs,
      ih (hs.substitute (Directive.opensNoMore r _)), expandBy_cons]

/-! ## The pieces of a composition -/

namespace Piece

theorem balanced_text (p : Piece) : Balanced p.text := by
  cases p with
  | plain s hs => exact balanced_of_not_mem hs
  | directive w => exact (balanced_of_not_mem (w.not_mem_body (.inl rfl))).inBraces
  | unrecognised body _ => exact (balanced_of_not_mem body.no_opening).inBraces
  | conditional parts =>
    have hparts : Balanced (parts.flatMap Part.text) := balanced_flatMap fun p _ => p.balanced_text
    have hmark : Balanced ['!', ':'] := rfl
    exact (hmark.append hparts).inBraces

theorem expand_text (r : Revision) (p : Piece) : expand r p.text = p.meaning r := by
  cases p with
  | plain s hs => exact expandBy_of_no_opening hs
  | directive w =>
    exact expandBy_group w.directive_mem_order
  | unrecognised body hne =>
    refine expandBy_group_of_none body.no_opening body.no_closing fun d _ => ?_
    cases ht : d.expand? r body.chars with
    | none => rfl
    | some t =>
      obtain ⟨w, -, hbody, -⟩ :=
        (Directive.expand?_eq_some_iff body.no_opening body.no_closing).1 ht
      exact absurd hbody (hne w)
  | conditional parts =>
    have hparts : Balanced (parts.flatMap Part.text) :=
      balanced_flatMap fun p _ => p.balanced_text
    -- once the fixed tokens are gone, the group is a text for dirty trees without braces
    let w := WrittenDirective.dirtyText ⟨parts.flatMap (Part.meaning r),
      not_mem_parts_meaning (.inl rfl) parts, not_mem_parts_meaning (.inr rfl) parts⟩
    have hw : w.directive ∈ [.dirtyText, .hashPrefix, .minutes, .paddedMinutes] :=
      List.mem_cons_self
    rw [expand_eq_expandBy, Directive.order, expandBy_append_list, text,
      expandBy_conditional _ hparts, expandBy_parts]
    exact expandBy_group hw

end Piece

namespace Composition

theorem expand_ending (r : Revision) (c : Composition) : expand r c.ending = c.ending := by
  have hclose : '}' ∉ c.ending := by
    rw [ending]
    split
    · next t _ => simpa using t.no_closing
    · exact List.not_mem_nil
  exact expandBy_of_no_closing hclose

/-- **A template means what its pieces mean.** The ending is copied: its group does not close. -/
theorem expand_text (r : Revision) (c : Composition) : expand r c.text = c.meaning r := by
  have hpieces : ∀ pieces : List Piece,
      expand r (pieces.flatMap Piece.text ++ c.ending)
        = pieces.flatMap (Piece.meaning r) ++ expand r c.ending := by
    intro pieces
    induction pieces with
    | nil => rfl
    | cons p pieces ih =>
      rw [List.flatMap_cons, List.append_assoc, expand_eq_expandBy, expandBy_append p.balanced_text,
        ← expand_eq_expandBy, ← expand_eq_expandBy, p.expand_text, ih, List.flatMap_cons,
        List.append_assoc]
  rw [text, hpieces, meaning, expand_ending]

end Composition

/-- **Rendering is one pass.** The fifteen substitutions of a template in pieces give the meanings
of the pieces from left to right. -/
theorem render_text (r : Revision) (c : Composition) :
    render (String.ofList c.text) r = String.ofList (c.meaning r) := by
  rw [render, String.toList_ofList, c.expand_text]

end CommitStamp.Template
