import CommitStamp.Text.Lines
/-!
# Cutting a text that is put together from lines

`text_lines` says that the lines of a text make up the text. The other direction needs lines as
`lines` cuts them, which `IsCut` describes: no newline in a body, no carriage return at the end of a
body whose terminator is a bare newline, and a terminator at every line but a non-empty last one.
`lines_flatMap_text` says that such lines are found again. A change of bodies that respects these
conditions (`IsCut.map`) therefore changes no line end and no other line.

`lines` does two things in one go, which `lines_eq_map_ofSegment` takes apart: a text is cut after
each newline (`segments`), and each piece into its body and its terminator (`Line.ofSegment`).
-/

namespace CommitStamp.Text

/-! ## The first line -/

theorem lines_cons {c : Char} {s : List Char} (hc : c ≠ '\n') (hr : ∀ t, c = '\r' → s ≠ '\n' :: t) :
    lines (c :: s) =
      match lines s with
      | [] => [⟨[c], .none⟩]
      | l :: ls => { l with body := c :: l.body } :: ls := by
  rw [lines] <;> first | rfl | exact hc | exact hr

/-- A text up to its first newline, if no carriage return stands before it. -/
theorem lines_append_newline {body : List Char} (hn : '\n' ∉ body)
    (hr : body.getLast? ≠ some '\r') (s : List Char) :
    lines (body ++ '\n' :: s) = ⟨body, .newline⟩ :: lines s := by
  induction body with
  | nil => rw [List.nil_append, lines]
  | cons c body ih =>
    rw [List.mem_cons, not_or] at hn
    have hstep : ∀ t, c = '\r' → body ++ '\n' :: s ≠ '\n' :: t := by
      rintro t rfl h
      -- the body is not just this carriage return, so what follows it is not the newline
      cases body with
      | nil => exact hr rfl
      | cons d body =>
        obtain ⟨rfl, -⟩ := List.cons.inj h
        exact hn.2 List.mem_cons_self
    have hlast : body.getLast? ≠ some '\r' := by
      intro h
      refine hr ?_
      rw [List.getLast?_cons, h]
      rfl
    rw [List.cons_append, lines_cons (Ne.symm hn.1) hstep, ih hn.2 hlast]

/-- A text up to its first newline with a carriage return before it. -/
theorem lines_append_returnNewline {body : List Char} (hn : '\n' ∉ body) (s : List Char) :
    lines (body ++ '\r' :: '\n' :: s) = ⟨body, .returnNewline⟩ :: lines s := by
  induction body with
  | nil => rw [List.nil_append, lines]
  | cons c body ih =>
    rw [List.mem_cons, not_or] at hn
    have hstep : ∀ t, c = '\r' → body ++ '\r' :: '\n' :: s ≠ '\n' :: t := by
      rintro t - h
      cases body with
      | nil => exact absurd (List.cons.inj h).1 (by decide)
      | cons d body =>
        obtain ⟨rfl, -⟩ := List.cons.inj h
        exact hn.2 List.mem_cons_self
    rw [List.cons_append, lines_cons (Ne.symm hn.1) hstep, ih hn.2]

/-- A text without a newline is one line. -/
theorem lines_of_no_newline {body : List Char} (hn : '\n' ∉ body) (hne : body ≠ []) :
    lines body = [⟨body, .none⟩] := by
  induction body with
  | nil => exact absurd rfl hne
  | cons c body ih =>
    rw [List.mem_cons, not_or] at hn
    have hstep : ∀ t, c = '\r' → body ≠ '\n' :: t := by
      rintro t - rfl
      exact hn.2 List.mem_cons_self
    rw [lines_cons (Ne.symm hn.1) hstep]
    cases body with
    | nil => rw [lines]
    | cons d body => rw [ih hn.2 (List.cons_ne_nil d body)]

/-! ## Lines as they are cut -/

/-- The line may come before another one. -/
structure Line.Ended (l : Line) : Prop where
  no_newline : '\n' ∉ l.body
  terminator_ne_none : l.terminator ≠ .none
  /-- Otherwise the carriage return would belong to the terminator. -/
  no_return : l.terminator = .newline → l.body.getLast? ≠ some '\r'

/-- Lines as `lines` cuts them. -/
inductive IsCut : List Line → Prop
  | nil : IsCut []
  | last {body : List Char} (no_newline : '\n' ∉ body) (ne_nil : body ≠ []) :
      IsCut [⟨body, .none⟩]
  | cons {l : Line} {ls : List Line} (ended : l.Ended) (rest : IsCut ls) : IsCut (l :: ls)

/-- **Lines are found again.** -/
theorem lines_flatMap_text {ls : List Line} (h : IsCut ls) : lines (ls.flatMap Line.text) = ls := by
  induction h with
  | nil => rw [List.flatMap_nil, lines]
  | last hn hne =>
    rw [List.flatMap_singleton, Line.text, Terminator.text, List.append_nil,
      lines_of_no_newline hn hne]
  | @cons l ls hl _ ih =>
    obtain ⟨body, terminator⟩ := l
    rw [List.flatMap_cons, Line.text]
    cases terminator with
    | none => exact absurd rfl hl.terminator_ne_none
    | newline =>
      rw [Terminator.text, List.append_assoc, List.singleton_append,
        lines_append_newline hl.no_newline (hl.no_return rfl), ih]
    | returnNewline =>
      rw [Terminator.text, List.append_assoc, List.cons_append, List.singleton_append,
        lines_append_returnNewline hl.no_newline, ih]

theorem isCut_lines (s : List Char) : IsCut (lines s) := by
  fun_induction lines s with
  | case1 => exact .nil
  | case2 s ih => exact .cons ⟨List.not_mem_nil, by simp, by simp⟩ ih
  | case3 s ih => exact .cons ⟨List.not_mem_nil, by simp, by simp⟩ ih
  | case4 c s hn hr hs ih =>
    refine .last ?_ (List.cons_ne_nil c [])
    rw [List.mem_singleton]
    exact fun h => hn h.symm
  | case5 c s hn hr l ls hs ih =>
    rw [hs] at ih
    have hcons : ∀ {body : List Char}, '\n' ∉ body → '\n' ∉ c :: body := by
      intro body hbody
      rw [List.mem_cons]
      exact not_or.2 ⟨fun h => hn h.symm, hbody⟩
    cases ih with
    | last hbody hne => exact .last (hcons hbody) (List.cons_ne_nil _ _)
    | cons hl hls =>
      refine .cons ⟨hcons hl.no_newline, hl.terminator_ne_none, ?_⟩ hls
      intro hterm hlast
      cases hbody : l.body with
      | nil =>
        -- `c` stands right before the newline, and had it been a carriage return, `lines` would
        -- have taken it into the terminator
        have htext := text_lines s
        rw [hs, List.flatMap_cons, Line.text, hbody, hterm] at htext
        rw [hbody] at hlast
        exact hr _ (Option.some.inj hlast) htext.symm
      | cons d body =>
        refine hl.no_return hterm ?_
        rw [hbody] at hlast ⊢
        rw [List.getLast?_cons_cons] at hlast
        exact hlast

/-- What a change of a line has to respect: its terminator, the last character of its body, and
that there is no newline in it. -/
structure Line.Respects (l l' : Line) : Prop where
  terminator_eq : l'.terminator = l.terminator
  getLast?_eq : l'.body.getLast? = l.body.getLast?
  no_newline : '\n' ∉ l.body → '\n' ∉ l'.body

/-- A line that may come before another one has a newline at its end and nowhere else. -/
theorem Line.Ended.exists_text {l : Line} (h : l.Ended) :
    ∃ s, '\n' ∉ s ∧ l.text = s ++ ['\n'] := by
  obtain ⟨body, terminator⟩ := l
  cases terminator with
  | none => exact absurd rfl h.terminator_ne_none
  | newline => exact ⟨body, h.no_newline, rfl⟩
  | returnNewline =>
    refine ⟨body ++ ['\r'], ?_, by simp [Line.text, Terminator.text]⟩
    rw [List.mem_append, not_or]
    exact ⟨h.no_newline, by decide⟩

theorem Line.Ended.of_respects {l l' : Line} (h : l.Ended) (hl : l.Respects l') : l'.Ended where
  no_newline := hl.no_newline h.no_newline
  terminator_ne_none := hl.terminator_eq ▸ h.terminator_ne_none
  no_return := by
    rw [hl.terminator_eq, hl.getLast?_eq]
    exact h.no_return

theorem Line.eq_of_terminator_eq {l : Line} {t : Terminator} (h : l.terminator = t) :
    l = ⟨l.body, t⟩ := by
  cases h
  rfl

/-- Lines that are changed with respect are cut at the same places. -/
theorem IsCut.map {f : Line → Line} {ls : List Line} (h : IsCut ls)
    (hf : ∀ l : Line, l.Respects (f l)) : IsCut (ls.map f) := by
  induction h with
  | nil => exact .nil
  | @last body hn hne =>
    have hl := hf ⟨body, .none⟩
    have hbody : (f ⟨body, .none⟩).body ≠ [] := by
      intro hnil
      have hlast := hl.getLast?_eq
      rw [hnil] at hlast
      exact hne (List.getLast?_eq_none_iff.1 hlast.symm)
    rw [List.map_singleton, Line.eq_of_terminator_eq hl.terminator_eq]
    exact .last (hl.no_newline hn) hbody
  | cons hl _ ih => exact .cons (hl.of_respects (hf _)) ih

/-! ## One text after the other -/

theorem IsCut.append {ls ms : List Line} (hls : ∀ l ∈ ls, l.Ended) (hms : IsCut ms) :
    IsCut (ls ++ ms) := by
  induction ls with
  | nil => exact hms
  | cons l ls ih =>
    rw [List.forall_mem_cons] at hls
    exact .cons hls.1 (ih hls.2)

/-- A text up to the end of a line. -/
def EndsLine (s : List Char) : Prop :=
  s = [] ∨ s.getLast? = some '\n'

instance (s : List Char) : Decidable (EndsLine s) :=
  inferInstanceAs (Decidable (_ ∨ _))

theorem EndsLine.of_append {s t : List Char} (h : EndsLine (s ++ t)) : EndsLine t := by
  rcases List.eq_nil_or_concat t with rfl | ⟨u, c, rfl⟩
  · exact .inl rfl
  · right
    rcases h with h | h
    · exact absurd h (by simp)
    · simpa using h

theorem IsCut.ended {ls : List Line} (h : IsCut ls) (hends : EndsLine (ls.flatMap Line.text)) :
    ∀ l ∈ ls, l.Ended := by
  induction h with
  | nil => exact fun l hl => absurd hl List.not_mem_nil
  | @last body hn hne =>
    rw [List.flatMap_singleton, Line.text, Terminator.text, List.append_nil] at hends
    rcases hends with h | h
    · exact absurd h hne
    · exact absurd (List.mem_of_getLast? h) hn
  | cons hl _ ih =>
    rw [List.flatMap_cons] at hends
    exact List.forall_mem_cons.2 ⟨hl, ih hends.of_append⟩

/-- **The lines of two texts**, the first of which ends with a line, are the lines of the one text
that they make up. -/
theorem lines_append {s : List Char} (h : EndsLine s) (t : List Char) :
    lines (s ++ t) = lines s ++ lines t := by
  have hended : ∀ l ∈ lines s, l.Ended := (isCut_lines s).ended (by rwa [text_lines])
  have htext : (lines s ++ lines t).flatMap Line.text = s ++ t := by
    rw [List.flatMap_append, text_lines, text_lines]
  rw [← htext]
  exact lines_flatMap_text (.append hended (isCut_lines t))

/-! ## Pieces -/

/-- The pieces of a text that is cut after each newline. -/
def segments : List Char → List (List Char)
  | [] => []
  | c :: s =>
    if c = '\n' then [c] :: segments s
    else
      match segments s with
      | [] => [[c]]
      | piece :: pieces => (c :: piece) :: pieces

/-- The line that a piece is, read from its end. -/
def Line.ofSegment (piece : List Char) : Line :=
  match piece.reverse with
  | '\n' :: '\r' :: body => ⟨body.reverse, .returnNewline⟩
  | '\n' :: body => ⟨body.reverse, .newline⟩
  | _ => ⟨piece, .none⟩

theorem segments_cons {c : Char} (hc : c ≠ '\n') (s : List Char) :
    segments (c :: s) =
      match segments s with
      | [] => [[c]]
      | piece :: pieces => (c :: piece) :: pieces := by
  rw [segments, if_neg hc]

/-- A piece reaches to the first newline. -/
theorem segments_append_newline {s : List Char} (hs : '\n' ∉ s) (t : List Char) :
    segments (s ++ '\n' :: t) = (s ++ ['\n']) :: segments t := by
  induction s with
  | nil => rw [List.nil_append, segments, if_pos rfl, List.nil_append]
  | cons c s ih =>
    rw [List.mem_cons, not_or] at hs
    rw [List.cons_append, segments_cons (Ne.symm hs.1), ih hs.2, List.cons_append]

theorem segments_of_no_newline {s : List Char} (hs : '\n' ∉ s) (hne : s ≠ []) :
    segments s = [s] := by
  induction s with
  | nil => exact absurd rfl hne
  | cons c s ih =>
    rw [List.mem_cons, not_or] at hs
    rw [segments_cons (Ne.symm hs.1)]
    cases s with
    | nil => rw [segments]
    | cons d s => rw [ih hs.2 (List.cons_ne_nil d s)]

theorem Line.ofSegment_text_of_ended {l : Line} (h : l.Ended) : ofSegment l.text = l := by
  obtain ⟨body, terminator⟩ := l
  cases terminator with
  | none => exact absurd rfl h.terminator_ne_none
  | newline =>
    have hlast : body.reverse.head? ≠ some '\r' := by
      rw [List.head?_reverse]
      exact h.no_return rfl
    have hreverse : (Line.text ⟨body, .newline⟩).reverse = '\n' :: body.reverse := by
      rw [Line.text, Terminator.text, List.reverse_append]
      rfl
    rw [ofSegment, hreverse]
    split
    · next heq =>
      rw [(List.cons.inj heq).2] at hlast
      exact absurd rfl hlast
    · next heq => rw [← (List.cons.inj heq).2, List.reverse_reverse]
    · next hother => exact absurd rfl (hother body.reverse)
  | returnNewline =>
    have hreverse : (Line.text ⟨body, .returnNewline⟩).reverse = '\n' :: '\r' :: body.reverse := by
      rw [Line.text, Terminator.text, List.reverse_append]
      rfl
    rw [ofSegment, hreverse]
    show Line.mk body.reverse.reverse .returnNewline = _
    rw [List.reverse_reverse]

theorem Line.ofSegment_of_no_newline {s : List Char} (hs : '\n' ∉ s) :
    ofSegment s = ⟨s, .none⟩ := by
  have hfirst : ∀ t, s.reverse ≠ '\n' :: t := by
    intro t ht
    apply hs
    rw [← List.mem_reverse, ht]
    exact List.mem_cons_self
  rw [ofSegment]
  split
  · next heq => exact absurd heq (hfirst _)
  · next heq => exact absurd heq (hfirst _)
  · rfl

/-- Lines as they are cut are the pieces of their text, each read from its end. -/
theorem IsCut.segments {ls : List Line} (h : IsCut ls) :
    segments (ls.flatMap Line.text) = ls.map Line.text ∧
      ls = (ls.map Line.text).map Line.ofSegment := by
  induction h with
  | nil => exact ⟨rfl, rfl⟩
  | @last body hn hne =>
    have htext : Line.text ⟨body, .none⟩ = body := List.append_nil body
    rw [List.flatMap_singleton, List.map_singleton, List.map_singleton, htext]
    exact ⟨segments_of_no_newline hn hne, by rw [Line.ofSegment_of_no_newline hn]⟩
  | @cons l ls hl _ ih =>
    obtain ⟨hpieces, hlines⟩ := ih
    obtain ⟨s, hs, htext⟩ := hl.exists_text
    rw [List.flatMap_cons, List.map_cons, List.map_cons, ← hlines, Line.ofSegment_text_of_ended hl,
      htext, List.append_assoc, List.singleton_append, segments_append_newline hs, hpieces]
    exact ⟨rfl, rfl⟩

/-- **Cutting in two steps.** The lines of a text are its pieces, each of them cut into body and
terminator, and nothing is lost by that. -/
theorem lines_eq_map_ofSegment (s : List Char) :
    lines s = (segments s).map Line.ofSegment ∧ segments s = (lines s).map Line.text := by
  obtain ⟨hpieces, hlines⟩ := (isCut_lines s).segments
  rw [text_lines] at hpieces
  rw [hpieces]
  exact ⟨hlines, rfl⟩

end CommitStamp.Text
