import CommitStamp.Proofs.CommandLine.Flags
/-!
# A command line with one more flag

What a word of a command line does depends on what was read before it: a value may be pending, and a
flag may not come twice. `Options.parse_insert` says that a flag changes nothing but itself all the
same, wherever it stands: without it, the command line asks for what it asks for with it, the flag
apart.

## Shape of the proof

Two things happen where the flag stands. What is pending is settled there, and not by the word that
comes next; this comes to the same (`words_of_settle`). And the flag is raised, which is forgotten
again: a reading goes on in the same way after a flag was forgotten, as long as no word raises it
(`words_forget`), since no operation looks at any flag but the one that it raises.
-/

namespace CommitStamp.CommandLine

open Text

namespace Reading

variable {flag f : Flag} {slot : Slot} {r s q : Reading} {text w : List Char}
  {before ws : List (List Char)}

/-! ## Settling early -/

/-- A settled reading has nothing pending, and what was pending had come. -/
theorem settle_eq_ok (h : r.settle = .ok s) :
    s.pending = none ∧ s.positions = r.positions ∧ ∀ slot, r.pending ≠ some (slot, none) := by
  unfold settle at h
  split at h
  · next hpending =>
    obtain rfl := Except.ok.inj h
    exact ⟨hpending, rfl, fun slot hslot => by simp [hpending] at hslot⟩
  · exact absurd h (by simp)
  · next slot text hpending =>
    obtain rfl := eq_of_give h
    refine ⟨rfl, rfl, fun slot' hslot => ?_⟩
    rw [hpending] at hslot
    exact absurd hslot (by simp)

theorem settle_of_settle (h : r.settle = .ok s) : s.settle = .ok s := by
  unfold settle
  rw [(settle_eq_ok h).1]

theorem raise_of_settle (h : r.settle = .ok s) : s.raise f = r.raise f := by
  unfold raise
  rw [h, settle_of_settle h]

theorem await_of_settle (h : r.settle = .ok s) : s.await slot = r.await slot := by
  unfold await
  rw [h, settle_of_settle h]

theorem attach_of_settle (h : r.settle = .ok s) : s.attach slot text = r.attach slot text := by
  unfold attach
  rw [h, settle_of_settle h]

theorem position_of_settle (h : r.settle = .ok s) : s.position w = r.position w := by
  unfold position
  rw [h, settle_of_settle h, (settle_eq_ok h).2.1]

theorem plain_of_settle (h : r.settle = .ok s) : s.plain w = r.plain w := by
  obtain ⟨hnone, -, hcame⟩ := settle_eq_ok h
  have hs : s.plain w = s.position w := by
    unfold plain
    rw [hnone]
  have hr : r.plain w = r.position w := by
    unfold plain
    split
    · next slot hslot => exact absurd hslot (hcame slot)
    · rfl
  rw [hs, hr, position_of_settle h]

theorem named_of_settle (h : r.settle = .ok s) : s.named text = r.named text := by
  unfold named
  simp only [raise_of_settle h, await_of_settle h, attach_of_settle h]

theorem letters_of_settle (h : r.settle = .ok s) (c : Char) (text : List Char) :
    s.letters (c :: text) = r.letters (c :: text) := by
  unfold letters
  simp only [raise_of_settle h, await_of_settle h, attach_of_settle h]

theorem word_of_settle (h : r.settle = .ok s) : s.word w = r.word w := by
  unfold word
  split
  · exact named_of_settle h
  · exact letters_of_settle h _ _
  · exact plain_of_settle h

/-- **Settling early** makes no difference to what is read later. -/
theorem words_of_settle (h : r.settle = .ok s) : s.words ws = r.words ws := by
  cases ws with
  | nil => rw [words, words, h, settle_of_settle h]
  | cons w ws =>
    rw [words, words, word_of_settle h]
    cases ws with
    | nil =>
      have hend : s.settle = r.settle := by rw [h, settle_of_settle h]
      simp only [List.foldlM_nil, pure_bind, hend]
    | cons v ws => rw [List.foldlM_cons, List.foldlM_cons, position_of_settle h]

/-! ## Forgetting a flag -/

/-- The reading without a flag. -/
def forget (flag : Flag) (r : Reading) : Reading :=
  { r with flags := r.flags.filter (· ≠ flag) }

/-- Where what comes next commutes with forgetting, so does all of it. -/
theorem bind_forget {x : Except Stop Reading} {g : Reading → Except Stop Reading}
    (hg : ∀ q, g (q.forget flag) = (g q).map (forget flag)) :
    x.map (forget flag) >>= g = (x >>= g).map (forget flag) := by
  cases x with
  | error e => rfl
  | ok q => exact hg q

theorem give_forget (flag : Flag) (r : Reading) (slot : Slot) (text : List Char) :
    (r.forget flag).give slot text = (r.give slot text).map (forget flag) := by
  unfold give forget
  split
  · rfl
  · split <;> rfl

theorem settle_forget (flag : Flag) (r : Reading) :
    (r.forget flag).settle = r.settle.map (forget flag) := by
  obtain ⟨flags, values, pending, positions⟩ := r
  match pending with
  | none => rfl
  | some (slot, none) => rfl
  | some (slot, some text) => exact give_forget flag ⟨flags, values, none, positions⟩ slot text

/-- Another flag can be raised just as well. -/
theorem raise_forget (hne : f ≠ flag) (r : Reading) :
    (r.forget flag).raise f = (r.raise f).map (forget flag) := by
  unfold raise
  rw [settle_forget]
  apply bind_forget
  intro q
  have hmem : f ∈ (q.forget flag).flags ↔ f ∈ q.flags := by
    simp [forget, List.mem_filter, hne]
  have hraised : { q.forget flag with flags := f :: (q.forget flag).flags }
      = forget flag { q with flags := f :: q.flags } := by
    simp [forget, hne]
  split
  · rfl
  · rfl
  · simp only [hmem, hraised]
    split <;> rfl

theorem await_forget (flag : Flag) (r : Reading) (slot : Slot) :
    (r.forget flag).await slot = (r.await slot).map (forget flag) := by
  unfold await
  rw [settle_forget]
  apply bind_forget
  intro q
  rfl

theorem attach_forget (flag : Flag) (r : Reading) (slot : Slot) (text : List Char) :
    (r.forget flag).attach slot text = (r.attach slot text).map (forget flag) := by
  unfold attach
  rw [settle_forget]
  apply bind_forget
  intro q
  exact give_forget flag q slot text

theorem position_forget (flag : Flag) (r : Reading) (w : List Char) :
    (r.forget flag).position w = (r.position w).map (forget flag) := by
  obtain ⟨flags, values, pending, positions⟩ := r
  cases positions with
  | nil => rfl
  | cons slot positions =>
    show ((forget flag ⟨flags, values, pending, slot :: positions⟩).settle >>= _)
      = ((settle ⟨flags, values, pending, slot :: positions⟩) >>= _).map (forget flag)
    rw [settle_forget]
    apply bind_forget
    intro q
    rfl

theorem positions_forget (flag : Flag) (r : Reading) (ws : List (List Char)) :
    ws.foldlM position (r.forget flag) = (ws.foldlM position r).map (forget flag) := by
  induction ws generalizing r with
  | nil => rfl
  | cons w ws ih =>
    rw [List.foldlM_cons, List.foldlM_cons, position_forget]
    exact bind_forget ih

theorem plain_forget (flag : Flag) (r : Reading) (w : List Char) :
    (r.forget flag).plain w = (r.plain w).map (forget flag) := by
  have hposition := position_forget flag r w
  obtain ⟨flags, values, pending, positions⟩ := r
  match pending with
  | none => exact hposition
  | some (slot, none) => rfl
  | some (slot, some text) => exact hposition

theorem letters_forget (h : flag.short ∉ text.takeWhile isSwitch) (r : Reading) :
    (r.forget flag).letters text = (r.letters text).map (forget flag) := by
  induction text generalizing r with
  | nil => rfl
  | cons c text ih =>
    rw [letters, letters]
    cases hfound : Flag.all.find? (·.short = c) with
    | none => rfl
    | some f =>
      have hc : f.short = c := by simpa using List.find?_some hfound
      dsimp only
      cases hslot : f.slot? with
      | none =>
        -- a switch, so the letter is not that of the flag, and other letters may follow
        rw [List.takeWhile_cons_of_pos (hc ▸ isSwitch_short hslot), List.mem_cons, not_or] at h
        have hne : f ≠ flag := by
          rintro rfl
          exact h.1 hc
        dsimp only
        rw [raise_forget hne]
        exact bind_forget (ih h.2)
      | some slot =>
        dsimp only
        split
        · exact await_forget flag r slot
        · exact attach_forget flag r slot _
        · exact attach_forget flag r slot _

theorem named_forget (h : text ≠ flag.long.toList) (r : Reading) :
    (r.forget flag).named text = (r.named text).map (forget flag) := by
  unfold named
  cases hcut : cutAt '=' text with
  | none =>
    dsimp only
    cases hfound : Flag.all.find? (·.long.toList = text) with
    | none => rfl
    | some f =>
      have hname : f.long.toList = text := by simpa using List.find?_some hfound
      have hne : f ≠ flag := by
        rintro rfl
        exact h hname.symm
      dsimp only
      cases f.slot? with
      | none => exact raise_forget hne r
      | some slot => exact await_forget flag r slot
  | some parts =>
    dsimp only
    cases Flag.all.find? (·.long.toList = parts.1) with
    | none => rfl
    | some f =>
      dsimp only
      cases f.slot? with
      | none => rfl
      | some slot => exact attach_forget flag r slot _

/-- A word that does not raise the flag does the same whether or not it was raised before. -/
theorem word_forget (h : flag.isRaisedBy w = false) (r : Reading) :
    (r.forget flag).word w = (r.word w).map (forget flag) := by
  unfold word
  split
  · next text =>
    apply named_forget
    rintro rfl
    simp [Flag.isRaisedBy] at h
  · next c text hc =>
    apply letters_forget
    intro hmem
    rw [Flag.isRaisedBy, ← Bool.not_eq_true, List.contains_iff_mem] at h
    · exact h hmem
    · simpa using hc
  · exact plain_forget flag r w

/-- **Forgetting a flag** changes nothing about what is read later, if no word raises it. -/
theorem words_forget (h : ∀ w ∈ ws.takeWhile (· ≠ ['-', '-']), flag.isRaisedBy w = false)
    (r : Reading) : (r.forget flag).words ws = (r.words ws).map (forget flag) := by
  induction ws generalizing r with
  | nil => exact settle_forget flag r
  | cons w ws ih =>
    rw [words, words]
    by_cases hw : w = ['-', '-']
    · rw [if_pos hw, if_pos hw, positions_forget]
      exact bind_forget (settle_forget flag)
    · rw [List.takeWhile_cons_of_pos (by simpa using hw)] at h
      rw [if_neg hw, if_neg hw, word_forget (h w List.mem_cons_self)]
      exact bind_forget (ih fun v hv => h v (List.mem_cons_of_mem w hv))

/-! ## Where the flag stands -/

/-- Words are read one after the other. -/
theorem words_append (h : ['-', '-'] ∉ before) (r : Reading) :
    r.words (before ++ ws) = before.foldlM word r >>= (·.words ws) := by
  induction before generalizing r with
  | nil => rfl
  | cons w before ih =>
    rw [List.mem_cons, not_or] at h
    rw [List.cons_append, words, if_neg (Ne.symm h.1), List.foldlM_cons, bind_assoc]
    exact congrArg (r.word w >>= ·) (funext (ih h.2))

/-- A flag that was raised and is forgotten again leaves the settled reading. -/
theorem settle_of_raise (h : r.raise flag = .ok q) : r.settle = .ok (q.forget flag) := by
  obtain ⟨s, hs, h⟩ := bind_eq_ok_iff.1 h
  rw [hs]
  split at h
  · exact absurd h throw_ne_ok
  · exact absurd h throw_ne_ok
  · split at h
    · exact absurd h throw_ne_ok
    · next hnew =>
      have hrest : s.flags.filter (· ≠ flag) = s.flags := by
        rw [List.filter_eq_self]
        intro f hf
        simpa using ne_of_mem_of_not_mem hf hnew
      rw [← Except.ok.inj h, forget, List.filter_cons_of_neg (by simp), hrest]

theorem usage_of_give {stop : Stop} (h : r.give slot text = .error stop) :
    ∃ e, stop = .usage e := by
  unfold give at h
  split at h
  · exact ⟨_, (Except.error.inj h).symm⟩
  · split at h
    · exact ⟨_, (Except.error.inj h).symm⟩
    · exact absurd h (by simp)

theorem usage_of_settle {stop : Stop} (h : r.settle = .error stop) : ∃ e, stop = .usage e := by
  unfold settle at h
  split at h
  · exact absurd h (by simp)
  · exact ⟨_, (Except.error.inj h).symm⟩
  · exact usage_of_give h

/-- A flag that does not end the reading can only be out of place. -/
theorem usage_of_raise {stop : Stop} (hversion : flag ≠ .version) (hhelp : flag ≠ .help)
    (h : r.raise flag = .error stop) : ∃ e, stop = .usage e := by
  rcases bind_eq_error_iff.1 h with hs | ⟨s, -, h⟩
  · exact usage_of_settle hs
  · split at h
    · exact absurd rfl hversion
    · exact absurd rfl hhelp
    · split at h
      · exact ⟨_, (Except.error.inj h).symm⟩
      · exact absurd h (by rintro ⟨⟩)

/-- **One more flag** changes what is read by that flag, if it is not out of place. -/
theorem words_insert (hversion : flag ≠ .version) (hhelp : flag ≠ .help)
    (hw : ∀ r : Reading, r.word w = r.raise flag) (hdashes : w ≠ ['-', '-'])
    (hbefore : ['-', '-'] ∉ before)
    (hafter : ∀ v ∈ ws.takeWhile (· ≠ ['-', '-']), flag.isRaisedBy v = false)
    (haccepted : ∀ e, r.words (before ++ w :: ws) ≠ .error (.usage e)) :
    r.words (before ++ ws) = (r.words (before ++ w :: ws)).map (forget flag) := by
  rw [words_append hbefore] at haccepted
  rw [words_append hbefore, words_append hbefore]
  cases hread : before.foldlM word r with
  | error stop => rfl
  | ok p =>
    rw [hread] at haccepted
    change ∀ e, p.words (w :: ws) ≠ _ at haccepted
    show p.words ws = (p.words (w :: ws)).map (forget flag)
    rw [words, if_neg hdashes, hw] at haccepted ⊢
    cases hraise : p.raise flag with
    | error stop =>
      obtain ⟨e, rfl⟩ := usage_of_raise hversion hhelp hraise
      rw [hraise] at haccepted
      exact absurd rfl (haccepted e)
    | ok q =>
      show p.words ws = (q.words ws).map (forget flag)
      rw [← words_forget hafter, words_of_settle (settle_of_raise hraise)]

end Reading

/-! ## The options -/

/-- The command line is no error: it gives options, or asks for help or the version. -/
def Accepted (arguments : List String) : Prop :=
  ∀ e, Options.parse arguments ≠ .error (.usage e)

namespace Options

variable {arguments before after : List String} {w : String}

/-- The command line asks to go on without a revision. -/
theorem ignoreMissing_iff {o : Options} (h : parse arguments = .ok o) :
    o.ignoreMissing = true ↔
      ∃ w ∈ arguments.takeWhile (· ≠ "--"), Flag.ignoreMissing.isRaisedBy w.toList = true := by
  obtain ⟨r, hread, rfl⟩ := parse_eq_ok_iff.1 h
  rw [← mem_flags_iff rfl hread]
  exact List.contains_iff_mem

theorem ofReading_forget (r : Reading) :
    ofReading (r.forget .ignoreMissing) = { ofReading r with ignoreMissing := false } := by
  have hkept : ∀ f ≠ Flag.ignoreMissing, (r.forget .ignoreMissing).flags.contains f
      = r.flags.contains f := by
    intro f hf
    rw [Bool.eq_iff_iff]
    simp [Reading.forget, List.mem_filter, hf]
  have hgone : (r.forget .ignoreMissing).flags.contains Flag.ignoreMissing = false := by
    simp [Reading.forget]
  simp only [ofReading, hkept _ (by decide : Flag.stopIfModified ≠ .ignoreMissing),
    hkept _ (by decide : Flag.revision ≠ .ignoreMissing),
    hkept _ (by decide : Flag.debug ≠ .ignoreMissing), hgone]
  rfl

/-- Both spellings of the flag raise it. -/
theorem word_ignoreMissing (hw : w = "-i" ∨ w = "--ignore-missing") (r : Reading) :
    r.word w.toList = r.raise .ignoreMissing := by
  rcases hw with rfl | rfl
  · exact bind_pure (r.raise .ignoreMissing)
  · rfl

theorem toList_ne_dashes (hw : w = "-i" ∨ w = "--ignore-missing") : w.toList ≠ ['-', '-'] := by
  rcases hw with rfl | rfl <;> decide

theorem not_mem_toList (h : "--" ∉ before) : ['-', '-'] ∉ before.map String.toList := by
  intro hmem
  obtain ⟨v, hv, heq⟩ := List.mem_map.1 hmem
  rw [show ['-', '-'] = "--".toList from rfl, String.toList_inj] at heq
  exact h (heq ▸ hv)

theorem isRaisedBy_eq_false_of_mem
    (h : ∀ v ∈ after.takeWhile (· ≠ "--"), Flag.ignoreMissing.isRaisedBy v.toList = false) :
    ∀ v ∈ (after.map String.toList).takeWhile (· ≠ ['-', '-']),
      Flag.ignoreMissing.isRaisedBy v = false := by
  rw [map_takeWhile_dashes]
  intro v hv
  obtain ⟨u, hu, rfl⟩ := List.mem_map.1 hv
  exact h u hu

/-- **One more flag**: without it, the command line asks for what it asks for with it, the flag
apart. -/
theorem parse_insert (hw : w = "-i" ∨ w = "--ignore-missing") (hbefore : "--" ∉ before)
    (hafter : ∀ v ∈ after.takeWhile (· ≠ "--"), Flag.ignoreMissing.isRaisedBy v.toList = false)
    (haccepted : Accepted (before ++ w :: after)) :
    parse (before ++ after)
      = (parse (before ++ w :: after)).map fun o => { o with ignoreMissing := false } := by
  have haccepted' : ∀ e, Reading.words {} (before.map String.toList
      ++ w.toList :: after.map String.toList) ≠ .error (.usage e) := by
    intro e he
    apply haccepted e
    rw [parse, List.map_append, List.map_cons, he]
    rfl
  have hwords := Reading.words_insert (by decide) (by decide) (word_ignoreMissing hw)
    (toList_ne_dashes hw) (not_mem_toList hbefore) (isRaisedBy_eq_false_of_mem hafter) haccepted'
  rw [parse, parse, List.map_append, List.map_append, List.map_cons, hwords]
  cases Reading.words {} (before.map String.toList ++ w.toList :: after.map String.toList) with
  | error stop => rfl
  | ok r => exact congrArg Except.ok (ofReading_forget r)

/-- The flag may always stand in front. -/
theorem accepted_cons (hw : w = "-i" ∨ w = "--ignore-missing")
    (hwithout : ∀ v ∈ arguments.takeWhile (· ≠ "--"),
      Flag.ignoreMissing.isRaisedBy v.toList = false)
    (haccepted : Accepted arguments) : Accepted (w :: arguments) := by
  intro e he
  apply haccepted e
  -- the first reading settles, so the flag is there and is not out of place
  have hflag : Reading.words {} ((w :: arguments).map String.toList)
      = Reading.words { flags := [.ignoreMissing] } (arguments.map String.toList) := by
    rw [List.map_cons, Reading.words, if_neg (toList_ne_dashes hw), word_ignoreMissing hw]
    rfl
  have hwords : Reading.words {} (arguments.map String.toList)
      = (Reading.words { flags := [.ignoreMissing] } (arguments.map String.toList)).map
          (Reading.forget .ignoreMissing) :=
    Reading.words_forget (isRaisedBy_eq_false_of_mem hwithout) { flags := [.ignoreMissing] }
  rw [parse, hflag] at he
  rw [parse, hwords]
  cases hread : Reading.words { flags := [.ignoreMissing] } (arguments.map String.toList) with
  | error stop =>
    rw [hread] at he
    rw [Except.error.inj he]
    rfl
  | ok r =>
    rw [hread] at he
    exact absurd he (by rintro ⟨⟩)

/-- The options with a flag in it are those without it, and the flag. -/
theorem parse_ignoreMissing (hw : w = "-i" ∨ w = "--ignore-missing") (hbefore : "--" ∉ before)
    (hwithout : ∀ v ∈ (before ++ after).takeWhile (· ≠ "--"),
      Flag.ignoreMissing.isRaisedBy v.toList = false)
    (haccepted : Accepted (before ++ w :: after)) :
    (∃ o, parse (before ++ after) = .ok o ∧ o.ignoreMissing = false ∧
        parse (before ++ w :: after) = .ok { o with ignoreMissing := true }) ∨
      ∃ stop, parse (before ++ after) = .error stop ∧
        parse (before ++ w :: after) = .error stop := by
  have hend : ∀ ws : List String,
      (before ++ ws).takeWhile (· ≠ "--") = before ++ ws.takeWhile (· ≠ "--") := by
    intro ws
    apply List.takeWhile_append_of_pos
    intro v hv
    simpa using ne_of_mem_of_not_mem hv hbefore
  have hraises : Flag.ignoreMissing.isRaisedBy w.toList = true := by
    rcases hw with rfl | rfl <;> decide
  rw [hend] at hwithout
  have hinsert := parse_insert hw hbefore
    (fun v hv => hwithout v (List.mem_append_right before hv)) haccepted
  cases hparse : parse (before ++ w :: after) with
  | error stop =>
    rw [hparse] at hinsert
    exact .inr ⟨stop, hinsert, rfl⟩
  | ok o =>
    have hmissing : o.ignoreMissing = true := by
      refine (ignoreMissing_iff hparse).2 ⟨w, ?_, hraises⟩
      rw [hend, List.takeWhile_cons_of_pos (by rcases hw with rfl | rfl <;> decide)]
      simp
    rw [hparse] at hinsert
    refine .inl ⟨_, hinsert, rfl, ?_⟩
    rw [← hmissing]

end Options

end CommitStamp.CommandLine
