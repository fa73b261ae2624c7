import CommitStamp.CommandLine.Options
import CommitStamp.Proofs.Host.Writing
/-!
# Which words raise a flag

A flag without a value is set by a command line if and only if a word before the first `--` raises
it: its name, or its letter among letters of other such flags (`mem_flags_words`). Nothing else in
the command line has a part in it, in particular no value that looks like a flag. One word adds the
flags that it raises and takes none away (`mem_flags_word`), and that is carried along the words.
-/

namespace CommitStamp.CommandLine

open Text

variable {flag other : Flag} {slot : Slot} {r r' : Reading} {s text w : List Char}
  {ws : List (List Char)}

/-! ## Names and letters -/

theorem Flag.short_injective : Function.Injective Flag.short := by
  intro f g
  cases f <;> cases g <;> decide

theorem Flag.long_injective : Function.Injective Flag.long := by
  intro f g
  cases f <;> cases g <;> decide

theorem Flag.not_mem_long (flag : Flag) : '=' ∉ flag.long.toList := by
  cases flag <;> decide

/-- The letter of a flag without a value. -/
def isSwitch (c : Char) : Bool :=
  Flag.all.any fun flag => flag.short == c && flag.slot?.isNone

/-- The word sets the flag: it is its name, or has its letter with no value before it. -/
def Flag.isRaisedBy (flag : Flag) : List Char → Bool
  | '-' :: '-' :: s => s == flag.long.toList
  | '-' :: s => (s.takeWhile isSwitch).contains flag.short
  | _ => false

theorem isSwitch_short (h : flag.slot? = none) : isSwitch flag.short = true := by
  cases flag <;> first | rfl | exact absurd h (by decide)

/-! ## What leaves the flags alone -/

namespace Reading

/-- A value that is accepted is all that changes. -/
theorem eq_of_give (h : r.give slot text = .ok r') :
    r' = { r with values := (slot, text) :: r.values } := by
  unfold give at h
  split at h
  · exact absurd h (by simp)
  · split at h
    · exact absurd h (by simp)
    · exact (Except.ok.inj h).symm

theorem flags_give (h : r.give slot text = .ok r') : r'.flags = r.flags := by
  rw [eq_of_give h]

theorem flags_settle (h : r.settle = .ok r') : r'.flags = r.flags := by
  unfold settle at h
  split at h
  · rw [← Except.ok.inj h]
  · exact absurd h (by simp)
  · have hgive := flags_give h
    exact hgive

theorem flags_await (h : r.await slot = .ok r') : r'.flags = r.flags := by
  obtain ⟨q, hq, h⟩ := bind_eq_ok_iff.1 h
  rw [← Except.ok.inj h, ← flags_settle hq]

theorem flags_attach (h : r.attach slot text = .ok r') : r'.flags = r.flags := by
  obtain ⟨q, hq, h⟩ := bind_eq_ok_iff.1 h
  rw [flags_give h, flags_settle hq]

theorem flags_position (h : r.position w = .ok r') : r'.flags = r.flags := by
  unfold position at h
  split at h
  · exact absurd h (by simp)
  · obtain ⟨q, hq, h⟩ := bind_eq_ok_iff.1 h
    rw [← Except.ok.inj h, ← flags_settle hq]

theorem flags_plain (h : r.plain w = .ok r') : r'.flags = r.flags := by
  unfold plain at h
  split at h
  · rw [← Except.ok.inj h]
  · exact flags_position h

theorem flags_positions (h : ws.foldlM position r = .ok r') : r'.flags = r.flags := by
  induction ws generalizing r with
  | nil => rw [← Except.ok.inj h]
  | cons w ws ih =>
    rw [List.foldlM_cons] at h
    obtain ⟨q, hq, h⟩ := bind_eq_ok_iff.1 h
    rw [ih h, flags_position hq]

/-! ## What raises a flag -/

theorem flags_raise (h : r.raise other = .ok r') : r'.flags = other :: r.flags := by
  obtain ⟨q, hq, h⟩ := bind_eq_ok_iff.1 h
  rw [← flags_settle hq]
  split at h
  · exact absurd h throw_ne_ok
  · exact absurd h throw_ne_ok
  · split at h
    · exact absurd h throw_ne_ok
    · rw [← Except.ok.inj h]

/-- Letters set the flags that stand before the first value. -/
theorem mem_flags_letters (h : r.letters s = .ok r') :
    flag ∈ r'.flags ↔ flag ∈ r.flags ∨ flag.short ∈ s.takeWhile isSwitch := by
  induction s generalizing r with
  | nil => simp [← Except.ok.inj h]
  | cons c s ih =>
    rw [letters] at h
    split at h
    · exact absurd h (by simp)
    next other hfound =>
    have hc : other.short = c := by simpa using List.find?_some hfound
    split at h
    · next hslot =>
      -- one more flag, and then the other letters
      obtain ⟨q, hq, h⟩ := bind_eq_ok_iff.1 h
      rw [ih h, flags_raise hq, List.takeWhile_cons_of_pos (hc ▸ isSwitch_short hslot),
        List.mem_cons, List.mem_cons, ← hc, Flag.short_injective.eq_iff,
        or_comm (a := flag = other), or_assoc]
    · next slot hslot =>
      -- what follows is the value
      have hswitch : isSwitch c = false := by
        rw [← hc]
        cases other <;> first | rfl | exact absurd hslot (by simp [Flag.slot?])
      have hflags : r'.flags = r.flags := by
        split at h
        · exact flags_await h
        · exact flags_attach h
        · exact flags_attach h
      rw [hflags, List.takeWhile_cons_of_neg (by simp [hswitch])]
      simp

/-- A name sets its flag, if nothing is attached to it. -/
theorem mem_flags_named (hflag : flag.slot? = none) (h : r.named s = .ok r') :
    flag ∈ r'.flags ↔ flag ∈ r.flags ∨ s = flag.long.toList := by
  unfold named at h
  cases hcut : cutAt '=' s with
  | some parts =>
    -- a value is attached, so the flag that is named takes one
    have hne : s ≠ flag.long.toList := by
      rintro rfl
      rw [cutAt_eq_none_iff.2 flag.not_mem_long] at hcut
      exact absurd hcut (by simp)
    have hflags : r'.flags = r.flags := by
      simp only [hcut] at h
      split at h
      · exact absurd h (by simp)
      · split at h
        · exact flags_attach h
        · simp_all
        · exact absurd h (by simp)
        · simp_all
    rw [hflags]
    simp [hne]
  | none =>
    simp only [hcut] at h
    split at h
    · exact absurd h (by simp)
    next other hfound =>
    have hname : other.long.toList = s := by simpa using List.find?_some hfound
    have hsame : s = flag.long.toList ↔ other = flag := by
      rw [← hname, String.toList_inj, Flag.long_injective.eq_iff]
    rw [hsame]
    split at h
    · simp_all
    · next slot hslot _ =>
      have hne : other ≠ flag := by
        rintro rfl
        rw [hflag] at hslot
        exact absurd hslot (by simp)
      rw [flags_await h]
      simp [hne]
    · simp_all
    · rw [flags_raise h, List.mem_cons, or_comm, eq_comm]

/-- A word adds the flags that it raises. -/
theorem mem_flags_word (hflag : flag.slot? = none) (h : r.word w = .ok r') :
    flag ∈ r'.flags ↔ flag ∈ r.flags ∨ flag.isRaisedBy w = true := by
  unfold word at h
  split at h
  · rw [mem_flags_named hflag h, Flag.isRaisedBy, beq_iff_eq]
  · next c s hc =>
    rw [mem_flags_letters h, Flag.isRaisedBy, List.contains_iff_mem]
    simpa using hc
  · next hlong hshort =>
    have hraised : flag.isRaisedBy w = false := by
      unfold Flag.isRaisedBy
      split
      · next s => exact absurd rfl (hlong s)
      · next s _ =>
        cases s with
        | nil => rfl
        | cons c s => exact absurd rfl (hshort c s)
      · rfl
    rw [flags_plain h, hraised]
    simp

/-- The flags after all words are those that words before the first `--` raise. -/
theorem mem_flags_words (hflag : flag.slot? = none) (h : r.words ws = .ok r') :
    flag ∈ r'.flags ↔
      flag ∈ r.flags ∨ ∃ w ∈ ws.takeWhile (· ≠ ['-', '-']), flag.isRaisedBy w = true := by
  induction ws generalizing r with
  | nil => simp [flags_settle h]
  | cons w ws ih =>
    rw [words] at h
    split at h
    · next hw =>
      obtain ⟨q, hq, h⟩ := bind_eq_ok_iff.1 h
      rw [flags_settle h, flags_positions hq, List.takeWhile_cons_of_neg (by simp [hw])]
      simp
    · next hw =>
      obtain ⟨q, hq, h⟩ := bind_eq_ok_iff.1 h
      rw [ih h, mem_flags_word hflag hq, List.takeWhile_cons_of_pos (by simp [hw]), or_assoc]
      simp

end Reading

/-- A word before the first `--`, as an argument or as characters. -/
theorem map_takeWhile_dashes (arguments : List String) :
    (arguments.map String.toList).takeWhile (· ≠ ['-', '-'])
      = (arguments.takeWhile (· ≠ "--")).map String.toList := by
  have hend : ((fun w : List Char => decide (w ≠ ['-', '-'])) ∘ String.toList)
      = fun w : String => decide (w ≠ "--") := by
    funext w
    have hiff : w.toList = "--".toList ↔ w = "--" := String.toList_inj
    rw [show "--".toList = ['-', '-'] from rfl] at hiff
    simp only [Function.comp_apply, ne_eq, hiff]
  rw [List.takeWhile_map, hend]

/-- A flag was read if and only if a word before the first `--` raises it. -/
theorem mem_flags_iff {arguments : List String} (hflag : flag.slot? = none)
    (h : Reading.words {} (arguments.map String.toList) = .ok r) :
    flag ∈ r.flags ↔ ∃ w ∈ arguments.takeWhile (· ≠ "--"), flag.isRaisedBy w.toList = true := by
  rw [Reading.mem_flags_words hflag h, map_takeWhile_dashes]
  constructor
  · rintro (hmem | ⟨_, hmem, hraised⟩)
    · exact absurd hmem List.not_mem_nil
    · obtain ⟨w, hw, rfl⟩ := List.mem_map.1 hmem
      exact ⟨w, hw, hraised⟩
  · rintro ⟨w, hw, hraised⟩
    exact .inr ⟨w.toList, List.mem_map_of_mem hw, hraised⟩

/-- Options come from what was read. -/
theorem Options.parse_eq_ok_iff {arguments : List String} {o : Options} :
    Options.parse arguments = .ok o ↔
      ∃ r, Reading.words {} (arguments.map String.toList) = .ok r ∧ Options.ofReading r = o := by
  rw [Options.parse]
  cases Reading.words {} (arguments.map String.toList) with
  | error e => simp [Except.map]
  | ok r => simp [Except.map]

end CommitStamp.CommandLine
