import CommitStamp.Proofs.Config.Values
/-!
# Documents of sections are read as they were written

A written document is a sequence of sections with empty lines between them, and a section is a
header followed by settings. `Document.read?_lines` says that it is read as the table of these
sections. The reader takes statement after statement, and what it has read before a statement is
always the tables of whole sections and a part of one more (`Document.upTo`); a header and a
setting each add one entry to it.
-/

namespace CommitStamp.Toml

open Text

variable {c : Char} {s r : List Char} {k : Key} {v : Value} {es ts : List (Key × Value)}
  {m n : Nat}

/-! ## Entries -/

theorem lookup_of_not_mem (hk : k ∉ es.map Prod.fst) : es.lookup k = none := by
  rw [List.lookup_eq_none_iff]
  intro e he
  have hne : k ≠ e.1 := fun heq => hk (heq ▸ List.mem_map_of_mem he)
  simpa using hne

theorem lookup_append_self (hk : k ∉ es.map Prod.fst) : (es ++ [(k, v)]).lookup k = some v := by
  rw [List.lookup_append, lookup_of_not_mem hk, Option.none_or, List.lookup_cons_self]

/-- Among entries of distinct keys, the ones before an entry have other keys. -/
theorem not_mem_of_nodup {e : Key × Value} {fs : List (Key × Value)}
    (h : ((es ++ e :: fs).map Prod.fst).Nodup) : e.1 ∉ es.map Prod.fst := by
  intro hmem
  rw [List.map_append, List.nodup_append] at h
  exact h.2.2 _ hmem _ (List.mem_map_of_mem List.mem_cons_self) rfl

theorem lookup_of_mem (hes : (es.map Prod.fst).Nodup) (he : (k, v) ∈ es) :
    es.lookup k = some v := by
  obtain ⟨fs, gs, rfl⟩ := List.append_of_mem he
  have hk : k ∉ fs.map Prod.fst := not_mem_of_nodup hes
  rw [List.lookup_append, lookup_of_not_mem hk, Option.none_or, List.lookup_cons_self]

theorem putEntry_of_not_mem (hk : k ∉ es.map Prod.fst) (v : Value) :
    Table.putEntry k v es = es ++ [(k, v)] := by
  induction es with
  | nil => rfl
  | cons e es ih =>
    rw [List.map_cons, List.mem_cons, not_or] at hk
    rw [Table.putEntry, if_neg (Ne.symm hk.1), ih hk.2]
    rfl

theorem putEntry_append_self (hk : k ∉ es.map Prod.fst) (v w : Value) :
    Table.putEntry k v (es ++ [(k, w)]) = es ++ [(k, v)] := by
  induction es with
  | nil => exact if_pos rfl
  | cons e es ih =>
    rw [List.map_cons, List.mem_cons, not_or] at hk
    rw [List.cons_append, Table.putEntry, if_neg (Ne.symm hk.1), ih hk.2]
    rfl

/-! ## Names -/

/-- A name that is a key without quotes. -/
structure IsBare (name : Key) : Prop where
  ne_nil : name ≠ []
  all : name.all isKeyChar = true

instance (name : Key) : Decidable (IsBare name) :=
  decidable_of_iff (name ≠ [] ∧ name.all isKeyChar = true)
    ⟨fun h => ⟨h.1, h.2⟩, fun h => ⟨h.ne_nil, h.all⟩⟩

theorem IsBare.isKeyChar_of_mem (hk : IsBare k) (hc : c ∈ k) : isKeyChar c = true :=
  List.all_eq_true.1 hk.all c hc

theorem IsBare.exists_cons (hk : IsBare k) : ∃ c t, k = c :: t ∧ isKeyChar c = true := by
  obtain ⟨c, t, rfl⟩ := List.exists_cons_of_ne_nil hk.ne_nil
  exact ⟨c, t, rfl, hk.isKeyChar_of_mem List.mem_cons_self⟩

theorem ne_of_isKeyChar {d : Char} (hc : isKeyChar c = true) (hd : isKeyChar d = false) :
    c ≠ d := by
  rintro rfl
  rw [hc] at hd
  exact absurd hd (by simp)

theorem keyPart?_bare (hk : IsBare k) (hr : ∀ c ∈ r.head?, isKeyChar c = false) :
    keyPart? (k ++ r) = some (k, r) := by
  have htake : (k ++ r).takeWhile isKeyChar = k := by
    rw [List.takeWhile_append_of_pos fun _ => hk.isKeyChar_of_mem]
    cases r with
    | nil => exact List.append_nil k
    | cons d r => rw [List.takeWhile_cons_of_neg (by simp [hr d rfl]), List.append_nil]
  obtain ⟨c, t, heq, hc⟩ := hk.exists_cons
  have hquote : c ≠ '"' := ne_of_isKeyChar hc (by decide)
  have hquote' : c ≠ '\'' := ne_of_isKeyChar hc (by decide)
  have hpart : keyPart? (k ++ r) = if (k ++ r).takeWhile isKeyChar = [] then none
      else some ((k ++ r).takeWhile isKeyChar,
        (k ++ r).drop ((k ++ r).takeWhile isKeyChar).length) := by
    rw [heq, List.cons_append, keyPart?.eq_3 _ (by simp_all) (by simp_all)]
  rw [hpart, htake, if_neg hk.ne_nil, List.drop_left]

/-- A name is read as a key of one part, unless a dot follows. -/
theorem key?_bare (hk : IsBare k) (hr : ∀ c ∈ r.head?, isKeyChar c = false)
    (hdot : (r.dropWhile isBlank).head? ≠ some '.') :
    key? (k ++ r) = some ([], k, r.dropWhile isBlank) := by
  show keyParts? (79 + 1) (k ++ r) = _
  rw [keyParts?, keyPart?_bare hk hr]
  simp only [Option.bind_eq_bind, Option.bind_some]
  split
  · next heq => exact absurd (congrArg List.head? heq) hdot
  · rfl

/-! ## Statements -/

namespace Document

variable {d : Document} {name : String} {t : List Char}

theorem statements?_nil (n m : Nat) (d : Document) : statements? n (m + 1) d [] = some d :=
  rfl

/-- An empty line before a statement is skipped. -/
theorem statements?_newline (n m : Nat) (d : Document) (s : List Char) :
    statements? n m d ('\n' :: s) = statements? n m d s := by
  cases m with
  | zero => rfl
  | succ m => simp only [statements?, skip?_newline]

theorem statements?_cons (hc : c ∉ ['#', ' ', '\t', '\r', '\n']) :
    statements? n (m + 1) d (c :: s) = (d.statement? n (c :: s)).bind fun (d, r) =>
      (afterStatement? r).bind (statements? n m d) := by
  rw [statements?, skip?_of_start hc]
  rfl

/-- The value of a setting is given to its name. -/
theorem statement?_setting (hname : IsBare name.toList) (hv : Writes t v)
    (hn : t.length < n) :
    d.statement? n (Config.writeSetting name t ++ r)
      = (d.assign? [] name.toList v).map (·, '\n' :: r) := by
  have hsetting : Config.writeSetting name t ++ r
      = name.toList ++ ' ' :: '=' :: ' ' :: (t ++ '\n' :: r) := by
    simp [Config.writeSetting]
  have hkey : key? (name.toList ++ ' ' :: '=' :: ' ' :: (t ++ '\n' :: r))
      = some ([], name.toList, '=' :: ' ' :: (t ++ '\n' :: r)) :=
    key?_bare hname (by simp; decide) (by simp +decide)
  have hblank : (' ' :: (t ++ '\n' :: r)).dropWhile isBlank = t ++ '\n' :: r := by
    rw [List.dropWhile_cons_of_pos (by decide)]
    cases t with
    | nil => exact List.dropWhile_cons_of_neg (by decide)
    | cons c u => exact List.dropWhile_cons_of_neg (by simp [hv.head_not_blank c rfl])
  have hpair : pair? (fun s => some (s.dropWhile isBlank)) (value? n nestingLimit)
      (name.toList ++ ' ' :: '=' :: ' ' :: (t ++ '\n' :: r))
        = some (([], name.toList, v), '\n' :: r) := by
    have hequals : ('=' :: ' ' :: (t ++ '\n' :: r)).dropWhile isBlank
        = '=' :: ' ' :: (t ++ '\n' :: r) := List.dropWhile_cons_of_neg (by decide)
    simp only [pair?, hkey, Option.bind_eq_bind, Option.bind_some, hequals, after?, if_true,
      hblank, hv.value?_append n r hn, Option.pure_def]
  obtain ⟨c, u, heq, hc⟩ := hname.exists_cons
  have hbracket : c ≠ '[' := ne_of_isKeyChar hc (by decide)
  rw [hsetting, statement?.eq_3 _ _ _ (by simp_all) (by simp_all), hpair]
  simp only [Option.bind_eq_bind, Option.bind_some, Option.map_eq_bind]
  rfl

theorem statements?_setting (hname : IsBare name.toList) (hv : Writes t v)
    (hn : t.length < n) :
    statements? n (m + 1) d (Config.writeSetting name t ++ r)
      = (d.assign? [] name.toList v).bind (statements? n m · r) := by
  have hstatement := statement?_setting (d := d) (r := r) hname hv hn
  obtain ⟨c, u, heq, hc⟩ := hname.exists_cons
  have hstart : c ∉ ['#', ' ', '\t', '\r', '\n'] := by
    intro hmem
    have hnone : ['#', ' ', '\t', '\r', '\n'].any isKeyChar = false := by decide
    exact List.any_eq_false.1 hnone c hmem hc
  obtain ⟨w, hw⟩ : ∃ w, Config.writeSetting name t ++ r = c :: w := by
    simp [Config.writeSetting, heq]
  rw [hw] at hstatement ⊢
  rw [statements?_cons hstart, hstatement]
  cases d.assign? [] name.toList v <;> rfl

/-- A header opens the table with its name. -/
theorem statements?_header (hname : IsBare name.toList) :
    statements? n (m + 1) d (Config.writeHeader name ++ r)
      = (d.openTable? [] name.toList).bind (statements? n m · r) := by
  have hheader : Config.writeHeader name ++ r = '[' :: (name.toList ++ ']' :: '\n' :: r) := by
    simp [Config.writeHeader]
  have hkey : key? (name.toList ++ ']' :: '\n' :: r) = some ([], name.toList, ']' :: '\n' :: r) :=
    key?_bare hname (by simp; decide) (by simp +decide)
  obtain ⟨c, u, heq, hc⟩ := hname.exists_cons
  have hbracket : c ≠ '[' := ne_of_isKeyChar hc (by decide)
  have hblank : (name.toList ++ ']' :: '\n' :: r).dropWhile isBlank
      = name.toList ++ ']' :: '\n' :: r := by
    have hc' : isBlank c = false := by
      have hne := fun d hd => ne_of_isKeyChar (d := d) hc hd
      simp [isBlank, hne ' ' (by decide), hne '\t' (by decide), hne '\r' (by decide)]
    rw [heq]
    exact List.dropWhile_cons_of_neg (by simp [hc'])
  rw [hheader, statements?_cons (by decide), statement?.eq_2 _ _ _ (by simp_all), hblank, hkey]
  simp only [Option.bind_eq_bind, Option.bind_some, after?, if_true]
  cases d.openTable? [] name.toList <;> rfl

/-! ## Sections -/

/-- What is read after whole sections and a part of one more. -/
def upTo (es : List (Key × Value)) (k : Key) (ts : List (Key × Value)) : Document :=
  ⟨.of .header (es ++ [(k, .table (.of .header ts))]), [k]⟩

/-- A header adds a section in which nothing is set. -/
theorem openTable?_eq_upTo (hk : k ∉ es.map Prod.fst) (current : List Key) :
    openTable? ⟨.of .header es, current⟩ [] k = some (upTo es k []) := by
  have hget : (Table.of .header es).get? k = none := lookup_of_not_mem hk
  have hput : (Table.of .header es).put k (.table (.of .header []))
      = .of .header (es ++ [(k, .table (.of .header []))]) :=
    congrArg (Table.of .header) (putEntry_of_not_mem hk _)
  simp only [openTable?, Table.openTable, Table.atHeader, Table.within, hget, hput]
  rfl

/-- A setting adds an entry to the last section. -/
theorem assign?_upTo (hk : k ∉ es.map Prod.fst) {l : Key} (hl : l ∉ ts.map Prod.fst) (v : Value) :
    (upTo es k ts).assign? [] l v = some (upTo es k (ts ++ [(l, v)])) := by
  have hget : (Table.of .header (es ++ [(k, .table (.of .header ts))])).get? k
      = some (.table (.of .header ts)) := lookup_append_self hk
  have hassign : Table.assign [] l v (.of .header ts) = some (.of .header (ts ++ [(l, v)])) := by
    have hnone : (Table.of .header ts).get? l = none := lookup_of_not_mem hl
    have hput : (Table.of .header ts).put l v = .of .header (ts ++ [(l, v)]) :=
      congrArg (Table.of .header) (putEntry_of_not_mem hl v)
    simp [Table.assign, Table.within, hnone, hput]
  have hput := putEntry_append_self hk (.table (.of .header (ts ++ [(l, v)])))
    (.table (.of .header ts))
  simp only [assign?, upTo, Table.within, hget, Table.withOrigin, Table.origin, Table.entries,
    hassign, Option.map_some, Table.put, hput]

end Document

/-- A setting as it is written, and the value that it has. -/
structure WrittenSetting where
  name : String
  text : List Char
  value : Value
  isBare : IsBare name.toList
  writes : Writes text value
  isReadable : value.isReadable = true

/-- The line of the setting. -/
def WrittenSetting.line (a : WrittenSetting) : List Char :=
  Config.writeSetting a.name a.text

/-- The entry for the setting. -/
def WrittenSetting.entry (a : WrittenSetting) : Key × Value :=
  (a.name.toList, a.value)

/-- A section as it is written: its name, and its settings, none of which is made twice. -/
structure WrittenSection where
  name : String
  settings : List WrittenSetting
  isBare : IsBare name.toList
  nodup : (settings.map WrittenSetting.name).Nodup

theorem nodup_toList {names : List String} (h : names.Nodup) :
    (names.map String.toList).Nodup :=
  List.Pairwise.map _ (fun _ _ hne heq => hne (String.toList_inj.1 heq)) h

theorem WrittenSection.nodup_keys (a : WrittenSection) :
    ((a.settings.map WrittenSetting.entry).map Prod.fst).Nodup := by
  have hnodup := nodup_toList a.nodup
  rwa [List.map_map] at hnodup ⊢

/-- The lines of the section. -/
def WrittenSection.lines (a : WrittenSection) : List Char :=
  Config.writeHeader a.name ++ a.settings.flatMap WrittenSetting.line

/-- The entry for the section. -/
def WrittenSection.entry (a : WrittenSection) : Key × Value :=
  (a.name.toList, .table (.of .header (a.settings.map WrittenSetting.entry)))

theorem nodup_keys {sections : List WrittenSection}
    (h : (sections.map WrittenSection.name).Nodup) :
    ((sections.map WrittenSection.entry).map Prod.fst).Nodup := by
  have hnodup := nodup_toList h
  rwa [List.map_map] at hnodup ⊢

namespace Document

theorem statements?_settings (settings : List WrittenSetting) (hk : k ∉ es.map Prod.fst)
    (hnodup : ((ts ++ settings.map WrittenSetting.entry).map Prod.fst).Nodup)
    (hn : (settings.flatMap WrittenSetting.line).length ≤ n) :
    statements? n (m + settings.length) (upTo es k ts)
        (settings.flatMap WrittenSetting.line ++ r)
      = statements? n m (upTo es k (ts ++ settings.map WrittenSetting.entry)) r := by
  induction settings generalizing ts with
  | nil => simp
  | cons a settings ih =>
    have hmem : a.name.toList ∉ ts.map Prod.fst := not_mem_of_nodup hnodup
    rw [List.flatMap_cons, List.length_append] at hn
    have hline : a.text.length < a.line.length := by
      simp only [WrittenSetting.line, Config.writeSetting, List.length_append, List.length_cons]
      omega
    rw [List.map_cons, List.append_cons] at hnodup ⊢
    rw [List.flatMap_cons, List.append_assoc, List.length_cons, ← Nat.add_assoc,
      WrittenSetting.line, statements?_setting a.isBare a.writes (by omega), assign?_upTo hk hmem,
      Option.bind_some]
    exact ih hnodup (by omega)

theorem statements?_section (a : WrittenSection) (ha : a.name.toList ∉ es.map Prod.fst)
    (hn : a.lines.length ≤ n) (current : List Key) :
    statements? n (m + (a.settings.length + 1)) ⟨.of .header es, current⟩ (a.lines ++ r)
      = statements? n m ⟨.of .header (es ++ [a.entry]), [a.name.toList]⟩ r := by
  rw [WrittenSection.lines, List.length_append] at hn
  rw [WrittenSection.lines, List.append_assoc, ← Nat.add_assoc, statements?_header a.isBare,
    openTable?_eq_upTo ha, Option.bind_some,
    statements?_settings _ ha a.nodup_keys (by omega)]
  rfl

theorem length_le_length_settings (settings : List WrittenSetting) :
    settings.length ≤ (settings.flatMap WrittenSetting.line).length := by
  induction settings with
  | nil => exact Nat.le_refl 0
  | cons b settings ih =>
    have hline : 0 < b.line.length :=
      List.length_pos_iff.2 (by simp [WrittenSetting.line, Config.writeSetting])
    rw [List.flatMap_cons, List.length_append, List.length_cons]
    omega

/-- Every statement takes a line. -/
theorem length_settings_lt_length_lines (a : WrittenSection) :
    a.settings.length < a.lines.length := by
  have hsettings := length_le_length_settings a.settings
  rw [WrittenSection.lines, List.length_append, Config.writeHeader, List.length_cons]
  omega

/-- Sections are read one after the other. -/
theorem statements?_sections (sections : List WrittenSection)
    (hnodup : ((es ++ sections.map WrittenSection.entry).map Prod.fst).Nodup)
    (hn : (sections.flatMap fun a => '\n' :: a.lines).length ≤ n)
    (hm : (sections.flatMap fun a => '\n' :: a.lines).length ≤ m) (hpos : 0 < m)
    (current : List Key) :
    (statements? n m ⟨.of .header es, current⟩ (sections.flatMap fun a => '\n' :: a.lines)).map
        Document.root
      = some (.of .header (es ++ sections.map WrittenSection.entry)) := by
  induction sections generalizing es m current with
  | nil =>
    obtain ⟨m, rfl⟩ := Nat.exists_eq_succ_of_ne_zero (Nat.ne_of_gt hpos)
    simp [statements?_nil]
  | cons a sections ih =>
    have hmem : a.name.toList ∉ es.map Prod.fst := not_mem_of_nodup hnodup
    rw [List.flatMap_cons, List.length_append, List.length_cons] at hn hm
    -- a section has fewer statements than it takes characters, with the empty line before it
    have hcount := length_settings_lt_length_lines a
    obtain ⟨m, rfl⟩ : ∃ m', m = m' + (a.settings.length + 1) :=
      Nat.exists_eq_add_of_le' (by omega)
    rw [List.map_cons, List.append_cons] at hnodup
    rw [List.flatMap_cons, List.cons_append, statements?_newline,
      statements?_section a hmem (by omega), List.map_cons,
      List.append_cons es a.entry (sections.map WrittenSection.entry)]
    exact ih (m := m) hnodup (by omega) (by omega) (by omega) _

/-! ## Documents -/

theorem hasLoneReturn_of_not_mem (hs : '\r' ∉ s) : hasLoneReturn s = false := by
  induction s with
  | nil => rfl
  | cons c s ih =>
    rw [List.mem_cons, not_or] at hs
    rw [hasLoneReturn.eq_3 _ _ (fun _ heq _ => hs.1 heq.symm), ih hs.2]
    simp [Ne.symm hs.1]

theorem return_not_mem_of_isBare (hk : IsBare k) : '\r' ∉ k :=
  fun hmem => absurd (hk.isKeyChar_of_mem hmem) (by decide)

theorem return_not_mem_lines (a : WrittenSection) : '\r' ∉ a.lines := by
  rw [WrittenSection.lines, Config.writeHeader, List.mem_append, List.mem_flatMap]
  rintro (hmem | ⟨b, -, hmem⟩)
  · simp [return_not_mem_of_isBare a.isBare] at hmem
  · simp [WrittenSetting.line, Config.writeSetting, return_not_mem_of_isBare b.isBare,
      b.writes.return_not_mem] at hmem

/-- Sections with empty lines between them are read as the table of these sections. -/
theorem read?_lines (first : WrittenSection) (rest : List WrittenSection)
    (hnodup : ((first :: rest).map WrittenSection.name).Nodup) :
    read? (first.lines ++ rest.flatMap fun a => '\n' :: a.lines)
      = some (.of .header ((first :: rest).map WrittenSection.entry)) := by
  have hreturn : '\r' ∉ first.lines ++ rest.flatMap fun a => '\n' :: a.lines := by
    simp [return_not_mem_lines]
  have hmark : (first.lines ++ rest.flatMap fun a => '\n' :: a.lines).head? ≠ some '\ufeff' := by
    simp [WrittenSection.lines, Config.writeHeader]
  have hlength : ((first :: rest).flatMap fun a => '\n' :: a.lines).length
      = (first.lines ++ rest.flatMap fun a => '\n' :: a.lines).length + 1 := rfl
  have hkeys : (([] ++ (first :: rest).map WrittenSection.entry).map Prod.fst).Nodup :=
    nodup_keys hnodup
  have hrun := statements?_sections (first :: rest) hkeys (Nat.le_of_eq hlength)
    (Nat.le_of_eq hlength) (Nat.succ_pos _) []
  rw [List.flatMap_cons, List.cons_append, statements?_newline] at hrun
  rw [read?, if_neg hmark]
  simp only [hasLoneReturn_of_not_mem hreturn, Bool.false_eq_true, if_false]
  exact hrun

end Document

end CommitStamp.Toml
