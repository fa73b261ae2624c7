import CommitStamp.Config.Reader
import CommitStamp.Proofs.Config.Sections
/-!
# Configurations are read as they were written

`parse_toToml` says that the text of a configuration is read as this configuration if it is valid,
and refused with its fault if not. The document that a configuration writes is a sequence of
sections (`write_eq`), so it is read as their table, and every setting is found in that table
(`ofTable?_table`). In particular an empty list of roots does not come back as the default, and a
binary that is not set stays unset.
-/

namespace CommitStamp.Config

open Toml

/-! ## Settings -/

/-- A setting with a text. -/
def textSetting (name : String) (isBare : IsBare name.toList) (s : String) : WrittenSetting :=
  ⟨name, writeString s.toList, .string s.toList, isBare, writes_writeString _, rfl⟩

/-- A setting with a truth value. -/
def flagSetting (name : String) (isBare : IsBare name.toList) (b : Bool) : WrittenSetting :=
  ⟨name, writeFlag b, .boolean b, isBare, writes_writeFlag b, rfl⟩

/-- A setting with a number. -/
def numberSetting (name : String) (isBare : IsBare name.toList) (n : UInt64) : WrittenSetting :=
  ⟨name, Text.decimal 1 n.toNat, .integer n.toNat, isBare, writes_decimal n, rfl⟩

theorem isReadable_texts (all : List String) :
    (Value.array (all.map fun s => .string s.toList)).isReadable = true := by
  rw [Value.isReadable]
  induction all with
  | nil => rfl
  | cons s all ih => exact ih

/-- A setting with a list of texts. -/
def listSetting (name : String) (isBare : IsBare name.toList) (all : List String) :
    WrittenSetting :=
  ⟨name, writeList all, .array (all.map fun s => .string s.toList), isBare, writes_writeList all,
    isReadable_texts all⟩

/-! ## Sections -/

/-- The section on queries, as it is written. -/
def Resolver.written (r : Resolver) : WrittenSection where
  name := "resolver"
  settings :=
    [numberSetting "timeout_ms" (by decide) r.timeout, flagSetting "quiet" (by decide) r.quiet]
  isBare := by decide
  nodup := by
    show ["timeout_ms", "quiet"].Nodup
    decide

/-- The section on the search, as it is written. -/
def Locator.written (l : Locator) : WrittenSection where
  name := "locator"
  settings :=
    textSetting "binary_name" (by decide) l.binaryName
      :: (l.binary.toList.map (textSetting "binary" (by decide))
        ++ [flagSetting "use_path" (by decide) l.usePath,
          listSetting "fallback_roots" (by decide) l.fallbackRoots])
  isBare := by decide
  nodup := by
    cases l.binary with
    | none =>
      show ["binary_name", "use_path", "fallback_roots"].Nodup
      decide
    | some path =>
      show ["binary_name", "binary", "use_path", "fallback_roots"].Nodup
      decide

/-- A section with one text, as it is written. -/
def writtenText (title name : String) (htitle : IsBare title.toList) (hname : IsBare name.toList)
    (s : String) : WrittenSection where
  name := title
  settings := [textSetting name hname s]
  isBare := htitle
  nodup := List.nodup_cons.2 ⟨List.not_mem_nil, List.nodup_nil⟩

/-- The sections after the first one, as they are written. -/
def writtenRest (c : Config) : List WrittenSection :=
  [c.locator.written,
    writtenText "template" "default_format" (by decide) (by decide) c.defaultFormat,
    writtenText "logging" "level" (by decide) (by decide) c.logLevel]

/-- The table that a configuration writes. -/
def table (c : Config) : Table :=
  .of .header ((c.resolver.written :: c.writtenRest).map WrittenSection.entry)

theorem Resolver.lines_written (r : Resolver) : r.written.lines = r.write := by
  simp [WrittenSection.lines, WrittenSetting.line, written, write, numberSetting, flagSetting]

theorem Locator.lines_written (l : Locator) : l.written.lines = l.write := by
  cases h : l.binary <;>
    simp [WrittenSection.lines, WrittenSetting.line, written, write, textSetting, flagSetting,
      listSetting, h]

theorem lines_writtenText {title name : String} (htitle : IsBare title.toList)
    (hname : IsBare name.toList) (s : String) :
    (writtenText title name htitle hname s).lines
      = writeHeader title ++ writeSetting name (writeString s.toList) := by
  simp [WrittenSection.lines, WrittenSetting.line, writtenText, textSetting]

/-- The document of a configuration is its sections with empty lines between them. -/
theorem write_eq (c : Config) :
    c.write = c.resolver.written.lines ++ c.writtenRest.flatMap fun a => '\n' :: a.lines := by
  simp [write, writtenRest, Resolver.lines_written, Locator.lines_written, lines_writtenText]

theorem nodup_names (c : Config) :
    ((c.resolver.written :: c.writtenRest).map WrittenSection.name).Nodup := by
  show sectionNames.Nodup
  decide

theorem read?_write (c : Config) : Document.read? c.write = some c.table := by
  rw [write_eq]
  exact Document.read?_lines _ _ c.nodup_names

/-! ## Values are found again -/

@[simp] theorem settingD_some {α : Type} (read? : Value → Option α) (default : α) (v : Value) :
    settingD read? default (some v) = read? v :=
  rfl

@[simp] theorem text?_string (s : String) : text? (.string s.toList) = some s :=
  congrArg some String.ofList_toList

@[simp] theorem milliseconds?_integer (n : UInt64) : milliseconds? (.integer n.toNat) = some n := by
  have hlt : n.toNat < UInt64.size := n.toNat_lt_size
  rw [milliseconds?, if_pos (by omega), Int.toNat_natCast, UInt64.ofNat_toNat]

@[simp] theorem texts?_array (all : List String) :
    texts? (.array (all.map fun s => .string s.toList)) = some all := by
  induction all with
  | nil => rfl
  | cons s all ih =>
    rw [texts?] at ih
    rw [List.map_cons, texts?, List.mapM_cons, text?_string, ih]
    rfl

theorem entriesAreReadable_settings (settings : List WrittenSetting) :
    entriesAreReadable (settings.map WrittenSetting.entry) = true := by
  induction settings with
  | nil => rfl
  | cons a settings ih =>
    rw [List.map_cons, entriesAreReadable, ih, Bool.and_true]
    exact a.isReadable

/-- What is given for the setting with this name in a section that is written. -/
def given (a : WrittenSection) (_ : Nat) (name : String) : Option Value :=
  (a.settings.map WrittenSetting.entry).lookup name.toList

theorem settings?_entry (a : WrittenSection) : settings? a.entry.2 = some (given a) :=
  if_pos (entriesAreReadable_settings a.settings)

theorem given_of_mem {a : WrittenSection} {b : WrittenSetting} (hb : b ∈ a.settings) (i : Nat) :
    given a i b.name = some b.value :=
  lookup_of_mem a.nodup_keys (List.mem_map_of_mem hb)

theorem resolver?_written (r : Resolver) : resolver? r.written.entry.2 = some r := by
  have htimeout : given r.written 0 "timeout_ms" = some (.integer r.timeout.toNat) :=
    given_of_mem (b := numberSetting "timeout_ms" (by decide) r.timeout)
      (by simp [Resolver.written]) 0
  have hquiet : given r.written 1 "quiet" = some (.boolean r.quiet) :=
    given_of_mem (b := flagSetting "quiet" (by decide) r.quiet) (by simp [Resolver.written]) 1
  have hread : resolver? r.written.entry.2 = (settings? r.written.entry.2).bind fun given =>
      (settingD milliseconds? _ (given 0 "timeout_ms")).bind fun timeout =>
        (settingD flag? _ (given 1 "quiet")).bind fun quiet => some ⟨timeout, quiet⟩ := rfl
  rw [hread, settings?_entry, Option.bind_some, htimeout, hquiet, settingD_some,
    milliseconds?_integer]
  rfl

theorem given_binary (l : Locator) (i : Nat) :
    given l.written i "binary" = l.binary.map fun path => .string path.toList := by
  cases h : l.binary with
  | none =>
    apply lookup_of_not_mem
    simp [Locator.written, WrittenSetting.entry, textSetting, flagSetting, listSetting, h]
  | some path =>
    exact given_of_mem (b := textSetting "binary" (by decide) path)
      (by simp [Locator.written, h]) i

theorem locator?_written (l : Locator) : locator? l.written.entry.2 = some l := by
  have hname : given l.written 0 "binary_name" = some (.string l.binaryName.toList) :=
    given_of_mem (b := textSetting "binary_name" (by decide) l.binaryName)
      (by simp [Locator.written]) 0
  have hbinary : settingD (fun v => (text? v).map some) none (given l.written 1 "binary")
      = some l.binary := by
    rw [given_binary]
    cases l.binary with
    | none => rfl
    | some path => simp
  have hpath : given l.written 2 "use_path" = some (.boolean l.usePath) :=
    given_of_mem (b := flagSetting "use_path" (by decide) l.usePath) (by simp [Locator.written]) 2
  have hroots : given l.written 3 "fallback_roots"
      = some (.array (l.fallbackRoots.map fun s => .string s.toList)) :=
    given_of_mem (b := listSetting "fallback_roots" (by decide) l.fallbackRoots)
      (by simp [Locator.written]) 3
  simp only [locator?, settings?_entry, Option.bind_eq_bind, Option.bind_some, hname, hbinary,
    hpath, hroots, settingD_some, text?_string, texts?_array, flag?, Option.pure_def]

theorem onlyText?_written {title name : String} (htitle : IsBare title.toList)
    (hname : IsBare name.toList) (default s : String) :
    onlyText? name default (writtenText title name htitle hname s).entry.2 = some s := by
  have hgiven : given (writtenText title name htitle hname s) 0 name = some (.string s.toList) :=
    given_of_mem (b := textSetting name hname s) (by simp [writtenText]) 0
  rw [onlyText?, settings?_entry, Option.bind_eq_bind, Option.bind_some, hgiven, settingD_some,
    text?_string]

theorem restIsReadable_table (c : Config) : restIsReadable c.table = true := by
  have hknown : ∀ a ∈ c.resolver.written :: c.writtenRest, a.name ∈ sectionNames := by
    simp [writtenRest, Resolver.written, Locator.written, writtenText, sectionNames]
  rw [restIsReadable, List.all_eq_true]
  intro e he
  obtain ⟨a, ha, rfl⟩ := List.mem_map.1 he
  simp [WrittenSection.entry, hknown a ha]

/-- A section is found under its name. -/
theorem get?_table (c : Config) {a : WrittenSection}
    (ha : a ∈ c.resolver.written :: c.writtenRest) :
    c.table.get? a.name.toList = some a.entry.2 :=
  lookup_of_mem (nodup_keys c.nodup_names) (List.mem_map_of_mem ha)

/-- The configuration that a document holds is the one that wrote it. -/
theorem ofTable?_table (c : Config) : ofTable? c.table = some c := by
  have hresolver : c.table.get? "resolver".toList = some c.resolver.written.entry.2 :=
    c.get?_table (a := c.resolver.written) List.mem_cons_self
  have hlocator : c.table.get? "locator".toList = some c.locator.written.entry.2 :=
    c.get?_table (a := c.locator.written) (by simp [writtenRest])
  have htemplate : c.table.get? "template".toList
      = some (writtenText "template" "default_format" (by decide) (by decide)
          c.defaultFormat).entry.2 :=
    c.get?_table (a := writtenText "template" "default_format" _ _ _) (by simp [writtenRest])
  have hlogging : c.table.get? "logging".toList
      = some (writtenText "logging" "level" (by decide) (by decide) c.logLevel).entry.2 :=
    c.get?_table (a := writtenText "logging" "level" _ _ _) (by simp [writtenRest])
  have hread : ofTable? c.table = (guard (restIsReadable c.table) : Option Unit).bind fun _ =>
      (settingD resolver? _ (c.table.get? "resolver".toList)).bind fun resolver =>
      (settingD locator? _ (c.table.get? "locator".toList)).bind fun locator =>
      (settingD (onlyText? "default_format" _) _
        (c.table.get? "template".toList)).bind fun format =>
      (settingD (onlyText? "level" _) _ (c.table.get? "logging".toList)).bind fun level =>
        some ⟨resolver, locator, format, level⟩ := rfl
  rw [hread, restIsReadable_table, hresolver, hlocator, htemplate, hlogging]
  rw [settingD_some, settingD_some, settingD_some, settingD_some, resolver?_written,
    locator?_written, onlyText?_written, onlyText?_written]
  rfl

/-- The text of a configuration is read as this configuration, unless it is not valid: then its
fault is given. -/
theorem parse_toToml (c : Config) :
    parse c.toToml = match c.validate with
      | .ok _ => .ok c
      | .error fault => .error (.invalid fault) := by
  rw [parse, toToml, String.toList_ofList, read?_write, Option.bind_some, ofTable?_table]
  simp only [validate]
  cases c.fault? <;> rfl

end CommitStamp.Config
