import Mathlib.Data.List.Nodup
import Toolsmith.Completion.Catalogue
import Toolsmith.Proofs.Flag.Reading
/-!
# What a catalogue knows

A catalogue keeps the facts on commands and flags in six places, the facts on a flag under a key
made of two names.  Entering commands one after another leaves in each place one row for every
command, or for every flag (`Records.foldl_enter`).  No two keys are the same, since the name of
a command has no colon (`flagKey_inj`); so each fact is found again, and the flags of a command
are told from those of all others by the beginning of their keys (`Records.flagNames`).
-/

namespace Toolsmith

namespace Catalogue

/-! ## 1. Entries -/

structure Entry where
  name : String
  description : String
  flags : List Flag

def enter (c : Catalogue) (e : Entry) : Catalogue :=
  e.flags.foldl (fun c flag => c.addFlag e.name flag) (c.addCommand e.name e.description)

def builtinEntries : List Entry :=
  Builtin.all.map fun b =>
    ⟨b.name, b.summary, if b.name = Flag.shellFlag.scope then [Flag.shellFlag] else []⟩

/-- Entries that can be told apart: the names of the commands differ and have no colon, and so do
the long names of the flags of one command. -/
structure Listed (entries : List Entry) : Prop where
  nodup : (entries.map Entry.name).Nodup
  plain : ∀ e ∈ entries, ':' ∉ e.name.toList
  longs : ∀ e ∈ entries, (e.flags.map Flag.long).Nodup

/-- A row for each flag of each command, with one fact on the flag. -/
def flagRows (fact : Flag → String) (entries : List Entry) : List (String × String) :=
  entries.flatMap fun e => e.flags.map fun flag => (flagKey e.name flag.long, fact flag)

/-- A catalogue that knows some entries and nothing else. -/
structure Records (c : Catalogue) (entries : List Entry) : Prop where
  commands : c.commands = entries.map Entry.name
  descriptions : c.descriptions.rows = entries.map fun e => (e.name, e.description)
  commandFlags : c.commandFlags.rows =
    entries.map fun e => (e.name, e.flags.flatMap Flag.spellings)
  flagTypes : c.flagTypes.rows = flagRows Flag.type entries
  flagHelp : c.flagHelp.rows = flagRows Flag.help entries
  flagShorts : c.flagShorts.rows = (flagRows Flag.short entries).filter fun row => row.2 ≠ ""
  globalFlags : c.globalFlags = Flag.builtins

theorem listed_builtinEntries : Listed builtinEntries where
  nodup := by decide
  plain := by decide
  longs := by decide

theorem records_withBuiltins : Records withBuiltins builtinEntries := by
  constructor <;> rfl

theorem Listed.left {front back : List Entry} (h : Listed (front ++ back)) : Listed front where
  nodup := by
    have nodup := h.nodup
    rw [List.map_append] at nodup
    exact nodup.of_append_left
  plain := fun e he => h.plain e (List.mem_append_left _ he)
  longs := fun e he => h.longs e (List.mem_append_left _ he)

theorem Listed.shrink {front : List Entry} {name description : String} {flags more : List Flag}
    (h : Listed (front ++ [⟨name, description, flags ++ more⟩])) :
    Listed (front ++ [⟨name, description, flags⟩]) where
  nodup := by
    have nodup := h.nodup
    rwa [List.map_append] at nodup ⊢
  plain := by
    intro e he
    rcases List.mem_append.mp he with older | last
    · exact h.plain e (List.mem_append_left _ older)
    · obtain rfl := List.mem_singleton.mp last
      exact h.plain ⟨name, description, flags ++ more⟩
        (List.mem_append_right _ List.mem_cons_self)
  longs := by
    intro e he
    rcases List.mem_append.mp he with older | last
    · exact h.longs e (List.mem_append_left _ older)
    · obtain rfl := List.mem_singleton.mp last
      have longs := h.longs _ (List.mem_append_right _ List.mem_cons_self)
      rw [List.map_append] at longs
      exact longs.of_append_left

theorem Listed.eq_of_name_eq {entries : List Entry} (h : Listed entries) {e e' : Entry}
    (he : e ∈ entries) (he' : e' ∈ entries) (same : e.name = e'.name) : e = e' :=
  List.inj_on_of_nodup_map h.nodup he he' same

/-! ## 2. Keys -/

@[simp] theorem toList_flagKey (command long : String) :
    (flagKey command long).toList = command.toList ++ ':' :: long.toList := by
  unfold flagKey
  rw [String.toList_append, String.toList_append, List.append_assoc]
  rfl

section Keys

variable {command command' long long' : String} (plain : ':' ∉ command.toList)
  (plain' : ':' ∉ command'.toList)
include plain plain'

-- The first colon of a key ends the name of the command, whatever the flag is called.
theorem names_of_append_colon {rest rest' : List Char}
    (same : command.toList ++ ':' :: rest = command'.toList ++ ':' :: rest') :
    command = command' ∧ rest = rest' := by
  have cut := Text.cutChars_append plain rest
  rw [same, Text.cutChars_append plain' rest'] at cut
  obtain ⟨names, rests⟩ := Prod.mk.inj (Option.some.inj cut)
  exact ⟨(String.toList_inj.mp names).symm, rests.symm⟩

theorem flagKey_inj (same : flagKey command long = flagKey command' long') :
    command = command' ∧ long = long' := by
  rw [← String.toList_inj, toList_flagKey, toList_flagKey] at same
  obtain ⟨names, longs⟩ := names_of_append_colon plain plain' same
  exact ⟨names, String.toList_inj.mp longs⟩

/-- What follows the name of a command in a key is the flag if the key is one of that command,
and nothing if the command has another name, be it only longer. -/
theorem dropStart?_flagKey :
    Text.dropStart? (flagKey command' long) (flagKey command "") =
      if command' = command then some long else none := by
  have start : (flagKey command "").toList = command.toList ++ [':'] := toList_flagKey command ""
  unfold Text.dropStart? Text.startsWith
  rw [start, toList_flagKey]
  by_cases same : command' = command
  · subst same
    have apart : command'.toList ++ ':' :: long.toList =
        (command'.toList ++ [':']) ++ long.toList := by
      rw [List.append_assoc]
      rfl
    rw [if_pos rfl, apart, List.drop_left, String.ofList_toList]
    exact if_pos (List.isPrefixOf_iff_prefix.mpr (List.prefix_append _ _))
  · rw [if_neg same]
    refine if_neg ?_
    rw [List.isPrefixOf_iff_prefix]
    rintro ⟨rest, begins⟩
    rw [List.append_assoc] at begins
    exact same (names_of_append_colon plain plain' begins).1.symm

end Keys

/-! ## 3. Rows of flags -/

section Rows

variable {entries : List Entry} {fact : Flag → String} {e : Entry} {flag : Flag}

theorem mem_flagRows {row : String × String} :
    row ∈ flagRows fact entries ↔
      ∃ e ∈ entries, ∃ flag ∈ e.flags, (flagKey e.name flag.long, fact flag) = row := by
  simp only [flagRows, List.mem_flatMap, List.mem_map]

theorem Listed.mem_flagRows_iff (h : Listed entries) (he : e ∈ entries) (hflag : flag ∈ e.flags)
    {value : String} :
    (flagKey e.name flag.long, value) ∈ flagRows fact entries ↔ fact flag = value := by
  rw [mem_flagRows]
  constructor
  · rintro ⟨e', he', flag', hflag', row⟩
    obtain ⟨key, rfl⟩ := Prod.mk.inj row
    obtain ⟨names, longs⟩ := flagKey_inj (h.plain e' he') (h.plain e he) key
    obtain rfl := h.eq_of_name_eq he' he names
    rw [List.inj_on_of_nodup_map (h.longs e' he') hflag' hflag longs]
  · rintro rfl
    exact ⟨e, he, flag, hflag, rfl⟩

theorem Listed.get?_of_flagRows (h : Listed entries) {t : Table String}
    (rows : t.rows = flagRows fact entries) (he : e ∈ entries) (hflag : flag ∈ e.flags) :
    t.get? (flagKey e.name flag.long) = some (fact flag) := by
  refine Table.get?_eq_some_of_unique ?_ ?_
  · rw [rows]
    exact (h.mem_flagRows_iff he hflag).mpr rfl
  · intro value hrow
    rw [rows] at hrow
    exact ((h.mem_flagRows_iff he hflag).mp hrow).symm

-- What stands under the names of the entries is found there.
theorem get?_of_rows {α : Type} {t : Table α} {fact : Entry → α}
    (nodup : (entries.map Entry.name).Nodup)
    (rows : t.rows = entries.map fun e => (e.name, fact e)) (he : e ∈ entries) :
    t.get? e.name = some (fact e) := by
  refine Table.get?_eq_some_of_unique ?_ ?_
  · rw [rows]
    exact List.mem_map_of_mem he
  · intro value hrow
    rw [rows] at hrow
    obtain ⟨e', he', row⟩ := List.mem_map.mp hrow
    obtain ⟨names, rfl⟩ := Prod.mk.inj row
    rw [List.inj_on_of_nodup_map nodup he' he names]

-- Of the entries with the name of one of them there is that one only.
theorem flatMap_own {α : Type} {facts : Entry → List α} (nodup : (entries.map Entry.name).Nodup)
    (he : e ∈ entries) :
    (entries.flatMap fun e' => if e'.name = e.name then facts e' else []) = facts e := by
  have others : ∀ e' ∈ entries, e' ≠ e → (if e'.name = e.name then facts e' else []) = [] := by
    intro e' he' other
    exact if_neg fun same => other (List.inj_on_of_nodup_map nodup he' he same)
  rw [flatMap_only (nodup.of_map _) he others, if_pos rfl]

@[simp] theorem flagRows_append (fact : Flag → String) (front back : List Entry) :
    flagRows fact (front ++ back) = flagRows fact front ++ flagRows fact back :=
  List.flatMap_append

end Rows

/-! ## 4. Entering -/

section Entering

variable {c : Catalogue} {entries : List Entry} {name description : String} {flag : Flag}
  {flags : List Flag}

theorem Records.addCommand (h : Records c entries) (fresh : name ∉ entries.map Entry.name) :
    Records (c.addCommand name description) (entries ++ [⟨name, description, []⟩]) := by
  have described : name ∉ c.descriptions.rows.map (·.1) := by
    rw [h.descriptions, List.map_map]
    exact fresh
  have flagged : name ∉ c.commandFlags.rows.map (·.1) := by
    rw [h.commandFlags, List.map_map]
    exact fresh
  have unknown : c.commandFlags.has name = false := by
    rw [Table.has, Table.get?_eq_none_of_not_mem flagged]
    rfl
  constructor
  case commands =>
    show c.commands ++ [name] = _
    rw [h.commands, List.map_append]
    rfl
  case descriptions =>
    show Table.putRow name description c.descriptions.rows = _
    rw [← List.append_nil c.descriptions.rows, Table.putRow_append described, h.descriptions,
      List.map_append]
    rfl
  case commandFlags =>
    show (if c.commandFlags.has name then c.commandFlags else c.commandFlags.put name []).rows = _
    rw [unknown, if_neg Bool.false_ne_true]
    show Table.putRow name [] c.commandFlags.rows = _
    rw [← List.append_nil c.commandFlags.rows, Table.putRow_append flagged, h.commandFlags,
      List.map_append]
    rfl
  case flagTypes => rw [flagRows_append]; exact h.flagTypes.trans (List.append_nil _).symm
  case flagHelp => rw [flagRows_append]; exact h.flagHelp.trans (List.append_nil _).symm
  case flagShorts =>
    rw [flagRows_append]
    exact h.flagShorts.trans (congrArg _ (List.append_nil _).symm)
  case globalFlags => exact h.globalFlags

-- One flag more for the command that was entered last.
theorem Records.addFlag (h : Records c (entries ++ [⟨name, description, flags⟩]))
    (listed : Listed (entries ++ [⟨name, description, flags ++ [flag]⟩])) :
    Records (c.addFlag name flag) (entries ++ [⟨name, description, flags ++ [flag]⟩]) := by
  let last : Entry := ⟨name, description, flags ++ [flag]⟩
  have nodup := listed.nodup
  rw [List.map_append, List.map_singleton, List.nodup_append] at nodup
  have others : name ∉ entries.map Entry.name :=
    fun older => nodup.2.2 name older name List.mem_cons_self rfl
  have longs : flag.long ∉ flags.map Flag.long := by
    have nodup := listed.longs last (List.mem_append_right _ List.mem_cons_self)
    rw [List.map_append, List.map_singleton, List.nodup_append] at nodup
    exact fun older => nodup.2.2 flag.long older flag.long List.mem_cons_self rfl
  have plain : ':' ∉ name.toList := listed.plain last (List.mem_append_right _ List.mem_cons_self)
  -- A row with the key of the new flag would be one of its command and of its name.
  have fresh : ∀ fact, flagKey name flag.long ∉
      (flagRows fact (entries ++ [⟨name, description, flags⟩])).map (·.1) := by
    intro fact hkey
    obtain ⟨row, hrow, key⟩ := List.mem_map.mp hkey
    obtain ⟨e, he, flag', hflag', rfl⟩ := mem_flagRows.mp hrow
    rcases List.mem_append.mp he with older | same
    · have plain' := listed.plain e (List.mem_append_left _ older)
      have names := (flagKey_inj plain' plain key).1
      exact others (names ▸ List.mem_map_of_mem older)
    · obtain rfl := List.mem_singleton.mp same
      have long := (flagKey_inj plain plain key).2
      exact longs (long ▸ List.mem_map_of_mem hflag')
  have grown : ∀ fact, flagRows fact (entries ++ [last]) =
      flagRows fact (entries ++ [⟨name, description, flags⟩]) ++
        [(flagKey name flag.long, fact flag)] := by
    intro fact
    simp [flagRows, last]
  have put : ∀ (fact : Flag → String) (t : Table String),
      t.rows = flagRows fact (entries ++ [⟨name, description, flags⟩]) →
      (t.put (flagKey name flag.long) (fact flag)).rows = flagRows fact (entries ++ [last]) := by
    intro fact t rows
    show Table.putRow _ _ t.rows = _
    rw [rows, ← List.append_nil (flagRows fact _), Table.putRow_append (fresh fact), grown]
    rfl
  constructor
  case commands => exact h.commands.trans (by simp)
  case descriptions => exact h.descriptions.trans (by simp)
  case commandFlags =>
    have known : c.commandFlags.get? name = some (flags.flatMap Flag.spellings) := by
      refine get?_of_rows ?_ h.commandFlags (List.mem_append_right _ List.mem_cons_self)
      rw [List.map_append, List.map_singleton]
      exact List.nodup_append.mpr nodup
    have passed : name ∉ (entries.map fun e => (e.name, e.flags.flatMap Flag.spellings)).map
        (·.1) := by
      rw [List.map_map]
      exact others
    show Table.putRow name ((c.commandFlags.get? name).getD [] ++ flag.spellings)
      c.commandFlags.rows = _
    rw [known, h.commandFlags, List.map_append, Table.putRow_append passed, List.map_append]
    simp [Table.putRow]
  case flagTypes => exact put Flag.type c.flagTypes h.flagTypes
  case flagHelp => exact put Flag.help c.flagHelp h.flagHelp
  case flagShorts =>
    rw [grown, List.filter_append]
    show (if flag.short = "" then c.flagShorts
      else c.flagShorts.put (flagKey name flag.long) flag.short).rows = _
    by_cases none : flag.short = ""
    · rw [if_pos none, h.flagShorts]
      simp [none]
    · have passed : flagKey name flag.long ∉ c.flagShorts.rows.map (·.1) := by
        rw [h.flagShorts]
        exact fun hkey => fresh Flag.short ((List.filter_sublist.map _).subset hkey)
      rw [if_neg none]
      show Table.putRow _ _ c.flagShorts.rows = _
      rw [← List.append_nil c.flagShorts.rows, Table.putRow_append passed, h.flagShorts]
      simp [none, Table.putRow]
  case globalFlags => exact h.globalFlags

-- The rest of the flags of the command that was entered last: the induction goes along the flags.
theorem Records.foldl_addFlag (h : Records c (entries ++ [⟨name, description, flags⟩])) :
    ∀ {more : List Flag}, Listed (entries ++ [⟨name, description, flags ++ more⟩]) →
      Records (more.foldl (fun c flag => c.addFlag name flag) c)
        (entries ++ [⟨name, description, flags ++ more⟩]) := by
  intro more listed
  induction more generalizing c flags with
  | nil =>
    rw [List.append_nil]
    exact h
  | cons flag more ih =>
    rw [List.append_cons flags] at listed ⊢
    exact ih (h.addFlag listed.shrink) listed

theorem Records.enter {e : Entry} (h : Records c entries) (listed : Listed (entries ++ [e])) :
    Records (c.enter e) (entries ++ [e]) := by
  have fresh : e.name ∉ entries.map Entry.name := by
    have nodup := listed.nodup
    rw [List.map_append, List.map_singleton, List.nodup_append] at nodup
    exact fun older => nodup.2.2 e.name older e.name List.mem_cons_self rfl
  exact (h.addCommand fresh).foldl_addFlag listed

/-- Entering commands leaves a row for each of them, and for each of their flags. -/
theorem Records.foldl_enter (h : Records c entries) :
    ∀ {more : List Entry}, Listed (entries ++ more) →
      Records (more.foldl Catalogue.enter c) (entries ++ more) := by
  intro more listed
  induction more generalizing c entries with
  | nil =>
    rw [List.append_nil]
    exact h
  | cons e more ih =>
    rw [List.append_cons entries] at listed ⊢
    exact ih (h.enter listed.left) listed

end Entering

/-! ## 5. Questions -/

section Questions

variable {c : Catalogue} {entries : List Entry} {e : Entry} {flag : Flag}
  (h : Records c entries) (listed : Listed entries) (he : e ∈ entries)
include h listed he

theorem Records.get?_descriptions : c.descriptions.get? e.name = some e.description :=
  get?_of_rows listed.nodup h.descriptions he

theorem Records.get?_commandFlags :
    c.commandFlags.get? e.name = some (e.flags.flatMap Flag.spellings) :=
  get?_of_rows listed.nodup h.commandFlags he

theorem Records.get?_flagTypes (hflag : flag ∈ e.flags) :
    c.flagTypes.get? (flagKey e.name flag.long) = some flag.type :=
  listed.get?_of_flagRows h.flagTypes he hflag

theorem Records.get?_flagHelp (hflag : flag ∈ e.flags) :
    c.flagHelp.get? (flagKey e.name flag.long) = some flag.help :=
  listed.get?_of_flagRows h.flagHelp he hflag

-- An empty short name has no row, and what is missing counts as empty.
theorem Records.get?_flagShorts (hflag : flag ∈ e.flags) :
    (c.flagShorts.get? (flagKey e.name flag.long)).getD "" = flag.short := by
  by_cases none : flag.short = ""
  · have absent : flagKey e.name flag.long ∉ c.flagShorts.keys := by
      intro hkey
      obtain ⟨⟨key, short⟩, hrow, rfl⟩ := List.mem_map.mp hkey
      rw [h.flagShorts, List.mem_filter, listed.mem_flagRows_iff he hflag] at hrow
      obtain ⟨rfl, some⟩ := hrow
      exact absurd none (of_decide_eq_true some)
    rw [Table.get?_eq_none_of_not_mem absent, none]
    rfl
  · have found : c.flagShorts.get? (flagKey e.name flag.long) = some flag.short := by
      refine Table.get?_eq_some_of_unique ?_ ?_
      · rw [h.flagShorts, List.mem_filter, listed.mem_flagRows_iff he hflag]
        exact ⟨rfl, decide_eq_true none⟩
      · intro short hrow
        rw [h.flagShorts, List.mem_filter, listed.mem_flagRows_iff he hflag] at hrow
        exact hrow.1.symm
    rw [found]
    rfl

/-- The flags of a command are found in the order of their entry, and no flag of another. -/
theorem Records.flagNames : c.flagNames e.name = e.flags.map Flag.long := by
  have picked : ∀ e' ∈ entries,
      (e'.flags.map fun flag => flagKey e'.name flag.long).filterMap
          (fun key => Text.dropStart? key (flagKey e.name "")) =
        if e'.name = e.name then e'.flags.map Flag.long else [] := by
    intro e' he'
    rw [List.filterMap_map]
    simp only [Function.comp_def, dropStart?_flagKey (listed.plain e he) (listed.plain e' he')]
    split
    · exact congrFun List.filterMap_eq_map _
    · exact List.filterMap_eq_nil_iff.mpr fun _ _ => rfl
  have keys : c.flagTypes.keys =
      entries.flatMap fun e' => e'.flags.map fun flag => flagKey e'.name flag.long := by
    show c.flagTypes.rows.map (·.1) = _
    rw [h.flagTypes]
    simp [flagRows, List.map_flatMap, Function.comp_def]
  unfold Catalogue.flagNames
  rw [keys, List.filterMap_flatMap, List.flatMap_congr picked]
  exact flatMap_own listed.nodup he

end Questions

end Catalogue

end Toolsmith
