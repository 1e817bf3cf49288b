import Toolsmith.Flag.Help
import Toolsmith.Proofs.Flag.Demand
import Toolsmith.Proofs.Flag.Spelling
import Toolsmith.Proofs.Text.Lines
/-!
# Listed and accepted flags

Help lists the flags that a command sees, unless the command bears the word for the flags of all
scopes (`listed_of_ne`).  A listed flag need not be one that can be typed: an older flag may answer
to its names, and a long name with an equals sign in it is never read as a key
(`Token.exists_mem_keys_iff`).  What help lists is what can be typed if and only if none of the
three happens (`Apart.listed_iff_typable`).

Whether a command line that only asks for help is read to its end is decided by the other flags:
by those that are required, and by the groups (`parse_asking_of_askable`,
`parse_asking_of_unaskable`).
-/

namespace Toolsmith

/-! ## 1. Keys that can be typed -/

theorem Token.not_mem_of_mem_keys {token key : String} (hkey : key ∈ (Token.ofText token).keys) :
    '=' ∉ key.toList ∨ key = "=" := by
  -- A single character is an equals sign or has none in it.
  have single : ∀ c : Char, '=' ∉ (String.ofList [c]).toList ∨ String.ofList [c] = "=" := by
    intro c
    by_cases equals : c = '='
    · subst equals
      exact .inr rfl
    · refine .inl ?_
      rw [String.toList_ofList, List.mem_singleton]
      exact Ne.symm equals
  unfold ofText at hkey
  split at hkey
  next body two =>
    split at hkey
    next name value cut =>
      obtain rfl := List.mem_singleton.mp hkey
      rw [String.toList_ofList]
      exact .inl (Text.cutChars_eq_some_iff.mp cut).2
    next uncut =>
      obtain rfl := List.mem_singleton.mp hkey
      rw [String.toList_ofList]
      refine .inl fun equals => ?_
      obtain ⟨front, back, rfl, first⟩ := List.eq_append_cons_of_mem equals
      rw [Text.cutChars_append first] at uncut
      cases uncut
  next => cases hkey
  next =>
    obtain rfl := List.mem_singleton.mp hkey
    exact single _
  next keys _ _ _ more =>
    obtain ⟨c, -, rfl⟩ := List.mem_map.mp hkey
    exact single c
  next => cases hkey

/-- The keys that a token can carry are those without an equals sign, and the sign alone. -/
theorem Token.exists_mem_keys_iff {key : String} :
    (∃ token, key ∈ (Token.ofText token).keys) ↔ '=' ∉ key.toList ∨ key = "=" := by
  constructor
  · rintro ⟨token, hkey⟩
    exact not_mem_of_mem_keys hkey
  · rintro (plain | rfl)
    · refine ⟨"--" ++ key, ?_⟩
      rw [ofText_long plain]
      exact List.mem_singleton.mpr rfl
    · exact ⟨"-=", List.mem_singleton.mpr rfl⟩

namespace Registry

/-! ## 2. Listed flags -/

/-- The definitions that help lists for a command. -/
def listed (registry : Registry) (command : String) : List Definition :=
  registry.definitions.filter fun d => command = Flag.everyScope || d.flag.visibleTo command

variable {registry : Registry} {command : String}

theorem mem_listed {d : Definition} :
    d ∈ registry.listed command ↔
      d ∈ registry.definitions ∧ (command = Flag.everyScope ∨ d.flag.visibleTo command = true) := by
  simp [listed]

theorem listed_of_ne (other : command ≠ Flag.everyScope) :
    registry.listed command = registry.visible command := by
  unfold listed visible
  rw [decide_eq_false other]
  rfl

@[simp] theorem listed_everyScope (registry : Registry) :
    registry.listed Flag.everyScope = registry.definitions := by
  simp [listed]

theorem visible_sublist_listed (registry : Registry) (command : String) :
    (registry.visible command).Sublist (registry.listed command) := by
  refine List.monotone_filter_right _ fun d seen => ?_
  rw [seen]
  exact Bool.or_true _

-- A command sees all that help lists for it if it bears another word than that for all scopes.
theorem listed_eq_visible_iff :
    registry.listed command = registry.visible command ↔
      (command = Flag.everyScope →
        ∀ d ∈ registry.definitions, d.flag.visibleTo command = true) := by
  constructor
  · rintro same rfl d hd
    rw [← listed_everyScope registry, same] at hd
    exact (mem_visible.mp hd).2
  · intro all
    by_cases every : command = Flag.everyScope
    · rw [every, listed_everyScope, ← every]
      exact (List.filter_eq_self.mpr (all every)).symm
    · exact listed_of_ne every

/-- The text of the help is that of the flags that a command sees only if these are the ones that
are listed. -/
theorem help_eq_iff (some : registry.visible command ≠ []) :
    registry.help command =
        Text.join "\n" ((registry.visible command).map Definition.helpLine) ↔
      registry.listed command = registry.visible command := by
  show Text.join "\n" ((registry.listed command).map Definition.helpLine) = _ ↔ _
  have within := visible_sublist_listed registry command
  constructor
  · intro same
    have lines :=
      Text.eq_of_join_eq (within.map Definition.helpLine) (by simpa using some) same.symm
    have lengths := congrArg List.length lines
    rw [List.length_map, List.length_map] at lengths
    exact (within.eq_of_length lengths).symm
  · intro same
    rw [same]

/-! ## 3. Flags that can be typed -/

/-- A key in some token denotes the flag. -/
def Typable (registry : Registry) (command : String) (d : Definition) : Prop :=
  ∃ token, ∃ key ∈ (Token.ofText token).keys, resolve registry.definitions command key = .ok d

theorem Apart.typable_iff (apart : registry.Apart) {before after : List Definition}
    {d : Definition} (seen : registry.visible command = before ++ d :: after) :
    registry.Typable command d ↔
      ∃ key, ('=' ∉ key.toList ∨ key = "=") ∧ d.flag.answersTo key = true ∧
        ∀ older ∈ before, older.flag.answersTo key = false := by
  have once : d ∉ before := by
    have pairwise := apart.pairwise_visible command
    rw [seen, List.pairwise_append] at pairwise
    exact fun again => (pairwise.2.2 d again d List.mem_cons_self).1 rfl
  constructor
  · rintro ⟨token, key, hkey, resolved⟩
    have own := List.find?_some (resolve_eq_ok_iff.mp resolved)
    exact ⟨key, Token.not_mem_of_mem_keys hkey, own,
      (resolve_own_iff seen once own).mp resolved⟩
  · rintro ⟨key, plain, own, free⟩
    obtain ⟨token, hkey⟩ := Token.exists_mem_keys_iff.mpr plain
    exact ⟨token, key, hkey, (resolve_own_iff seen once own).mpr free⟩

/-- What help lists is what can be typed if and only if a command sees all that is listed and each
flag that it sees has a name that can be typed and that no older one answers to. -/
theorem Apart.listed_iff_typable (apart : registry.Apart) :
    (∀ d ∈ registry.definitions, d ∈ registry.listed command ↔ registry.Typable command d) ↔
      registry.listed command = registry.visible command ∧
        ∀ before d after, registry.visible command = before ++ d :: after →
          ∃ key, ('=' ∉ key.toList ∨ key = "=") ∧ d.flag.answersTo key = true ∧
            ∀ older ∈ before, older.flag.answersTo key = false := by
  constructor
  · intro exact_list
    have all : ∀ d ∈ registry.listed command, d ∈ registry.visible command := by
      intro d listed
      obtain ⟨token, key, -, resolved⟩ := (exact_list d (mem_listed.mp listed).1).mp listed
      exact mem_visible_of_resolve resolved
    refine ⟨?_, ?_⟩
    · refine listed_eq_visible_iff.mpr ?_
      intro every d hd
      exact (mem_visible.mp (all d (mem_listed.mpr ⟨hd, .inl every⟩))).2
    · intro before d after seen
      have hd : d ∈ registry.visible command := by
        rw [seen]
        exact List.mem_append_right _ List.mem_cons_self
      have listed := (visible_sublist_listed registry command).subset hd
      exact (apart.typable_iff seen).mp ((exact_list d (mem_visible.mp hd).1).mp listed)
  · rintro ⟨same, free⟩ d hd
    rw [same]
    constructor
    · intro seen
      obtain ⟨before, after, parts⟩ := List.append_of_mem seen
      exact (apart.typable_iff parts).mpr (free before d after parts)
    · rintro ⟨token, key, -, resolved⟩
      exact mem_visible_of_resolve resolved

/-! ## 4. Asking for help -/

def helpDefinition : Definition := ⟨Flag.helpFlag, .switch, ValueType.ofText_none⟩

def defaulted (definitions : List Definition) (long : String) : Bool :=
  definitions.any fun d => d.flag.long = long && d.flag.default ≠ ""

/-- The long names of a group that are set once help has been asked for, if the defaults are those
of some definitions. -/
def taken (definitions : List Definition) (longs : List String) : List String :=
  longs.filter fun long => long = "help" || defaulted definitions long

/-- A command for which nothing has to be given beside the flag that asks for help: its required
flags have defaults, and no group has two long names that are set by then. -/
structure Askable (registry : Registry) (command : String) : Prop where
  required : ∀ d ∈ registry.visible command, d.flag.required = true → d.flag.default ≠ ""
  exclusive : ∀ longs ∈ registry.groups.values, (taken registry.definitions longs).length ≤ 1

/-- A command for which it does not do to ask for help: a required flag has no default, not even
under its name elsewhere, or a group has two long names that are set by then. -/
inductive Unaskable (registry : Registry) (command : String) : Prop
  | required {d : Definition} (seen : d ∈ registry.visible command)
      (required : d.flag.required = true)
      (bare : defaulted registry.definitions d.flag.long = false) : Unaskable registry command
  | exclusive {longs : List String} (group : longs ∈ registry.groups.values)
      (two : 1 < (taken (registry.visible command) longs).length) : Unaskable registry command

theorem defaulted_iff {definitions : List Definition} {long : String} :
    defaulted definitions long = true ↔
      ∃ d ∈ definitions, d.flag.long = long ∧ d.flag.default ≠ "" := by
  simp [defaulted]

-- The defaults of all flags are there before a command line is read, the hidden ones among them.
theorem get?_defaults_eq_none_iff {long : String} :
    (registry.defaults command).get? long = none ↔ defaulted registry.definitions long = false := by
  rw [get?_defaults, Option.or_eq_none_iff, lastDefault_eq_none_iff, inherited_eq_none_iff,
    Bool.eq_false_iff, ne_eq, defaulted_iff]
  constructor
  · rintro ⟨own, others⟩ ⟨d, hd, named, some⟩
    cases seen : d.flag.visibleTo command with
    | true => exact some (own d (mem_visible.mpr ⟨hd, seen⟩) named)
    | false => exact some (others d hd seen named)
  · intro none
    have empty : ∀ d ∈ registry.definitions, d.flag.long = long → d.flag.default = "" := by
      intro d hd named
      by_contra some
      exact none ⟨d, hd, named, some⟩
    exact ⟨fun d hd => empty d (mem_visible.mp hd).1, fun d hd _ => empty d hd⟩

theorem ne_empty_of_get?_defaults {long value : String}
    (found : (registry.defaults command).get? long = some value) : value ≠ "" := by
  rw [get?_defaults, Option.or_eq_some_iff] at found
  rcases found with own | ⟨-, other⟩
  · exact ne_empty_of_lastDefault own
  · exact ne_empty_of_lastDefault other

theorem taken_visible_le (registry : Registry) (command : String) (longs : List String) :
    (taken (registry.visible command) longs).length ≤
      (taken registry.definitions longs).length := by
  have more : ∀ long, defaulted (registry.visible command) long = true →
      defaulted registry.definitions long = true := by
    intro long own
    obtain ⟨d, hd, given⟩ := defaulted_iff.mp own
    exact defaulted_iff.mpr ⟨d, (mem_visible.mp hd).1, given⟩
  refine (List.monotone_filter_right longs fun long set => ?_).length_le
  rw [Bool.or_eq_true] at set ⊢
  exact set.imp_right (more long)

namespace Equipped

variable {token key : String} {files : Files} (equipped : registry.Equipped)
  (shape : Token.ofText token = .bare key) (asks : key = "help" ∨ key = "h")
include equipped

theorem mem_visible_helpDefinition : helpDefinition ∈ registry.visible command := by
  refine mem_visible.mpr ⟨equipped.first.subset ?_, rfl⟩
  exact List.mem_cons_self

include asks in
theorem resolve_asking : resolve registry.definitions command key = .ok helpDefinition := by
  obtain ⟨more, parts⟩ := equipped.first
  rw [← parts]
  rcases asks with rfl | rfl <;> rfl

include shape asks

-- Nothing else is stored than that help has been asked for.
theorem pass_asking :
    registry.pass files command [token] =
      (⟨(registry.defaults command).put "help" "true", []⟩, none) := by
  unfold pass
  rw [Reading.scan_bare shape (equipped.resolve_asking asks)]
  rfl

theorem values_parse_asking :
    (registry.parse files command [token]).1.values =
      (registry.defaults command).put "help" "true" := by
  rw [values_parse, equipped.pass_asking shape asks]

theorem isSet_parse_asking (long : String) :
    (registry.parse files command [token]).1.isSet long =
      (decide (long = "help") || defaulted registry.definitions long) := by
  rw [Bool.eq_iff_iff, isSet_iff, equipped.values_parse_asking shape asks, Bool.or_eq_true,
    decide_eq_true_eq]
  by_cases help : long = "help"
  · subst help
    exact iff_of_true ⟨"true", Table.get?_put_self _ _ _, by decide⟩ (.inl rfl)
  · rw [Table.get?_put_of_ne _ _ help, or_iff_right help]
    cases found : (registry.defaults command).get? long with
    | none =>
      rw [get?_defaults_eq_none_iff.mp found]
      simp
    | some value =>
      have given : defaulted registry.definitions long = true := by
        by_contra bare
        have none : (registry.defaults command).get? long = none :=
          get?_defaults_eq_none_iff.mpr (Bool.eq_false_iff.mpr bare)
        rw [found] at none
        cases none
      exact iff_of_true ⟨value, rfl, ne_empty_of_get?_defaults found⟩ given

theorem isTrue_parse_asking : (registry.parse files command [token]).1.isTrue "help" = true := by
  unfold isTrue
  rw [equipped.values_parse_asking shape asks, Table.get?_put_self]
  exact decide_eq_true rfl

theorem parse_asking_of_askable (askable : registry.Askable command) :
    (registry.parse files command [token]).2 = none := by
  refine parse_snd_eq_none_iff.mpr ⟨?_, ?_, ?_⟩
  · rw [equipped.pass_asking shape asks]
  · rw [missing?_eq_none_iff]
    intro d hd required
    have seen : d ∈ registry.visible command := by simpa using hd
    rw [equipped.isSet_parse_asking shape asks, Bool.or_eq_true]
    exact .inr (defaulted_iff.mpr
      ⟨d, (mem_visible.mp seen).1, rfl, askable.required d seen required⟩)
  · rw [conflict?_eq_none_iff]
    intro longs group
    simp only [equipped.isSet_parse_asking shape asks]
    refine askable.exclusive longs ?_
    simpa using group

theorem parse_asking_of_unaskable (unaskable : registry.Unaskable command) :
    ∃ fault, (registry.parse files command [token]).2 = some (.usage fault) := by
  rw [parse_snd, equipped.pass_asking shape asks, Option.none_or]
  cases late : ((registry.parse files command [token]).1.missing? command).or
      (registry.parse files command [token]).1.conflict? with
  | some fault => exact ⟨fault, rfl⟩
  | none =>
    obtain ⟨complete, exclusive⟩ := Option.or_eq_none_iff.mp late
    exfalso
    cases unaskable with
    | @required d seen required bare =>
      have visible : d ∈ (registry.parse files command [token]).1.visible command := by
        simpa using seen
      have set := missing?_eq_none_iff.mp complete d visible required
      rw [equipped.isSet_parse_asking shape asks, bare, Bool.or_false, decide_eq_true_eq] at set
      -- The visible flag of that name is the one that asks for help, which is not required.
      have same := equipped.apart.eq_of_long_eq seen equipped.mem_visible_helpDefinition set
      rw [same] at required
      cases required
    | @exclusive longs group two =>
      have groups : longs ∈ (registry.parse files command [token]).1.groups.values := by
        simpa using group
      have one := conflict?_eq_none_iff.mp exclusive longs groups
      simp only [equipped.isSet_parse_asking shape asks] at one
      have fewer := registry.taken_visible_le command longs
      unfold taken at two fewer
      omega

end Equipped

end Registry

end Toolsmith
