import Mathlib.Data.List.Induction
import Mathlib.Data.List.Pairwise
import Toolsmith.Flag.Reading
import Toolsmith.Proofs.Stepwise
/-!
# Registries that registrations lead to

What a registration needs and does (`register_eq_ok_iff`), and what follows for a registry that
registrations have built: of the flags that one command sees, no two share a long name or a short
name (`Apart.pairwise_visible`).  The values before a command line is read are the defaults of
the command's own flags and, under a name without one, the last default that a flag of another
command has left there (`get?_defaults`).
-/

namespace Toolsmith

/-! ## 1. Clashes -/

namespace Flag

@[simp] theorem visibleTo_iff {flag : Flag} {command : String} :
    flag.visibleTo command = true ↔ flag.scope = globalScope ∨ flag.scope = command := by
  simp [visibleTo]

theorem answersTo_iff {flag : Flag} {key : String} :
    flag.answersTo key = true ↔ key = flag.long ∨ flag.short ≠ "" ∧ key = flag.short := by
  simp [answersTo]

theorem scopesOverlap_of_visibleTo {a b : Flag} {command : String}
    (ha : a.visibleTo command = true) (hb : b.visibleTo command = true) :
    scopesOverlap a.scope b.scope = true := by
  rw [visibleTo_iff] at ha hb
  simp only [scopesOverlap, Bool.or_eq_true, decide_eq_true_eq]
  rcases ha with ha | ha
  · exact .inl (.inr ha)
  · rcases hb with hb | hb
    · exact .inr hb
    · exact .inl (.inl (ha.trans hb.symm))

/-- Two flags do not clash if no command sees both, or else if their names differ. -/
theorem clash?_eq_none_iff {older flag : Flag} :
    clash? older flag = none ↔
      (scopesOverlap older.scope flag.scope = true →
        older.long ≠ flag.long ∧ (flag.short ≠ "" → older.short ≠ flag.short)) := by
  unfold clash?
  cases scopesOverlap older.scope flag.scope with
  | false => simp
  | true =>
    by_cases long : older.long = flag.long
    · simp [long]
    · by_cases short : flag.short ≠ "" ∧ older.short = flag.short
      · simp [long, short.1, short.2]
      · simp [long]

end Flag

-- A flag is of one type only, so its definition is determined by it.
theorem Definition.eq_of_flag_eq {d e : Definition} (h : d.flag = e.flag) : d = e := by
  obtain ⟨flag, type, type_eq⟩ := d
  obtain ⟨_, type', type_eq'⟩ := e
  cases h
  have : type = type' := Except.ok.inj (type_eq.symm.trans type_eq')
  subst this
  rfl

namespace Registry

/-! ## 2. Registering -/

/-- A flag is registered if its type can be read and it clashes with no older flag.  It goes last,
and its default becomes a value. -/
theorem register_eq_ok_iff {registry registry' : Registry} {flag : Flag} :
    registry.register flag = .ok registry' ↔
      ∃ d : Definition, d.flag = flag ∧
        (∀ older ∈ registry.definitions, Flag.clash? older.flag flag = none) ∧
        registry' = { registry with
          definitions := registry.definitions ++ [d]
          values := seed registry.values flag } := by
  unfold register
  split
  next fault unread =>
    constructor
    · intro h
      cases h
    · rintro ⟨d, rfl, _⟩
      rw [d.type_eq] at unread
      cases unread
  next type read =>
    -- The type can be read; what is left is whether an older flag clashes.
    split
    next fault taken =>
      constructor
      · intro h
        cases h
      · rintro ⟨d, rfl, free, _⟩
        rw [List.findSome?_eq_none_iff.mpr free] at taken
        cases taken
    next free =>
      constructor
      · intro h
        exact ⟨⟨flag, type, read⟩, rfl, List.findSome?_eq_none_iff.mp free, (Except.ok.inj h).symm⟩
      · rintro ⟨d, flagEq, _, rfl⟩
        have : d = ⟨flag, type, read⟩ := Definition.eq_of_flag_eq flagEq
        rw [this]

/-- Flags are registered in turn if their types can be read and they clash neither with an older
flag nor with one another. -/
theorem foldlM_register_eq_ok_iff {flags : List Flag} {registry registry' : Registry} :
    flags.foldlM Registry.register registry = .ok registry' ↔
      ∃ added : List Definition, added.map Definition.flag = flags ∧
        (∀ older ∈ registry.definitions, ∀ d ∈ added, Flag.clash? older.flag d.flag = none) ∧
        added.Pairwise (fun older d => Flag.clash? older.flag d.flag = none) ∧
        registry' = { registry with
          definitions := registry.definitions ++ added
          values := flags.foldl seed registry.values } := by
  induction flags generalizing registry with
  | nil =>
    constructor
    · intro h
      cases h
      exact ⟨[], rfl, by simp, List.Pairwise.nil, by simp⟩
    · rintro ⟨added, none, -, -, rfl⟩
      obtain rfl := List.map_eq_nil_iff.mp none
      simp [pure, Except.pure]
  | cons flag flags ih =>
    rw [List.foldlM_cons, bind_eq_ok_iff]
    constructor
    · rintro ⟨next, first, rest⟩
      obtain ⟨d, rfl, free, rfl⟩ := register_eq_ok_iff.mp first
      obtain ⟨added, rfl, apart, pairwise, rfl⟩ := ih.mp rest
      refine ⟨d :: added, rfl, ?_, ?_, by simp⟩
      · intro older holder e he
        rcases List.mem_cons.mp he with rfl | he
        · exact free older holder
        · exact apart older (List.mem_append_left _ holder) e he
      · refine List.pairwise_cons.mpr ⟨?_, pairwise⟩
        intro e he
        exact apart d (List.mem_append_right _ List.mem_cons_self) e he
    · rintro ⟨added, flags', apart, pairwise, rfl⟩
      -- For the flags that follow, the first one counts as an older flag.
      obtain ⟨d, added, rfl, rfl, rfl⟩ := List.map_eq_cons_iff.mp flags'
      obtain ⟨first, pairwise⟩ := List.pairwise_cons.mp pairwise
      refine ⟨_, register_eq_ok_iff.mpr ⟨d, rfl, ?_, rfl⟩,
        ih.mpr ⟨added, rfl, ?_, pairwise, by simp⟩⟩
      · intro older holder
        exact apart older holder d List.mem_cons_self
      · intro older holder e he
        rcases List.mem_append.mp holder with holder | last
        · exact apart older holder e (List.mem_cons_of_mem d he)
        · rw [List.mem_singleton.mp last]
          exact first e he

/-- No two flags of a registry clash. -/
def Apart (registry : Registry) : Prop :=
  registry.definitions.Pairwise fun older d => Flag.clash? older.flag d.flag = none

theorem Apart.register {registry registry' : Registry} {flag : Flag} (apart : registry.Apart)
    (registered : registry.register flag = .ok registry') : registry'.Apart := by
  obtain ⟨d, rfl, free, rfl⟩ := register_eq_ok_iff.mp registered
  unfold Apart
  rw [List.pairwise_append]
  refine ⟨apart, List.pairwise_singleton _ d, ?_⟩
  intro older holder e he
  rw [List.mem_singleton.mp he]
  exact free older holder

/-- A registry that successful registrations of flags and of groups have led to. -/
inductive Built : Registry → Prop
  | empty : Built .empty
  | register {registry registry' : Registry} {flag : Flag} (built : Built registry)
      (registered : registry.register flag = .ok registry') : Built registry'
  | exclude {registry : Registry} (built : Built registry) (group : String)
      (longs : List String) : Built (registry.exclude group longs)

theorem Built.foldlM {flags : List Flag} :
    ∀ {registry registry' : Registry}, Built registry →
      flags.foldlM Registry.register registry = .ok registry' → Built registry' := by
  induction flags with
  | nil =>
    intro registry registry' built h
    cases h
    exact built
  | cons flag flags ih =>
    intro registry registry' built h
    rw [List.foldlM_cons] at h
    obtain ⟨next, first, rest⟩ := bind_eq_ok_iff.mp h
    exact ih (built.register first) rest

theorem built_withBuiltins : Built withBuiltins :=
  (Built.empty.exclude verbosityGroup.1 verbosityGroup.2).foldlM foldlM_register_builtins

theorem built_withShell : Built withShell := built_withBuiltins.register register_shellFlag

theorem Built.apart {registry : Registry} (built : Built registry) : registry.Apart := by
  induction built with
  | empty => exact List.Pairwise.nil
  | register _ registered ih => exact ih.register registered
  | exclude _ _ _ ih => exact ih

/-- A registry that began with the flags that every application has, and in which no two flags
clash. -/
structure Equipped (registry : Registry) : Prop where
  first : withShell.definitions <+: registry.definitions
  apart : registry.Apart

theorem equipped_withShell : withShell.Equipped := ⟨List.prefix_rfl, built_withShell.apart⟩

/-! ## 3. What a command sees -/

def hidden (registry : Registry) (command : String) : List Definition :=
  registry.definitions.filter fun d => !d.flag.visibleTo command

theorem mem_visible {registry : Registry} {command : String} {d : Definition} :
    d ∈ registry.visible command ↔
      d ∈ registry.definitions ∧ d.flag.visibleTo command = true := by
  simp [visible]

/-- The names of two flags that one command sees differ. -/
theorem Apart.pairwise_visible {registry : Registry} (apart : registry.Apart) (command : String) :
    (registry.visible command).Pairwise fun older d =>
      older.flag.long ≠ d.flag.long ∧ (d.flag.short ≠ "" → older.flag.short ≠ d.flag.short) := by
  have seen := apart.sublist (List.filter_sublist (p := fun d => d.flag.visibleTo command))
  refine seen.imp_of_mem ?_
  intro older d holder hd free
  exact Flag.clash?_eq_none_iff.mp free (Flag.scopesOverlap_of_visibleTo
    (mem_visible.mp holder).2 (mem_visible.mp hd).2)

-- A command sees at most one flag of a long name.
theorem Apart.eq_of_long_eq {registry : Registry} (apart : registry.Apart) {command : String}
    {d e : Definition} (hd : d ∈ registry.visible command) (he : e ∈ registry.visible command)
    (long : d.flag.long = e.flag.long) : d = e := by
  by_contra ne
  have longs : (registry.visible command).Pairwise fun a b => a.flag.long ≠ b.flag.long :=
    (apart.pairwise_visible command).imp fun h => h.1
  have : Std.Symm fun a b : Definition => a.flag.long ≠ b.flag.long := ⟨fun _ _ h => h.symm⟩
  exact longs.forall hd he ne long

/-! ## 4. The values before a command line is read -/

/-- The last default that some flags have under a long name. -/
def lastDefault (definitions : List Definition) (long : String) : Option String :=
  (definitions.reverse.find? fun d => d.flag.long = long && d.flag.default ≠ "").map
    fun d => d.flag.default

/-- What a command finds under a long name that none of its own flags gives a default: the last
default of a flag that is hidden from it. -/
def inherited (registry : Registry) (command long : String) : Option String :=
  lastDefault (registry.hidden command) long

theorem get?_seed (values : Table String) (flag : Flag) (long : String) :
    (seed values flag).get? long =
      if flag.long = long ∧ flag.default ≠ "" then some flag.default else values.get? long := by
  unfold seed
  by_cases none : flag.default = ""
  · simp [none]
  · by_cases same : flag.long = long
    · subst same
      simp [none]
    · simp [none, same, Table.get?_put_of_ne _ _ (Ne.symm same)]

-- Defaults that are seeded one after another: the last one under a name stays.
theorem get?_foldl_seed (definitions : List Definition) (values : Table String) (long : String) :
    (definitions.foldl (fun values d => seed values d.flag) values).get? long =
      (lastDefault definitions long).or (values.get? long) := by
  -- The last flag is looked at first, so the induction takes flags off at the end.
  induction definitions using List.reverseRecOn with
  | nil => rfl
  | append_singleton definitions d ih =>
    rw [List.foldl_append, List.foldl_cons, List.foldl_nil, get?_seed, ih]
    by_cases last : d.flag.long = long ∧ d.flag.default ≠ ""
    · simp [lastDefault, last.1, last.2]
    · rw [if_neg last]
      have : (decide (d.flag.long = long) && decide (d.flag.default ≠ "")) = false := by
        simpa using last
      simp only [lastDefault, List.reverse_append, List.reverse_singleton, List.singleton_append,
        List.find?_cons, this]

/-- A command starts with the defaults of its own flags, and under other names with what flags
hidden from it leave there. -/
theorem get?_defaults (registry : Registry) (command long : String) :
    (registry.defaults command).get? long =
      (lastDefault (registry.visible command) long).or (registry.inherited command long) := by
  unfold defaults
  rw [List.foldl_append, get?_foldl_seed, get?_foldl_seed, Table.get?_empty, Option.or_none]
  rfl

-- The own default of a flag is the last one under its name among the flags that a command
-- sees.
theorem Apart.lastDefault_visible {registry : Registry} (apart : registry.Apart)
    {command : String} {d : Definition} (hd : d ∈ registry.visible command) :
    lastDefault (registry.visible command) d.flag.long =
      if d.flag.default = "" then none else some d.flag.default := by
  unfold lastDefault
  cases found : (registry.visible command).reverse.find? fun e =>
      e.flag.long = d.flag.long && e.flag.default ≠ "" with
  | none =>
    have empty : d.flag.default = "" := by
      simpa using List.find?_eq_none.mp found d (List.mem_reverse.mpr hd)
    rw [if_pos empty]
    rfl
  | some e =>
    have he := List.mem_reverse.mp (List.mem_of_find?_eq_some found)
    have named := List.find?_some found
    simp only [Bool.and_eq_true, decide_eq_true_eq] at named
    obtain rfl : e = d := apart.eq_of_long_eq he hd named.1
    rw [if_neg named.2]
    rfl

end Registry

end Toolsmith
