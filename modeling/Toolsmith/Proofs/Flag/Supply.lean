import Toolsmith.Proofs.Flag.Demand
import Toolsmith.Proofs.Flag.Isolation
/-!
# A flag and its value among other tokens

A token that denotes a flag and the value behind it can stand anywhere between other tokens.  The
value is stored, and all that is read besides is what the other tokens alone would give
(`Built.parse_of_supplied`).
-/

namespace Toolsmith

/-! ## 1. Readings that differ under one name -/

def Definition.ofName (long : String) : Definition :=
  ⟨{ long }, .text, ValueType.ofText_string⟩

-- A value under a name that is not looked at does not matter.
theorem Reading.agree_put {names : List String} {long : String} (absent : long ∉ names)
    (value : String) (reading : Reading) :
    Reading.Agree (names.map Definition.ofName)
      { reading with values := reading.values.put long value } reading where
  value := by
    intro d hd
    obtain ⟨name, hname, rfl⟩ := List.mem_map.mp hd
    refine Table.get?_put_of_ne _ _ ?_
    rintro rfl
    exact absent hname
  positionals := rfl

namespace Registry

/-! ## 2. The flag with its value -/

variable {registry : Registry} {command : String} {files : Files} {d : Definition}
  {token key : String}

/-- What the tokens before and after a flag have to give beside it: they are read to their end,
those after it do not name it again, every other required flag is set, and of no group two flags
are. -/
structure Supplied (registry : Registry) (files : Files) (command : String) (d : Definition)
    (before after : List String) (reading : Reading) : Prop where
  parts : ∃ middle, registry.pass files command before = (middle, none) ∧
    Reading.scan files registry.definitions command after middle = (reading, none)
  unnamed : registry.Unnamed command d after
  required : ∀ e ∈ registry.visible command, e ≠ d → e.flag.required = true →
    (registry.withReading reading).isSet e.flag.long = true
  groups : (registry.withReading reading).conflict? = none

/-- Between tokens that give all else, the command line is read to its end, the value is stored,
and the other values and the positional arguments are those of the other tokens. -/
theorem Built.parse_of_supplied (built : registry.Built) (shape : Token.ofText token = .bare key)
    (resolved : resolve registry.definitions command key = .ok d)
    (takes : d.type.takesValue = true) {value stored : String}
    (undashed : isDashed value = false)
    (accepted : accept files d.flag.long d.type value = .ok stored) (ne : stored ≠ "")
    (ungrouped : ∀ longs ∈ registry.groups.values, d.flag.long ∉ longs)
    {before after : List String} {reading : Reading}
    (supplied : registry.Supplied files command d before after reading) :
    ∃ registry', registry.parse files command (before ++ token :: value :: after) =
        (registry', none) ∧
      registry'.values.get? d.flag.long = some stored ∧
      registry'.positionals = reading.positionals ∧
      ∀ long ≠ d.flag.long, registry'.values.get? long = reading.values.get? long := by
  have hd : d ∈ registry.visible command := mem_visible_of_resolve resolved
  obtain ⟨middle, first, last⟩ := supplied.parts
  let changed : Reading := { middle with values := middle.values.put d.flag.long stored }
  let line : List String := before ++ token :: value :: after
  have passed : registry.pass files command line =
      Reading.scan files registry.definitions command after changed := by
    have taken : d.taken (value :: after) = (value, after) := by
      simp [Definition.taken, takes, undashed]
    have step : middle.store files d value = (changed, none) := by
      rw [Reading.store, accepted]
    show registry.pass files command (before ++ token :: value :: after) = _
    rw [pass_append shape resolved, first, taken]
    show Reading.followedBy (middle.store files d value) _ = _
    rw [step]
    rfl
  -- Under every other name the line reads as the other tokens do.
  have alike : ∀ names : List String, d.flag.long ∉ names →
      Outcome.Alike (names.map Definition.ofName) (registry.pass files command line)
        (reading, none) := by
    intro names absent
    rw [passed, ← last]
    exact (Reading.agree_put absent stored middle).scan rfl after
  have read : (registry.parse files command line).1 =
      registry.withReading (registry.pass files command line).1 := parse_fst ..
  have own : (registry.pass files command line).1.values.get? d.flag.long = some stored := by
    rw [passed, built.get?_scan hd supplied.unnamed changed]
    exact Table.get?_put_self ..
  have ended : (registry.pass files command line).2 = none := by
    simpa using (alike [] List.not_mem_nil).failure
  have missing : (registry.parse files command line).1.missing? command = none := by
    rw [read, missing?_eq_none_iff]
    intro e he required
    by_cases same : e = d
    · subst same
      exact isSet_iff.mpr ⟨stored, own, ne⟩
    · have other : d.flag.long ∉ [e.flag.long] := by
        rw [List.mem_singleton]
        exact fun long => same (built.apart.eq_of_long_eq he hd long.symm)
      let alone : Definition := .ofName e.flag.long
      have set : (registry.withReading (registry.pass files command line).1).isSet e.flag.long =
          (registry.withReading reading).isSet e.flag.long :=
        isSet_of_agree (d := alone) (alike _ other).reading List.mem_cons_self
      rw [set]
      exact supplied.required e he same required
  have conflict : (registry.parse files command line).1.conflict? = none := by
    have absent : d.flag.long ∉ registry.groups.values.flatten := by
      rw [List.mem_flatten]
      rintro ⟨longs, hlongs, hlong⟩
      exact ungrouped longs hlongs hlong
    rw [read, ← supplied.groups]
    refine conflict?_of_agree rfl ?_ (alike _ absent).reading
    intro longs hlongs long hlong
    exact ⟨.ofName long, List.mem_map_of_mem (List.mem_flatten_of_mem hlongs hlong), rfl⟩
  refine ⟨(registry.parse files command line).1,
    Prod.ext rfl (parse_snd_eq_none_iff.mpr ⟨ended, missing, conflict⟩), ?_, ?_, ?_⟩
  · rw [read]
    exact own
  · rw [read]
    exact (alike [] List.not_mem_nil).reading.positionals
  · intro long other
    rw [read]
    exact (alike [long] (by simpa using Ne.symm other)).reading.value (.ofName long)
      List.mem_cons_self

end Registry

end Toolsmith
