import Toolsmith.Proofs.Flag.Assigned
import Toolsmith.Proofs.Flag.ValueType
import Toolsmith.Proofs.Schema.Compiler
/-!
# Defaults that a command line could give

Before a command line is read the defaults become values without a check.  The compiler has checked
them: except for paths, it lets a default through if and only if the parser would store it
(`checkDefault_eq_ok_iff`), in the form in which the parser keeps it.  So every default of a
compiled flag is stored as it is, and none is refused that the parser would store
(`defaults_storable`).
-/

namespace Toolsmith

/-! ## 1. Values that are kept -/

-- The kept form of a value is of the same type, and is kept as it is.
theorem accept_kept {files : Files} {long value stored : String} {type : ValueType}
    (accepted : accept files long type value = .ok stored) :
    accept files long type stored = .ok stored := by
  rw [accept_eq_ok_iff] at accepted ⊢
  obtain ⟨fits, rfl⟩ := accepted
  cases type with
  | boolean =>
    by_cases truth : Text.lowerLetters value ∈ Check.trueWords
    · rw [show ValueType.boolean.kept value = "true" from if_pos truth]
      exact ⟨.inl (by decide), rfl⟩
    · rw [show ValueType.boolean.kept value = "false" from if_neg truth]
      exact ⟨.inr (by decide), rfl⟩
  | text | integer | path | choice | switch => exact ⟨fits, rfl⟩

theorem Reading.store_of_accept {files : Files} {d : Definition} {value stored : String}
    (accepted : accept files d.flag.long d.type value = .ok stored) (reading : Reading) :
    reading.store files d value =
      ({ reading with values := reading.values.put d.flag.long stored }, none) := by
  unfold Reading.store
  rw [accepted]

theorem Reading.exists_store_eq_error_iff {files : Files} {d : Definition} {value : String}
    (reading : Reading) :
    (∃ fault, reading.store files d value = (reading, some (.validation fault))) ↔
      ¬∃ stored, accept files d.flag.long d.type value = .ok stored := by
  unfold Reading.store
  cases accept files d.flag.long d.type value with
  | error fault => simp
  | ok stored => simp

namespace Compiler

/-! ## 2. The check of a default -/

-- Whether a path is there is asked when the application runs, and not before.
theorem checkDefault_eq_ok_iff (files : Files) (flagLong : String) {long default stored : String}
    {type : ValueType} (given : default ≠ "") (other : type ≠ .path) :
    checkDefault long type default = .ok stored ↔
      Toolsmith.accept files flagLong type default = .ok stored := by
  unfold checkDefault Toolsmith.accept
  rw [if_neg given]
  cases type with
  | path => exact absurd rfl other
  | text | switch =>
    dsimp only
    rw [Except.ok.injEq, Except.ok.injEq]
  | integer =>
    dsimp only
    cases Check.isInteger default <;> simp
  | boolean =>
    dsimp only
    cases Check.isBoolean default <;> simp
  | choice choices =>
    dsimp only
    cases Check.isChoice default choices <;> simp

-- A compiled flag declares its type anew, in normal form.
theorem exists_definition_of_checkArg {command : String} {lone : Text.StandIns} {arg : Arg}
    {flag : Flag} (checked : checkArg command lone arg = .ok flag) :
    ∃ d : Definition, d.flag = flag ∧ ValueType.ofText arg.type = .ok d.type ∧
      checkDefault arg.name d.type arg.default = .ok flag.default := by
  obtain ⟨-, -, type, read, -, default, allowed, rfl⟩ := checkArg_eq_ok_iff.mp checked
  exact ⟨⟨_, type, ValueType.ofText_normal read⟩, rfl, read, allowed⟩

-- Beside the default nothing else decides about a flag that passes without one.
theorem exists_checkArg_iff {command : String} {lone : Text.StandIns} {arg : Arg} {flag : Flag}
    (plain : checkArg command lone { arg with default := "" } = .ok flag) {type : ValueType}
    (read : ValueType.ofText arg.type = .ok type) :
    (∃ flag, checkArg command lone arg = .ok flag) ↔
      ∃ stored, checkDefault arg.name type arg.default = .ok stored := by
  obtain ⟨long, short, type', read', safe, -⟩ := checkArg_eq_ok_iff.mp plain
  obtain rfl : type = type' := Except.ok.inj (read.symm.trans read')
  constructor
  · rintro ⟨flag, checked⟩
    obtain ⟨-, -, type', read', -, stored, allowed, -⟩ := checkArg_eq_ok_iff.mp checked
    obtain rfl : type = type' := Except.ok.inj (read.symm.trans read')
    exact ⟨stored, allowed⟩
  · rintro ⟨stored, allowed⟩
    exact ⟨_, checkArg_eq_ok_iff.mpr ⟨long, short, type, read, safe, stored, allowed, rfl⟩⟩

/-! ## 3. Whole schemas -/

theorem checked_of_compile {compiler : Compiler} {schema : Schema} {handler : Path}
    {command : Compiled} (accepted : (compiler.compile schema handler).2 = .ok command) :
    schema.args.mapM (checkArg schema.name schema.lone) = .ok command.flags := by
  rcases compile_cases compiler schema handler with
    ⟨_, _, _, _, outcome⟩ | ⟨flags, _, passed, _, outcome⟩
  · rw [outcome] at accepted
    cases accepted
  · rw [outcome] at accepted
    obtain rfl := Except.ok.inj accepted
    exact (checkSchema_eq_ok_iff.mp passed).2.2.2

/-- Every default of a flag of an accepted schema that is not for a path is stored by the parser,
and stays what it is.  A flag that passes the checks without a default is refused with one, which is
not for a path, if and only if the parser refuses that default as a value. -/
theorem defaults_storable (compiler : Compiler) (schema : Schema) (handler : Path) :
    (∀ command, (compiler.compile schema handler).2 = .ok command →
      ∀ flag ∈ command.flags, flag.default ≠ "" →
        ∃ d : Definition, d.flag = flag ∧ (d.type ≠ .path → ∀ files reading,
          Reading.store files d flag.default reading =
            ({ reading with values := reading.values.put flag.long flag.default }, none))) ∧
      ∀ (arg : Arg) (flag : Flag), arg.default ≠ "" →
        checkArg schema.name schema.lone { arg with default := "" } = .ok flag →
        ∃ d : Definition, d.flag = flag ∧ (d.type ≠ .path → ∀ files reading,
          ((∃ complaint, checkArg schema.name schema.lone arg = .error complaint) ↔
            ∃ fault, Reading.store files d arg.default reading =
              (reading, some (.validation fault)))) := by
  constructor
  · intro command accepted flag hflag given
    obtain ⟨arg, -, checked⟩ := exists_of_mem_mapM (checked_of_compile accepted) hflag
    obtain ⟨d, rfl, -, allowed⟩ := exists_definition_of_checkArg checked
    refine ⟨d, rfl, fun other files reading => ?_⟩
    have declared : arg.default ≠ "" := by
      intro none
      rw [none] at allowed
      exact given (Except.ok.inj allowed).symm
    have stored := (checkDefault_eq_ok_iff files d.flag.long declared other).mp allowed
    exact reading.store_of_accept (accept_kept stored)
  · intro arg flag given plain
    obtain ⟨d, rfl, read, -⟩ := exists_definition_of_checkArg plain
    refine ⟨d, rfl, fun other files reading => ?_⟩
    rw [reading.exists_store_eq_error_iff, exists_error_iff, exists_checkArg_iff plain read]
    simp only [checkDefault_eq_ok_iff files d.flag.long given other]

def loudByDefault : Schema :=
  { name := "greet", description := "Greet someone", source := none
    args := [{ name := "loud", type := "bool", default := "YES" }] }

/-- A word for true becomes the one that is stored, and what is no choice is neither a default nor a
value. -/
theorem defaults_storable_loud :
    let loud : Definition :=
      ⟨{ long := "loud", type := "bool", default := "true", scope := "greet" }, .boolean,
        ValueType.ofText_bool⟩
    let tone : Definition :=
      ⟨{ long := "tone", type := "enum:warm:cold", scope := "greet" }, .choice ["warm", "cold"],
        rfl⟩
    let arg : Arg := { name := "tone", type := "enum:warm:cold", default := "hot" }
    (fresh.compile loudByDefault ⟨0, ["main.py"]⟩).2 =
        .ok ⟨loudByDefault, ⟨0, ["main.py"]⟩, "greet", [loud.flag]⟩ ∧
      checkArg "greet" [] { arg with default := "" } = .ok tone.flag ∧
      ∀ files reading,
        Reading.store files loud "true" reading =
            ({ reading with values := reading.values.put "loud" "true" }, none) ∧
          ((∃ complaint, checkArg "greet" [] arg = .error complaint) ↔
            ∃ fault, Reading.store files tone "hot" reading =
              (reading, some (.validation fault))) := by
  intro loud tone arg
  have accepted : (fresh.compile loudByDefault ⟨0, ["main.py"]⟩).2 =
      .ok ⟨loudByDefault, ⟨0, ["main.py"]⟩, "greet", [loud.flag]⟩ := rfl
  have read : ValueType.ofText "enum:warm:cold" = .ok (.choice ["warm", "cold"]) := rfl
  have plain : checkArg "greet" [] { arg with default := "" } = .ok tone.flag :=
    checkArg_eq_ok_iff.mpr
      ⟨by decide, fun given => absurd rfl given, _, read, by decide, "", rfl, rfl⟩
  obtain ⟨stored, refused⟩ := defaults_storable fresh loudByDefault ⟨0, ["main.py"]⟩
  obtain ⟨d, same, stores⟩ := stored _ accepted loud.flag (List.mem_singleton.mpr rfl) (by decide)
  obtain ⟨e, same', refuses⟩ := refused arg tone.flag (by decide) plain
  obtain rfl : d = loud := Definition.eq_of_flag_eq same
  obtain rfl : e = tone := Definition.eq_of_flag_eq same'
  exact ⟨accepted, plain, fun files reading =>
    ⟨stores nofun files reading, refuses nofun files reading⟩⟩

end Compiler

end Toolsmith
