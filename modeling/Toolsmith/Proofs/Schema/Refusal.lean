import Toolsmith.Proofs.Schema.Compiler
/-!
# Schemas that are refused

A schema that is refused is not entered, but those of its flags that were registered before the
refused one stay in the compiler's own registry.  There they clash with flags of the same scope: the
command, given again without what was wrong, is refused for the flags that it had before.  They do
not clash with flags of other commands, unless one of the commands has the name that stands for all
of them as a scope.
-/

namespace Toolsmith

/-! ## 1. Registries that differ in the flags of one scope -/

namespace Registry

/-- The flags that flags of a scope can clash with, in the order of registration. -/
def overlapping (registry : Registry) (scope : String) : List Definition :=
  registry.definitions.filter fun d => Flag.scopesOverlap d.flag.scope scope

/-- For flags of other scopes than the given one, two registries hold the same flags to clash
with. -/
def AlikeBut (scope : String) (a b : Registry) : Prop :=
  ∀ other, other ≠ scope → other ≠ Flag.globalScope → a.overlapping other = b.overlapping other

variable {scope : String} {registry a b : Registry} {flag : Flag}

theorem findSome?_clash?_overlapping (registry : Registry) (flag : Flag) :
    (registry.overlapping flag.scope).findSome? (fun older => Flag.clash? older.flag flag) =
      registry.definitions.findSome? fun older => Flag.clash? older.flag flag := by
  refine findSome?_filter ?_
  intro older _ apart
  refine Flag.clash?_eq_none_iff.mpr ?_
  intro overlap
  rw [overlap] at apart
  cases apart

theorem register_eq_error_iff {fault : InternalFault} :
    registry.register flag = .error fault ↔
      ValueType.ofText flag.type = .error fault ∨
        (∃ type, ValueType.ofText flag.type = .ok type) ∧
          (registry.overlapping flag.scope).findSome?
            (fun older => Flag.clash? older.flag flag) = some fault := by
  rw [findSome?_clash?_overlapping]
  unfold register
  split
  next unread => simp [unread]
  next type read =>
    split
    next taken => simp [read, taken]
    next free => simp [read, free]

theorem AlikeBut.register_error (alike : AlikeBut scope a b) (other : flag.scope ≠ scope)
    (narrow : flag.scope ≠ Flag.globalScope) {fault : InternalFault} :
    a.register flag = .error fault ↔ b.register flag = .error fault := by
  rw [register_eq_error_iff, register_eq_error_iff, alike flag.scope other narrow]

-- Both have taken the flag in at their ends.
theorem AlikeBut.registered (alike : AlikeBut scope a b) {a' b' : Registry}
    (first : a.register flag = .ok a') (second : b.register flag = .ok b') :
    AlikeBut scope a' b' := by
  obtain ⟨d, flagEq, -, rfl⟩ := register_eq_ok_iff.mp first
  obtain ⟨e, same, -, rfl⟩ := register_eq_ok_iff.mp second
  obtain rfl : d = e := Definition.eq_of_flag_eq (flagEq.trans same.symm)
  intro other elsewhere narrow
  show (a.definitions ++ [d]).filter _ = (b.definitions ++ [d]).filter _
  rw [List.filter_append, List.filter_append]
  exact congrArg (· ++ _) (alike other elsewhere narrow)

-- A flag clashes with itself.
theorem register_ne_ok_of_mem {d : Definition} (hd : d ∈ registry.definitions)
    {registry' : Registry} : registry.register d.flag ≠ .ok registry' := by
  intro registered
  obtain ⟨_, -, free, -⟩ := register_eq_ok_iff.mp registered
  refine (Flag.clash?_eq_none_iff.mp (free d hd) ?_).1 rfl
  simp [Flag.scopesOverlap]

end Registry

namespace Compiler

/-! ## 2. What is left of a refused schema -/

/-- The flags that are registered in turn, up to the first that is refused. -/
def registered : List Flag → Registry → List Flag
  | [], _ => []
  | flag :: flags, registry =>
    match registry.register flag with
    | .ok registry => flag :: registered flags registry
    | .error _ => []

/-- The flags of a schema that are registered when a compiler is given the schema. -/
def leftovers (compiler : Compiler) (schema : Schema) : List Flag :=
  match compiler.checkSchema schema with
  | .ok flags => registered flags compiler.registry
  | .error _ => []

theorem registered_startsWith (flags : List Flag) (registry : Registry) :
    registered flags registry <+: flags := by
  induction flags generalizing registry with
  | nil => exact List.prefix_rfl
  | cons flag flags ih =>
    rw [registered]
    cases registry.register flag with
    | ok next => exact List.cons_prefix_cons.mpr ⟨rfl, ih next⟩
    | error fault => exact List.nil_prefix

theorem foldlM_registered (flags : List Flag) (registry : Registry) :
    (registered flags registry).foldlM Registry.register registry =
      .ok (registerAll flags registry).1 := by
  induction flags generalizing registry with
  | nil => rfl
  | cons flag flags ih =>
    rw [registered, registerAll]
    cases first : registry.register flag with
    | error fault => rfl
    | ok next =>
      dsimp only
      rw [List.foldlM_cons, first]
      exact ih next

/-- A refused schema changes the registry of the compiler and nothing else: the flags of it that
were registered are there. -/
theorem compile_of_refused {compiler : Compiler} {schema : Schema} {handler : Path}
    {fault : SchemaFault} (refused : (compiler.compile schema handler).2 = .error fault) :
    ∃ registry,
      (compiler.leftovers schema).foldlM Registry.register compiler.registry = .ok registry ∧
        (compiler.compile schema handler).1 = { compiler with registry } := by
  unfold leftovers
  unfold compile at refused ⊢
  cases checked : compiler.checkSchema schema with
  | error complaint => exact ⟨compiler.registry, rfl, rfl⟩
  | ok flags =>
    rw [checked] at refused
    dsimp only at refused ⊢
    refine ⟨_, foldlM_registered flags compiler.registry, ?_⟩
    split
    next registry fault tried => rw [tried]
    next registry tried =>
      rw [tried] at refused
      cases refused

theorem scope_of_mem_leftovers {compiler : Compiler} {schema : Schema} {flag : Flag}
    (h : flag ∈ compiler.leftovers schema) : flag.scope = schema.name := by
  unfold leftovers at h
  split at h
  next flags checked =>
    obtain ⟨-, -, -, mapped⟩ := checkSchema_eq_ok_iff.mp checked
    exact (spelled_of_mapM_checkArg mapped ((registered_startsWith flags _).subset h)).2
  next => cases h

/-! ## 3. Compilers that differ in the flags of one scope -/

/-- Two compilers have accepted the same commands, and schemas of other names than the given one
meet the same flags in them. -/
structure AlikeBut (scope : String) (a b : Compiler) : Prop where
  catalogue : a.catalogue = b.catalogue
  commands : a.commands = b.commands
  registry : a.registry.AlikeBut scope b.registry

variable {scope : String} {a b : Compiler}

theorem registerAll_alike {flags : List Flag}
    (others : ∀ flag ∈ flags, flag.scope ≠ scope ∧ flag.scope ≠ Flag.globalScope) :
    ∀ {a b : Registry}, a.AlikeBut scope b →
      (registerAll flags a).2 = (registerAll flags b).2 ∧
        (registerAll flags a).1.AlikeBut scope (registerAll flags b).1 := by
  induction flags with
  | nil =>
    intro a b alike
    exact ⟨rfl, alike⟩
  | cons flag flags ih =>
    intro a b alike
    obtain ⟨⟨other, narrow⟩, others⟩ := List.forall_mem_cons.mp others
    rw [registerAll, registerAll]
    cases first : a.register flag with
    | error fault =>
      rw [(alike.register_error other narrow).mp first]
      exact ⟨rfl, alike⟩
    | ok a' =>
      cases second : b.register flag with
      | error fault =>
        rw [(alike.register_error other narrow).mpr second] at first
        cases first
      | ok b' => exact ih others (alike.registered first second)

theorem AlikeBut.checkSchema (alike : AlikeBut scope a b) (schema : Schema) :
    a.checkSchema schema = b.checkSchema schema := by
  unfold Compiler.checkSchema
  rw [alike.catalogue, alike.commands]

/-- A schema of another name ends alike, and the compilers stay alike. -/
theorem AlikeBut.compile (alike : AlikeBut scope a b) {schema : Schema}
    (other : schema.name ≠ scope) (narrow : schema.name ≠ Flag.globalScope) (handler : Path) :
    (a.compile schema handler).2 = (b.compile schema handler).2 ∧
      AlikeBut scope (a.compile schema handler).1 (b.compile schema handler).1 := by
  unfold Compiler.compile
  rw [alike.checkSchema]
  cases checked : b.checkSchema schema with
  | error complaint => exact ⟨rfl, alike⟩
  | ok flags =>
    have elsewhere : ∀ flag ∈ flags, flag.scope ≠ scope ∧ flag.scope ≠ Flag.globalScope := by
      intro flag hflag
      obtain ⟨-, -, -, mapped⟩ := checkSchema_eq_ok_iff.mp checked
      rw [(spelled_of_mapM_checkArg mapped hflag).2]
      exact ⟨other, narrow⟩
    have tried := registerAll_alike elsewhere alike.registry
    dsimp only
    generalize registerAll flags a.registry = first at tried
    generalize registerAll flags b.registry = second at tried
    obtain ⟨registry, fault⟩ := first
    obtain ⟨registry', _⟩ := second
    obtain ⟨rfl, rest⟩ := tried
    cases fault with
    | some fault => exact ⟨rfl, alike.catalogue, alike.commands, rest⟩
    | none =>
      refine ⟨rfl, ?_, ?_, rest⟩
      · show List.foldl _ (a.catalogue.addCommand _ _) _ =
          List.foldl _ (b.catalogue.addCommand _ _) _
        rw [alike.catalogue]
      · show a.commands ++ _ = b.commands ++ _
        rw [alike.commands]

/-! ## 4. What is seen later -/

/-- What is seen of a compiler that is given schemas in turn: for each of them how it ends, and the
commands and the notes for completion afterwards. -/
def outcomes : List (Schema × Path) → Compiler →
    List (Except SchemaFault Compiled × List Compiled × Catalogue)
  | [], _ => []
  | given :: later, compiler =>
    let next := compiler.compile given.1 given.2
    (next.2, next.1.commands, next.1.catalogue) :: outcomes later next.1

theorem AlikeBut.outcomes (alike : AlikeBut scope a b) {later : List (Schema × Path)}
    (others : ∀ given ∈ later, given.1.name ≠ scope ∧ given.1.name ≠ Flag.globalScope) :
    outcomes later a = outcomes later b := by
  induction later generalizing a b with
  | nil => rfl
  | cons given later ih =>
    obtain ⟨⟨other, narrow⟩, others⟩ := List.forall_mem_cons.mp others
    obtain ⟨same, next⟩ := alike.compile other narrow given.2
    rw [Compiler.outcomes, Compiler.outcomes, same, next.commands, next.catalogue, ih next others]

-- What is left of a refused schema does not overlap with other scopes.
theorem alikeBut_of_refused {compiler : Compiler} {schema : Schema} {handler : Path}
    {fault : SchemaFault} (refused : (compiler.compile schema handler).2 = .error fault)
    (narrow : schema.name ≠ Flag.globalScope) :
    AlikeBut schema.name (compiler.compile schema handler).1 compiler := by
  obtain ⟨registry, left, after⟩ := compile_of_refused refused
  obtain ⟨added, flags, -, -, rfl⟩ := Registry.foldlM_register_eq_ok_iff.mp left
  rw [after]
  refine ⟨rfl, rfl, ?_⟩
  intro other elsewhere bounded
  show (compiler.registry.definitions ++ added).filter _ = compiler.registry.definitions.filter _
  rw [List.filter_append]
  refine (congrArg (_ ++ ·) (List.filter_eq_nil_iff.mpr ?_)).trans (List.append_nil _)
  intro d hd overlap
  have hflag : d.flag ∈ compiler.leftovers schema := flags ▸ List.mem_map_of_mem hd
  rw [scope_of_mem_leftovers hflag] at overlap
  simp [Flag.scopesOverlap, Ne.symm elsewhere, narrow, bounded] at overlap

-- Nothing is left, so nothing has changed.
theorem compile_fst_of_leftovers_eq_nil {compiler : Compiler} {schema : Schema} {handler : Path}
    {fault : SchemaFault} (refused : (compiler.compile schema handler).2 = .error fault)
    (none : compiler.leftovers schema = []) :
    (compiler.compile schema handler).1 = compiler := by
  obtain ⟨registry, left, after⟩ := compile_of_refused refused
  rw [none] at left
  cases left
  exact after

def shortened (schema : Schema) : Schema := { schema with args := schema.args.take 1 }

theorem exists_checkSchema_shortened {compiler : Compiler} {schema : Schema}
    (some : compiler.leftovers schema ≠ []) :
    ∃ flag rest, compiler.leftovers schema = flag :: rest ∧
      compiler.checkSchema (shortened schema) = .ok [flag] ∧
      ∃ registry, compiler.registry.register flag = .ok registry := by
  unfold leftovers at some ⊢
  cases checked : compiler.checkSchema schema with
  | error complaint =>
    rw [checked] at some
    exact (some rfl).elim
  | ok flags =>
    rw [checked] at some
    dsimp only at some ⊢
    cases flags with
    | nil => exact (some rfl).elim
    | cons flag flags =>
      rw [registered] at some ⊢
      cases first : compiler.registry.register flag with
      | error fault =>
        rw [first] at some
        exact (some rfl).elim
      | ok next =>
        obtain ⟨name, free, module, mapped⟩ := checkSchema_eq_ok_iff.mp checked
        obtain ⟨arg, args, accepted, -, given⟩ :=
          List.forall₂_cons_right_iff.mp (mapM_eq_ok_iff.mp mapped)
        refine ⟨flag, _, rfl, checkSchema_eq_ok_iff.mpr ⟨name, free, module, ?_⟩, next, first⟩
        show (schema.args.take 1).mapM _ = _
        rw [given]
        exact mapM_eq_ok_iff.mpr (.cons accepted .nil)

/-- The first flag of a schema of which something is left, given again under the same name, is
accepted by the compiler as it was, and refused by the compiler that has refused the schema. -/
theorem compile_shortened_ne {compiler : Compiler} {schema : Schema} {handler : Path}
    {fault : SchemaFault} (refused : (compiler.compile schema handler).2 = .error fault)
    (some : compiler.leftovers schema ≠ []) :
    ((compiler.compile schema handler).1.compile (shortened schema) handler).2 ≠
      (compiler.compile (shortened schema) handler).2 := by
  obtain ⟨flag, rest, left, checked, next, first⟩ := exists_checkSchema_shortened some
  obtain ⟨registry, kept, after⟩ := compile_of_refused refused
  -- The flag is in the registry that is left, so it clashes with itself there.
  obtain ⟨fault', again⟩ : ∃ fault', registry.register flag = .error fault' := by
    obtain ⟨added, flags, -, -, rfl⟩ := Registry.foldlM_register_eq_ok_iff.mp kept
    obtain ⟨d, added, rfl, rfl, -⟩ := List.map_eq_cons_iff.mp (flags.trans left)
    cases again : Registry.register _ d.flag with
    | error fault' => exact ⟨fault', rfl⟩
    | ok registry' =>
      have hd : d ∈ compiler.registry.definitions ++ d :: added := by simp
      exact (Registry.register_ne_ok_of_mem hd again).elim
  have later : (({ compiler with registry } : Compiler).compile (shortened schema) handler).2 =
      .error (.document (sourceText (shortened schema)) (.flagRefused fault')) := by
    have same : ({ compiler with registry } : Compiler).checkSchema (shortened schema) =
        .ok [flag] := checked
    unfold compile
    rw [same]
    dsimp only
    rw [registerAll, again]
  have alone : (compiler.compile (shortened schema) handler).2 =
      .ok ⟨shortened schema, handler, moduleName schema.name, [flag]⟩ := by
    unfold compile
    rw [checked]
    dsimp only
    rw [registerAll, first]
    rfl
  rw [after, later, alone]
  intro same
  cases same

/-- After a schema is refused the compiler shows the same commands and notes as before.  Schemas
that it is given later are all treated as if the refused one had never been given if and only if no
flag of that one was registered before the refusal.  In any case they are treated so if neither
they nor the refused one have the scope of all commands for a name, and none of them has the name
of the refused one. -/
theorem outcomes_of_refused {compiler : Compiler} {schema : Schema} {handler : Path}
    {fault : SchemaFault} (refused : (compiler.compile schema handler).2 = .error fault) :
    ((compiler.compile schema handler).1.commands = compiler.commands ∧
        (compiler.compile schema handler).1.catalogue = compiler.catalogue) ∧
      ((∀ later, outcomes later (compiler.compile schema handler).1 = outcomes later compiler) ↔
        compiler.leftovers schema = []) ∧
      (schema.name ≠ Flag.globalScope → ∀ later : List (Schema × Path),
        (∀ given ∈ later, given.1.name ≠ schema.name ∧ given.1.name ≠ Flag.globalScope) →
          outcomes later (compiler.compile schema handler).1 = outcomes later compiler) := by
  refine ⟨?_, ⟨?_, ?_⟩, ?_⟩
  · obtain ⟨registry, -, after⟩ := compile_of_refused refused
    rw [after]
    exact ⟨rfl, rfl⟩
  · intro same
    by_contra some
    have first := List.head_eq_of_cons_eq (same [(shortened schema, handler)])
    exact compile_shortened_ne refused some (Prod.mk.inj first).1
  · intro none later
    rw [compile_fst_of_leftovers_eq_nil refused none]
  · intro narrow later others
    exact (alikeBut_of_refused refused narrow).outcomes others

def doubled : Schema :=
  { name := "x", description := "Twice", args := [{ name := "a" }, { name := "a" }]
    source := none }

def doubledHandler : Path := ⟨0, ["main.py"]⟩

theorem outcomes_of_doubled :
    (fresh.compile doubled doubledHandler).2 =
        .error (.document "x" (.flagRefused (.longTaken "a" "x" "x"))) ∧
      (¬∀ later, outcomes later (fresh.compile doubled doubledHandler).1 = outcomes later fresh) ∧
      ∀ later : List (Schema × Path),
        (∀ given ∈ later, given.1.name ≠ "x" ∧ given.1.name ≠ Flag.globalScope) →
          outcomes later (fresh.compile doubled doubledHandler).1 = outcomes later fresh := by
  have refused : (fresh.compile doubled doubledHandler).2 =
      .error (.document "x" (.flagRefused (.longTaken "a" "x" "x"))) := rfl
  have some : fresh.leftovers doubled ≠ [] := nofun
  obtain ⟨-, traceless, elsewhere⟩ := outcomes_of_refused refused
  exact ⟨refused, mt traceless.mp some, elsewhere (by decide)⟩

/-- The command with the flag declared once is accepted by a fresh compiler, and refused by one that
has refused the other declaration. -/
theorem shortened_after_doubled :
    (fresh.compile doubled doubledHandler).2 =
        .error (.document "x" (.flagRefused (.longTaken "a" "x" "x"))) ∧
      (fresh.compile (shortened doubled) doubledHandler).2 =
        .ok ⟨shortened doubled, doubledHandler, "x", [{ long := "a", scope := "x" }]⟩ ∧
      ((fresh.compile doubled doubledHandler).1.compile (shortened doubled) doubledHandler).2 =
        .error (.document "x" (.flagRefused (.longTaken "a" "x" "x"))) :=
  ⟨rfl, rfl, rfl⟩

end Compiler

end Toolsmith
