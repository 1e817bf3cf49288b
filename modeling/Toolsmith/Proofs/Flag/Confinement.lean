import Toolsmith.Proofs.Flag.Reading
/-!
# How far a command line reaches

A command line sets, accepts and demands nothing but flags that its command sees.  What each step
of a reading keeps, the whole pass keeps (`scan_induction`); so the one thing to know about a
command is which flags it sees (`confined_iff`).
-/

namespace Toolsmith

def Token.keys : Token → List String
  | .assignment key _ => [key]
  | .bare key => [key]
  | .cluster keys => keys.map fun key => String.ofList [key]
  | .positional => []

-- The keys in some tokens.
def keysIn (tokens : List String) : List String :=
  tokens.flatMap fun token => (Token.ofText token).keys

theorem mem_keysIn {tokens : List String} {key : String} :
    key ∈ keysIn tokens ↔ ∃ token ∈ tokens, key ∈ (Token.ofText token).keys :=
  List.mem_flatMap

namespace Registry

/-- The flags that a command has to do with: it sees these and no others, a command line of it that
is read to its end has only keys that denote one of them, changes values only under their names, and
is refused for a missing flag only if that is one of them. -/
structure Confined (registry : Registry) (command : String) (flags : List Flag) : Prop where
  seen : (registry.visible command).map Definition.flag = flags
  accepted : ∀ files tokens, (registry.parse files command tokens).2 = none →
    ∀ token ∈ tokens, ∀ key ∈ (Token.ofText token).keys,
      ∃ d, resolve registry.definitions command key = .ok d ∧ d.flag ∈ flags
  changed : ∀ files tokens long,
    (registry.parse files command tokens).1.values.get? long ≠
        (registry.defaults command).get? long →
      ∃ flag ∈ flags, flag.long = long
  demanded : ∀ files tokens long,
    (registry.parse files command tokens).2 = some (.usage (.missingFlag long)) →
      ∃ flag ∈ flags, flag.required = true ∧ flag.long = long

variable {registry : Registry} {command : String} {files : Files}

theorem mem_visible_of_resolve {key : String} {d : Definition}
    (resolved : resolve registry.definitions command key = .ok d) :
    d ∈ registry.visible command :=
  List.mem_of_find?_eq_some (resolve_eq_ok_iff.mp resolved)

/-! ## 1. What the steps keep -/

section Induction

variable {P : Reading → Prop} {Q : Failure → Prop}

/-- What has been read has a property, and so has the failure if there is one. -/
def Keeps (P : Reading → Prop) (Q : Failure → Prop) (outcome : Outcome) : Prop :=
  P outcome.1 ∧ ∀ failure, outcome.2 = some failure → Q failure

theorem Keeps.followedBy {outcome : Outcome} {next : Reading → Outcome}
    (first : Keeps P Q outcome) (rest : ∀ reading, P reading → Keeps P Q (next reading)) :
    Keeps P Q (Reading.followedBy outcome next) := by
  obtain ⟨reading, failure⟩ := outcome
  cases failure with
  | none => exact rest reading first.1
  | some failure => exact first

theorem keeps_assign {key value : String}
    (store : ∀ d, resolve registry.definitions command key = .ok d → ∀ value reading, P reading →
      Keeps P Q (reading.store files d value))
    (unresolved : ∀ fault, resolve registry.definitions command key = .error fault →
      Q (.usage fault)) {reading : Reading} (h : P reading) :
    Keeps P Q (reading.assign files registry.definitions command key value) := by
  unfold Reading.assign
  cases resolved : resolve registry.definitions command key with
  | ok d => exact store d resolved value reading h
  | error fault =>
    refine ⟨h, ?_⟩
    rintro _ ⟨⟩
    exact unresolved fault resolved

theorem keeps_assignAll {keys : List Char}
    (store : ∀ key ∈ keys, ∀ d,
      resolve registry.definitions command (String.ofList [key]) = .ok d →
        ∀ value reading, P reading → Keeps P Q (reading.store files d value))
    (unresolved : ∀ key ∈ keys, ∀ fault,
      resolve registry.definitions command (String.ofList [key]) = .error fault →
        Q (.usage fault)) {reading : Reading} (h : P reading) :
    Keeps P Q (Reading.assignAll files registry.definitions command keys reading) := by
  induction keys generalizing reading with
  | nil => exact ⟨h, nofun⟩
  | cons key keys ih =>
    refine (keeps_assign (store key List.mem_cons_self)
      (unresolved key List.mem_cons_self) h).followedBy ?_
    intro reading h
    exact ih (fun key hkey => store key (List.mem_cons_of_mem _ hkey))
      (fun key hkey => unresolved key (List.mem_cons_of_mem _ hkey)) h

/-- What storing a value keeps for every flag that a key of the tokens denotes, and adding a
positional argument, the pass over the tokens keeps; and it fails as one of its steps does. -/
theorem scan_induction {tokens : List String}
    (store : ∀ key ∈ keysIn tokens, ∀ d,
      resolve registry.definitions command key = .ok d → ∀ value reading, P reading →
        Keeps P Q (reading.store files d value))
    (unresolved : ∀ key ∈ keysIn tokens, ∀ fault,
      resolve registry.definitions command key = .error fault → Q (.usage fault))
    (positional : ∀ token reading, P reading →
      P { reading with positionals := reading.positionals ++ [token] })
    {reading : Reading} (h : P reading) :
    Keeps P Q (Reading.scan files registry.definitions command tokens reading) := by
  match tokens with
  | [] => exact ⟨h, nofun⟩
  | token :: tokens =>
    -- The keys of the first token are asked first, then those of the tokens that are left.
    have first : ∀ key ∈ (Token.ofText token).keys, key ∈ keysIn (token :: tokens) :=
      fun key hkey => mem_keysIn.mpr ⟨token, List.mem_cons_self, hkey⟩
    have later (rest : List String) (suffix : rest <:+ tokens) (reading : Reading)
        (h : P reading) :
        Keeps P Q (Reading.scan files registry.definitions command rest reading) := by
      have among : ∀ key ∈ keysIn rest, key ∈ keysIn (token :: tokens) := by
        intro key hkey
        obtain ⟨other, hother, hkey⟩ := mem_keysIn.mp hkey
        exact mem_keysIn.mpr ⟨other, List.mem_cons_of_mem _ (suffix.subset hother), hkey⟩
      have shorter : rest.length < (token :: tokens).length :=
        Nat.lt_succ_of_le suffix.length_le
      exact scan_induction (fun key hkey => store key (among key hkey))
        (fun key hkey => unresolved key (among key hkey)) positional h
    have storeFirst : ∀ key ∈ (Token.ofText token).keys, _ := fun key hkey =>
      store key (first key hkey)
    have unresolvedFirst : ∀ key ∈ (Token.ofText token).keys, _ := fun key hkey =>
      unresolved key (first key hkey)
    cases shape : Token.ofText token with
    | assignment key value =>
      rw [shape] at storeFirst unresolvedFirst
      rw [Reading.scan_assignment shape]
      exact (keeps_assign (storeFirst key List.mem_cons_self)
        (unresolvedFirst key List.mem_cons_self) h).followedBy
        (later tokens List.suffix_rfl)
    | cluster keys =>
      rw [shape] at storeFirst unresolvedFirst
      rw [Reading.scan_cluster shape]
      exact (keeps_assignAll (fun key hkey => storeFirst _ (List.mem_map_of_mem hkey))
        (fun key hkey => unresolvedFirst _ (List.mem_map_of_mem hkey)) h).followedBy
        (later tokens List.suffix_rfl)
    | positional =>
      rw [Reading.scan_positional shape]
      exact later tokens List.suffix_rfl _ (positional token reading h)
    | bare key =>
      rw [shape] at storeFirst unresolvedFirst
      cases resolved : resolve registry.definitions command key with
      | error fault =>
        rw [Reading.scan_unresolved shape resolved]
        refine ⟨h, ?_⟩
        rintro _ ⟨⟩
        exact unresolvedFirst key List.mem_cons_self fault resolved
      | ok d =>
        rw [Reading.scan_bare shape resolved]
        exact (storeFirst key List.mem_cons_self d resolved _ reading h).followedBy
          (later (d.taken tokens).2 (d.taken_suffix tokens))
termination_by tokens.length
decreasing_by exact shorter

end Induction

/-! ## 2. Keys -/

theorem followedBy_snd_eq_none_iff {outcome : Outcome} {next : Reading → Outcome} :
    (Reading.followedBy outcome next).2 = none ↔
      outcome.2 = none ∧ (next outcome.1).2 = none := by
  obtain ⟨reading, failure⟩ := outcome
  cases failure with
  | none => exact ⟨fun h => ⟨rfl, h⟩, fun h => h.2⟩
  | some failure => exact ⟨nofun, fun h => absurd h.1 (by nofun)⟩

theorem exists_resolve_of_assign {key value : String} {reading : Reading}
    (h : (reading.assign files registry.definitions command key value).2 = none) :
    ∃ d, resolve registry.definitions command key = .ok d := by
  unfold Reading.assign at h
  cases resolved : resolve registry.definitions command key with
  | ok d => exact ⟨d, rfl⟩
  | error fault => rw [resolved] at h; cases h

theorem exists_resolve_of_assignAll {keys : List Char} {reading : Reading}
    (h : (Reading.assignAll files registry.definitions command keys reading).2 = none) :
    ∀ key ∈ keys, ∃ d, resolve registry.definitions command (String.ofList [key]) = .ok d := by
  induction keys generalizing reading with
  | nil => exact List.forall_mem_nil _
  | cons key keys ih =>
    obtain ⟨first, rest⟩ := followedBy_snd_eq_none_iff.mp h
    exact List.forall_mem_cons.mpr ⟨exists_resolve_of_assign first, ih rest⟩

-- The keys of a token are looked up as soon as the pass comes to it.
theorem exists_resolve_of_scan_cons {token : String} {tokens : List String} {reading : Reading}
    (h : (Reading.scan files registry.definitions command (token :: tokens) reading).2 = none) :
    ∀ key ∈ (Token.ofText token).keys,
      ∃ d, resolve registry.definitions command key = .ok d := by
  cases shape : Token.ofText token with
  | assignment key value =>
    rw [Reading.scan_assignment shape] at h
    exact List.forall_mem_singleton.mpr
      (exists_resolve_of_assign (followedBy_snd_eq_none_iff.mp h).1)
  | cluster keys =>
    rw [Reading.scan_cluster shape] at h
    exact List.forall_mem_map.mpr
      (exists_resolve_of_assignAll (followedBy_snd_eq_none_iff.mp h).1)
  | positional => exact List.forall_mem_nil _
  | bare key =>
    refine List.forall_mem_singleton.mpr ?_
    cases resolved : resolve registry.definitions command key with
    | ok d => exact ⟨d, rfl⟩
    | error fault =>
      rw [Reading.scan_unresolved shape resolved] at h
      cases h

/-- In a command line that is read to its end every key denotes a flag: a token with keys is never
taken for a value. -/
theorem exists_resolve_of_scan {tokens : List String} {reading : Reading}
    (h : (Reading.scan files registry.definitions command tokens reading).2 = none)
    {token : String} (htoken : token ∈ tokens) {key : String}
    (hkey : key ∈ (Token.ofText token).keys) :
    ∃ d, resolve registry.definitions command key = .ok d := by
  have dashed : isDashed token = true := by
    refine isDashed_of_ofText_ne ?_
    intro shape
    rw [shape] at hkey
    cases hkey
  obtain ⟨before, after, rfl⟩ := List.append_of_mem htoken
  rw [Reading.scan_append dashed] at h
  exact exists_resolve_of_scan_cons (followedBy_snd_eq_none_iff.mp h).2 key hkey

/-! ## 3. Values and demands -/

-- A name that no visible flag has keeps the value with which the reading starts.
theorem get?_pass {long : String} (unseen : ∀ d ∈ registry.visible command, d.flag.long ≠ long)
    (tokens : List String) :
    (registry.pass files command tokens).1.values.get? long =
      (registry.defaults command).get? long := by
  refine (scan_induction (Q := fun _ => True)
    (P := fun reading => reading.values.get? long = (registry.defaults command).get? long)
    ?_ (fun _ _ _ _ => trivial) (fun _ _ h => h) rfl).1
  intro key _ d resolved value reading h
  have ne := (unseen d (mem_visible_of_resolve resolved)).symm
  exact ⟨(Reading.get?_store_of_ne reading d value ne).trans h, fun _ _ => trivial⟩

theorem fault_of_resolve {key : String} {fault : UsageFault}
    (refused : resolve registry.definitions command key = .error fault) :
    (∃ long, fault = .foreignFlag long command) ∨ fault = .unknownFlag key := by
  unfold resolve at refused
  split at refused
  next => cases refused
  next =>
    split at refused
    next d _ =>
      cases refused
      exact .inl ⟨d.flag.long, rfl⟩
    next =>
      cases refused
      exact .inr rfl

-- The pass over the tokens asks that keys denote flags and that values are of their types.
theorem failure_of_pass {tokens : List String} {failure : Failure}
    (failed : (registry.pass files command tokens).2 = some failure) :
    (∃ key fault, resolve registry.definitions command key = .error fault ∧
        failure = .usage fault) ∨
      ∃ fault, failure = .validation fault := by
  let Expected (failure : Failure) : Prop :=
    (∃ key fault, resolve registry.definitions command key = .error fault ∧
        failure = .usage fault) ∨
      ∃ fault, failure = .validation fault
  have kept : Keeps (fun _ => True) Expected (registry.pass files command tokens) := by
    refine scan_induction ?_ (fun key _ fault refused => .inl ⟨key, fault, refused, rfl⟩)
      (fun _ _ h => h) trivial
    intro key _ d _ value reading _
    refine ⟨trivial, ?_⟩
    unfold Reading.store
    cases accept files d.flag.long d.type value with
    | ok v => nofun
    | error fault =>
      rintro _ ⟨⟩
      exact .inr ⟨fault, rfl⟩
  exact kept.2 failure failed

-- What is missing is a required flag of the command.
theorem exists_of_missing? {fault : UsageFault} (missing : registry.missing? command = some fault) :
    ∃ d ∈ registry.visible command, d.flag.required = true ∧ fault = .missingFlag d.flag.long := by
  obtain ⟨d, hd, found⟩ := List.exists_of_findSome?_eq_some missing
  split at found
  next required =>
    rw [Bool.and_eq_true] at required
    cases found
    exact ⟨d, hd, required.1, rfl⟩
  next => cases found

theorem exists_of_conflict? {fault : UsageFault} (conflict : registry.conflict? = some fault) :
    ∃ longs, fault = .conflict longs := by
  obtain ⟨longs, -, found⟩ := List.exists_of_findSome?_eq_some conflict
  dsimp only at found
  split at found
  next =>
    cases found
    exact ⟨_, rfl⟩
  next => cases found

/-- The faults of usage in a command line: a key denotes no flag of the command, a required flag of
the command is missing, or flags are set that exclude each other. -/
theorem fault_of_parse {tokens : List String} {fault : UsageFault}
    (failed : (registry.parse files command tokens).2 = some (.usage fault)) :
    (∃ key, resolve registry.definitions command key = .error fault) ∨
      (∃ d ∈ registry.visible command,
        d.flag.required = true ∧ fault = .missingFlag d.flag.long) ∨
      ∃ longs, fault = .conflict longs := by
  rw [parse_snd, Option.or_eq_some_iff] at failed
  rcases failed with passed | ⟨-, failed⟩
  · rcases failure_of_pass passed with ⟨key, _, refused, same⟩ | ⟨_, same⟩
    · obtain rfl := Failure.usage.inj same
      exact .inl ⟨key, refused⟩
    · cases same
  · obtain ⟨_, late, same⟩ := Option.map_eq_some_iff.mp failed
    obtain rfl := Failure.usage.inj same
    rcases Option.or_eq_some_iff.mp late with missing | ⟨-, conflict⟩
    · obtain ⟨d, hd, required, same⟩ := exists_of_missing? missing
      rw [visible_parse] at hd
      exact .inr (.inl ⟨d, hd, required, same⟩)
    · exact .inr (.inr (exists_of_conflict? conflict))

/-- Which flags a command sees decides what its command lines set, accept and demand. -/
theorem confined_iff {flags : List Flag} :
    registry.Confined command flags ↔
      (registry.visible command).map Definition.flag = flags := by
  refine ⟨Confined.seen, ?_⟩
  rintro rfl
  refine ⟨rfl, ?_, ?_, ?_⟩
  · intro files tokens passed token htoken key hkey
    rw [parse_snd, Option.or_eq_none_iff] at passed
    obtain ⟨d, resolved⟩ := exists_resolve_of_scan passed.1 htoken hkey
    exact ⟨d, resolved, List.mem_map_of_mem (mem_visible_of_resolve resolved)⟩
  · intro files tokens long changed
    by_contra unseen
    refine changed ?_
    rw [values_parse]
    refine get?_pass ?_ tokens
    intro d hd same
    exact unseen ⟨d.flag, List.mem_map_of_mem hd, same⟩
  · intro files tokens long failed
    rcases fault_of_parse failed with ⟨key, refused⟩ | ⟨d, hd, required, same⟩ | ⟨longs, ⟨⟩⟩
    · rcases fault_of_resolve refused with ⟨_, foreign⟩ | unknown
      · cases foreign
      · cases unknown
    · obtain rfl := UsageFault.missingFlag.inj same
      exact ⟨d.flag, List.mem_map_of_mem hd, required, rfl⟩

end Registry

end Toolsmith
