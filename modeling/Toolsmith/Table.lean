/-!
# Tables

A table holds one value per key and remembers the order in which its keys first came in.
Writing to a key that is present changes its value and leaves it in its place.  The main
statements, `get?_put_self` and `get?_put_of_ne`, say what a write does to later look-ups.
-/

namespace Toolsmith

/-! ## 1. Rows and writes -/

/-- Values under text keys, in the order of each key's first write. -/
structure Table (α : Type) where
  rows : List (String × α)
  deriving DecidableEq, Repr

namespace Table

variable {α : Type}

def empty : Table α := ⟨[]⟩

instance : Inhabited (Table α) := ⟨empty⟩

def keys (t : Table α) : List String := t.rows.map (·.1)

def values (t : Table α) : List α := t.rows.map (·.2)

def get? (t : Table α) (key : String) : Option α := t.rows.lookup key

def has (t : Table α) (key : String) : Bool := (t.get? key).isSome

/-- Rows after a write: the row of the key changes in place, a new key goes last. -/
def putRow (key : String) (value : α) : List (String × α) → List (String × α)
  | [] => [(key, value)]
  | (k, v) :: rows => if key = k then (k, value) :: rows else (k, v) :: putRow key value rows

def put (t : Table α) (key : String) (value : α) : Table α := ⟨putRow key value t.rows⟩

/-- The table that a list of writes leaves behind; of two writes to one key the later stays. -/
def ofList (writes : List (String × α)) : Table α :=
  writes.foldl (fun t w => t.put w.1 w.2) empty

/-! ## 2. What a write does -/

@[simp] theorem get?_empty (key : String) : (empty : Table α).get? key = none := rfl

/-- A written row is found. -/
theorem lookup_putRow_self (key : String) (value : α) (rows : List (String × α)) :
    (putRow key value rows).lookup key = some value := by
  induction rows with
  | nil => simp [putRow]
  | cons row rows ih =>
    obtain ⟨k, v⟩ := row
    by_cases h : key = k
    · simp [putRow, h]
    · simp [putRow, h, List.lookup_cons, ih, beq_eq_false_iff_ne.2 h]

/-- The rows of other keys are found as before. -/
theorem lookup_putRow_of_ne {key other : String} (value : α) (rows : List (String × α))
    (h : other ≠ key) : (putRow key value rows).lookup other = rows.lookup other := by
  induction rows with
  | nil => simp [putRow, List.lookup_cons, beq_eq_false_iff_ne.2 h]
  | cons row rows ih =>
    obtain ⟨k, v⟩ := row
    by_cases hk : key = k
    · subst hk; simp [putRow, List.lookup_cons, beq_eq_false_iff_ne.2 h]
    · simp [putRow, hk, List.lookup_cons, ih]

/-- A written value is read back. -/
@[simp] theorem get?_put_self (t : Table α) (key : String) (value : α) :
    (t.put key value).get? key = some value :=
  lookup_putRow_self key value t.rows

/-- A write to one key leaves the others alone. -/
@[simp] theorem get?_put_of_ne {key other : String} (t : Table α) (value : α) (h : other ≠ key) :
    (t.put key value).get? other = t.get? other :=
  lookup_putRow_of_ne value t.rows h

/-! ## 3. Rows and look-ups -/

-- A write passes over the rows of other keys.
theorem putRow_append {key : String} {front : List (String × α)}
    (absent : key ∉ front.map (·.1)) (value : α) (back : List (String × α)) :
    putRow key value (front ++ back) = front ++ putRow key value back := by
  induction front with
  | nil => rfl
  | cons row front ih =>
    rw [List.map_cons, List.mem_cons, not_or] at absent
    rw [List.cons_append, putRow, if_neg absent.1, ih absent.2, List.cons_append]

-- A value that is there already is written in its place.
theorem putRow_of_lookup {key : String} {value : α} {rows : List (String × α)}
    (found : rows.lookup key = some value) : putRow key value rows = rows := by
  induction rows with
  | nil => cases found
  | cons row rows ih =>
    obtain ⟨k, v⟩ := row
    by_cases same : key = k
    · subst same
      rw [List.lookup_cons_self] at found
      rw [putRow, if_pos rfl, Option.some.inj found]
    · rw [List.lookup_cons, beq_eq_false_iff_ne.mpr same] at found
      rw [putRow, if_neg same, ih found]

theorem get?_eq_none_of_not_mem {t : Table α} {key : String} (absent : key ∉ t.keys) :
    t.get? key = none := by
  refine List.lookup_eq_none_iff.mpr ?_
  intro row hrow
  refine bne_iff_ne.mpr ?_
  rintro rfl
  exact absent (List.mem_map_of_mem hrow)

-- Under distinct keys every row is found.
theorem lookup_eq_some_iff {rows : List (String × α)} (distinct : (rows.map (·.1)).Nodup)
    {key : String} {value : α} : rows.lookup key = some value ↔ (key, value) ∈ rows := by
  induction rows with
  | nil => simp
  | cons row rows ih =>
    obtain ⟨k, v⟩ := row
    obtain ⟨first, others⟩ := List.nodup_cons.mp distinct
    by_cases same : key = k
    · subst same
      have absent : (key, value) ∉ rows := fun present =>
        first (List.mem_map.mpr ⟨_, present, rfl⟩)
      rw [List.lookup_cons_self, List.mem_cons, or_iff_left absent]
      simp [eq_comm]
    · rw [List.lookup_cons, beq_eq_false_iff_ne.mpr same, List.mem_cons, ← ih others]
      simp [same]

-- A value is found if its row is there and no other value stands under its key.
theorem get?_eq_some_of_unique {t : Table α} {key : String} {value : α}
    (row : (key, value) ∈ t.rows) (unique : ∀ v, (key, v) ∈ t.rows → v = value) :
    t.get? key = some value := by
  cases found : t.get? key with
  | none =>
    have absent := List.lookup_eq_none_iff.mp found _ row
    exact absurd rfl (bne_iff_ne.mp absent)
  | some v =>
    obtain ⟨front, back, rows, -⟩ := List.lookup_eq_some_iff.mp found
    have hv : (key, v) ∈ t.rows := by
      rw [rows]
      exact List.mem_append_right front List.mem_cons_self
    rw [unique v hv]

end Table

end Toolsmith
