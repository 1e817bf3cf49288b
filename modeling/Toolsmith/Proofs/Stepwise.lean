import Mathlib.Data.List.Forall2
import Toolsmith.Failure
/-!
# Steps that may fail

When a sequence of steps, of which each may fail, gives a result: every one of them has to.  The
reading of a document is settled if it gives the right kind of result or a failure of its own kind
(`Settled`).
-/

namespace Toolsmith

variable {ε α β : Type}

theorem bind_eq_ok_iff {step : Except ε α} {next : α → Except ε β} {result : β} :
    step >>= next = .ok result ↔ ∃ a, step = .ok a ∧ next a = .ok result := by
  cases step with
  | error fault => simp [bind, Except.bind]
  | ok a => simp [bind, Except.bind]

theorem map_eq_ok_iff {step : Except ε α} {f : α → β} {result : β} :
    step.map f = .ok result ↔ ∃ a, step = .ok a ∧ f a = result := by
  cases step with
  | error fault => simp [Except.map]
  | ok a => simp [Except.map]

theorem exists_error_iff {result : Except ε α} :
    (∃ fault, result = .error fault) ↔ ¬∃ a, result = .ok a := by
  cases result <;> simp

-- A step behind a refusal is taken if the reason for the refusal is not there.
theorem refusal_eq_ok_iff {reason : Prop} [Decidable reason] {fault : ε}
    {skipped : PUnit → Except ε α} {next : Except ε α} {result : α} :
    (if reason then (throw fault : Except ε PUnit) >>= skipped else next) = .ok result ↔
      ¬reason ∧ next = .ok result := by
  by_cases h : reason
  · simp [h, throw, throwThe, MonadExceptOf.throw, bind, Except.bind]
  · simp [h]

/-- A step for each of some items gives results if each step does, in their order. -/
theorem mapM_eq_ok_iff {step : α → Except ε β} {items : List α} {results : List β} :
    items.mapM step = .ok results ↔ List.Forall₂ (fun a b => step a = .ok b) items results := by
  induction items generalizing results with
  | nil => simp [pure, Except.pure, eq_comm]
  | cons a items ih =>
    rw [List.mapM_cons, bind_eq_ok_iff]
    constructor
    · rintro ⟨b, first, h⟩
      obtain ⟨rest, others, h⟩ := bind_eq_ok_iff.mp h
      cases h
      exact .cons first (ih.mp others)
    · intro h
      cases h with
      | cons first others => exact ⟨_, first, bind_eq_ok_iff.mpr ⟨_, ih.mpr others, rfl⟩⟩

-- Steps that all succeed succeed one after another.
theorem mapM_map_eq_ok {γ : Type} {step : α → Except ε β} {f : γ → α} {g : γ → β}
    {items : List γ} (each : ∀ a ∈ items, step (f a) = .ok (g a)) :
    (items.map f).mapM step = .ok (items.map g) := by
  rw [mapM_eq_ok_iff, List.forall₂_map_left_iff, List.forall₂_map_right_iff, List.forall₂_same]
  exact each

theorem mapM_map_eq_some {γ : Type} {step : α → Option β} {f : γ → α} {g : γ → β} {items : List γ}
    (each : ∀ a ∈ items, step (f a) = some (g a)) :
    (items.map f).mapM step = some (items.map g) := by
  induction items with
  | nil => rfl
  | cons a items ih =>
    rw [List.map_cons, List.mapM_cons, each a List.mem_cons_self,
      ih fun a ha => each a (List.mem_cons_of_mem _ ha)]
    rfl

theorem exists_of_mem_mapM {step : α → Except ε β} {items : List α} {results : List β}
    (done : items.mapM step = .ok results) {b : β} (hb : b ∈ results) :
    ∃ a ∈ items, step a = .ok b := by
  have all := mapM_eq_ok_iff.mp done
  clear done
  induction all with
  | nil => cases hb
  | cons first _ ih =>
    rcases List.mem_cons.mp hb with rfl | hb
    · exact ⟨_, List.mem_cons_self, first⟩
    · obtain ⟨a, ha, done⟩ := ih hb
      exact ⟨a, List.mem_cons_of_mem _ ha, done⟩

theorem findSome?_congr {items : List α} {f g : α → Option β}
    (h : ∀ a ∈ items, f a = g a) : items.findSome? f = items.findSome? g := by
  induction items with
  | nil => rfl
  | cons a items ih =>
    rw [List.findSome?_cons, List.findSome?_cons, h a List.mem_cons_self,
      ih fun b hb => h b (List.mem_cons_of_mem a hb)]

-- Items without a result may be left out of a search.
theorem findSome?_filter {items : List α} {f : α → Option β} {p : α → Bool}
    (h : ∀ a ∈ items, p a = false → f a = none) :
    (items.filter p).findSome? f = items.findSome? f := by
  induction items with
  | nil => rfl
  | cons a items ih =>
    have rest := ih fun b hb => h b (List.mem_cons_of_mem a hb)
    cases kept : p a with
    | true =>
      rw [List.filter_cons, kept, if_pos rfl, List.findSome?_cons, List.findSome?_cons, rest]
    | false =>
      rw [List.filter_cons, kept, if_neg nofun, List.findSome?_cons,
        h a List.mem_cons_self kept, rest]

-- Where one item alone has results, they are all there are.
theorem flatMap_only {items : List α} {results : α → List β} (nodup : items.Nodup) {a : α}
    (ha : a ∈ items) (others : ∀ b ∈ items, b ≠ a → results b = []) :
    items.flatMap results = results a := by
  obtain ⟨front, back, rfl⟩ := List.append_of_mem ha
  rw [List.nodup_append, List.nodup_cons] at nodup
  obtain ⟨-, ⟨later, -⟩, apart⟩ := nodup
  have before : front.flatMap results = [] := by
    refine List.flatMap_eq_nil_iff.mpr fun b hb => ?_
    exact others b (List.mem_append_left _ hb) (apart b hb a List.mem_cons_self)
  have after : back.flatMap results = [] := by
    refine List.flatMap_eq_nil_iff.mpr fun b hb => ?_
    exact others b (List.mem_append_right _ (List.mem_cons_of_mem a hb))
      fun same => later (same ▸ hb)
  rw [List.flatMap_append, List.flatMap_cons, before, after, List.append_nil]
  rfl

/-- A result as it should be, or a failure of the kind for schemas and installers. -/
def Settled (good : α → Prop) : Except Failure α → Prop
  | .ok result => good result
  | .error failure => ∃ fault, failure = .schema fault

theorem not_settled_accident (good : α → Prop) (accident : Accident) :
    ¬Settled good (.error (.accident accident)) := by
  rintro ⟨fault, same⟩
  cases same

end Toolsmith
