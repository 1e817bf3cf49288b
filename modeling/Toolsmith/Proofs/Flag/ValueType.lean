import Toolsmith.Flag.ValueType
import Toolsmith.Proofs.Text.Segments
/-!
# What the text of a type declares

A text declares a type with choices if it begins with the mark and some choice follows
(`ofText_eq_choice_iff`); the choices are its pieces between colons that are not empty
(`ofText_mark_append_eq_ok_iff`).  The normal form of a declared type declares it again
(`ofText_normal`).
-/

namespace Toolsmith.ValueType

variable {s : String} {choices : List String} {type : ValueType}

theorem mem_plainWords_of_lookup (found : plainWords.lookup s = some type) :
    (s, type) ∈ plainWords := by
  obtain ⟨front, back, rows, -⟩ := List.lookup_eq_some_iff.mp found
  rw [rows]
  exact List.mem_append_right front List.mem_cons_self

theorem ofText_eq_choice_iff :
    ofText s = .ok (.choice choices) ↔
      ∃ rest, Text.dropStart? s choiceMark = some rest ∧ choicesIn rest = choices ∧
        choices ≠ [] := by
  unfold ofText
  cases start : Text.dropStart? s choiceMark with
  | some rest =>
    dsimp only
    by_cases none : choicesIn rest = []
    · rw [if_pos none]
      constructor
      · intro read
        cases read
      · rintro ⟨_, same, found, some⟩
        obtain rfl := Option.some.inj same
        exact absurd (found.symm.trans none) some
    · rw [if_neg none]
      constructor
      · intro read
        obtain rfl := choice.inj (Except.ok.inj read)
        exact ⟨rest, rfl, rfl, none⟩
      · rintro ⟨_, same, rfl, -⟩
        obtain rfl := Option.some.inj same
        rfl
  | none =>
    dsimp only
    constructor
    · -- None of the words for the other types stands for one with choices.
      intro read
      split at read
      next plain found =>
        obtain rfl := Except.ok.inj read
        have row := mem_plainWords_of_lookup found
        simp [plainWords] at row
      next => cases read
    · rintro ⟨_, absent, -⟩
      cases absent

/-- A text that begins with the mark declares its pieces between colons as choices, in their order
and without the empty ones.  It is refused if none remains. -/
theorem ofText_mark_append_eq_ok_iff {rest : String} :
    ofText (choiceMark ++ rest) = .ok type ↔
      ∃ pieces, Text.Pieces ':' rest pieces ∧ pieces.filter (· ≠ "") ≠ [] ∧
        type = .choice (pieces.filter (· ≠ "")) := by
  have read : ofText (choiceMark ++ rest) =
      if choicesIn rest = [] then .error (.noChoices (choiceMark ++ rest))
      else .ok (.choice (choicesIn rest)) := by
    rw [ofText, Text.dropStart?_append]
  rw [read]
  constructor
  · intro accepted
    by_cases none : choicesIn rest = []
    · rw [if_pos none] at accepted
      cases accepted
    · rw [if_neg none] at accepted
      exact ⟨_, Text.split_eq_iff.mp rfl, none, (Except.ok.inj accepted).symm⟩
  · rintro ⟨pieces, split, some, rfl⟩
    have found : choicesIn rest = pieces.filter (· ≠ "") := by
      rw [choicesIn, Text.split_eq_iff.mpr split]
    rw [found, if_neg some]

theorem ne_nil_of_choice (read : ofText s = .ok (.choice choices)) : choices ≠ [] := by
  obtain ⟨_, -, -, some⟩ := ofText_eq_choice_iff.mp read
  exact some

theorem ne_empty_of_mem_choices (read : ofText s = .ok (.choice choices)) :
    ∀ choice ∈ choices, choice ≠ "" := by
  obtain ⟨_, -, rfl, -⟩ := ofText_eq_choice_iff.mp read
  intro choice hchoice
  exact of_decide_eq_true (List.mem_filter.mp hchoice).2

theorem colon_not_mem_of_choice (read : ofText s = .ok (.choice choices)) :
    ∀ choice ∈ choices, ':' ∉ choice.toList := by
  obtain ⟨_, -, rfl, -⟩ := ofText_eq_choice_iff.mp read
  intro choice hchoice
  exact Text.not_mem_of_mem_split (List.mem_filter.mp hchoice).1

theorem colon_not_mem_of_mem_choices (read : ofText s = .ok type) :
    ∀ choice ∈ type.choices, ':' ∉ choice.toList := by
  cases type with
  | choice choices => exact colon_not_mem_of_choice read
  | text | integer | boolean | path | switch => exact List.forall_mem_nil _

/-- The normal form of a declared type declares it again. -/
theorem ofText_normal (read : ofText s = .ok type) : ofText type.toText = .ok type := by
  cases type with
  | choice choices =>
    have some := ne_nil_of_choice read
    have kept : choicesIn (Text.join ":" choices) = choices := by
      have pieces : Text.split ':' (Text.join ":" choices) = choices :=
        Text.split_join some (colon_not_mem_of_choice read)
      rw [choicesIn, pieces, List.filter_eq_self]
      intro choice hchoice
      exact decide_eq_true (ne_empty_of_mem_choices read choice hchoice)
    exact ofText_eq_choice_iff.mpr ⟨_, Text.dropStart?_append _ _, kept, some⟩
  | text | integer | boolean | path | switch => rfl

end Toolsmith.ValueType
