import Toolsmith.Text.Segments
/-!
# Cutting at a character and joining again

Where a text is cut for the first time is said by its two parts (`cutChars_eq_some_iff`).  Pieces
without the separator that are joined with it are what the text is split into (`split_join`), and
every text is split into such pieces (`split_eq_iff`).
-/

namespace Toolsmith.Text

-- To decide what holds along a text, its own characters are tried, and not all there are.
instance decidableForallMem {p : Char → Prop} [DecidablePred p] (cs : List Char) :
    Decidable (∀ c ∈ cs, p c) :=
  List.decidableBAll p cs

/-! ## 1. The first occurrence -/

theorem cutChars_eq_none {sep : Char} {cs : List Char} (absent : sep ∉ cs) :
    cutChars sep cs = none := by
  induction cs with
  | nil => rfl
  | cons c cs ih =>
    rw [List.mem_cons, not_or] at absent
    rw [cutChars, if_neg (Ne.symm absent.1), ih absent.2]
    rfl

theorem cutChars_append {sep : Char} {start : List Char} (absent : sep ∉ start)
    (rest : List Char) : cutChars sep (start ++ sep :: rest) = some (start, rest) := by
  induction start with
  | nil => exact if_pos rfl
  | cons c start ih =>
    rw [List.mem_cons, not_or] at absent
    rw [List.cons_append, cutChars, if_neg (Ne.symm absent.1), ih absent.2]
    rfl

/-- A text is cut into two parts if the separator stands between them, and not in the first. -/
theorem cutChars_eq_some_iff {sep : Char} {cs start rest : List Char} :
    cutChars sep cs = some (start, rest) ↔ cs = start ++ sep :: rest ∧ sep ∉ start := by
  constructor
  · intro cut
    by_cases hsep : sep ∈ cs
    · obtain ⟨front, back, rfl, first⟩ := List.eq_append_cons_of_mem hsep
      rw [cutChars_append first, Option.some.injEq, Prod.mk.injEq] at cut
      obtain ⟨rfl, rfl⟩ := cut
      exact ⟨rfl, first⟩
    · rw [cutChars_eq_none hsep] at cut
      cases cut
  · rintro ⟨rfl, absent⟩
    exact cutChars_append absent rest

/-! ## 2. All occurrences -/

theorem not_mem_of_mem_splitOn {sep : Char} {piece : List Char} :
    ∀ {cs : List Char}, piece ∈ cs.splitOn sep → sep ∉ piece := by
  intro cs
  induction length : cs.length using Nat.strongRecOn generalizing cs with
  | _ n ih =>
    intro hpiece
    by_cases hsep : sep ∈ cs
    · -- The first piece ends at the first separator, and the others are those of what follows.
      obtain ⟨start, rest, rfl, first⟩ := List.eq_append_cons_of_mem hsep
      rw [List.splitOn_append_cons_self_of_not_mem first] at hpiece
      have shorter : rest.length < n := by
        rw [← length, List.length_append, List.length_cons]
        omega
      rcases List.mem_cons.mp hpiece with rfl | later
      · exact first
      · exact ih rest.length shorter rfl later
    · rw [List.splitOn_eq_singleton hsep, List.mem_singleton] at hpiece
      rw [hpiece]
      exact hsep

theorem not_mem_of_mem_split {sep : Char} {s piece : String} (hpiece : piece ∈ split sep s) :
    sep ∉ piece.toList := by
  obtain ⟨chars, hchars, rfl⟩ := List.mem_map.mp hpiece
  rw [String.toList_ofList]
  exact not_mem_of_mem_splitOn hchars

-- What every character of the parts and of the separator has, every character of the whole has.
theorem forall_mem_join {p : Char → Prop} {sep : String} (hsep : ∀ c ∈ sep.toList, p c)
    {parts : List String} (h : ∀ part ∈ parts, ∀ c ∈ part.toList, p c) :
    ∀ c ∈ (join sep parts).toList, p c := by
  rw [join, String.toList_intercalate]
  induction parts with
  | nil => exact List.forall_mem_nil _
  | cons part parts ih =>
    have others := ih fun q hq => h q (List.mem_cons_of_mem part hq)
    have first := h part List.mem_cons_self
    cases parts with
    | nil =>
      rw [List.map_singleton, List.intercalate_singleton]
      exact first
    | cons next parts =>
      rw [List.map_cons, List.map_cons, List.intercalate_cons_cons, List.forall_mem_append,
        List.forall_mem_append]
      exact ⟨⟨first, hsep⟩, others⟩

-- Joined texts end with the last of them.
theorem exists_join_concat (sep : String) (parts : List String) (last : String) :
    ∃ front, (join sep (parts ++ [last])).toList = front ++ last.toList := by
  rw [join, String.toList_intercalate]
  induction parts with
  | nil => exact ⟨[], by rw [List.nil_append, List.map_singleton, List.intercalate_singleton]; rfl⟩
  | cons part parts ih =>
    obtain ⟨front, chars⟩ := ih
    refine ⟨part.toList ++ sep.toList ++ front, ?_⟩
    rw [List.append_assoc, ← chars]
    cases parts with
    | nil => exact List.intercalate_cons_cons
    | cons next parts => exact List.intercalate_cons_cons

theorem split_join {sep : Char} {parts : List String} (nonempty : parts ≠ [])
    (absent : ∀ part ∈ parts, sep ∉ part.toList) :
    split sep (join (String.ofList [sep]) parts) = parts := by
  have pieces : (join (String.ofList [sep]) parts).toList.splitOn sep =
      parts.map String.toList := by
    rw [join, String.toList_intercalate, String.toList_ofList]
    refine List.splitOn_intercalate sep ?_ (by simpa using nonempty)
    intro chars hchars
    obtain ⟨part, hpart, rfl⟩ := List.mem_map.mp hchars
    exact absent part hpart
  rw [split, pieces, List.map_map]
  simp

theorem join_split (sep : Char) (s : String) : join (String.ofList [sep]) (split sep s) = s := by
  refine String.toList_inj.mp ?_
  have pieces : (split sep s).map String.toList = s.toList.splitOn sep := by
    rw [split, List.map_map]
    exact (List.map_congr_left fun _ _ => String.toList_ofList).trans (List.map_id _)
  rw [join, String.toList_intercalate, String.toList_ofList, pieces, List.intercalate_splitOn]

/-- Texts are the pieces of a text between the occurrences of a character if it stands in none of
them, and the text is all of them, at least one, with the character in between. -/
structure Pieces (sep : Char) (s : String) (pieces : List String) : Prop where
  nonempty : pieces ≠ []
  absent : ∀ piece ∈ pieces, sep ∉ piece.toList
  joined : join (String.ofList [sep]) pieces = s

/-- A text has one list of pieces, which is what it is split into. -/
theorem split_eq_iff {sep : Char} {s : String} {pieces : List String} :
    split sep s = pieces ↔ Pieces sep s pieces := by
  constructor
  · rintro rfl
    refine ⟨?_, fun _ hpiece => not_mem_of_mem_split hpiece, join_split sep s⟩
    rw [split, ne_eq, List.map_eq_nil_iff]
    exact List.splitOn_ne_nil _ _
  · rintro ⟨nonempty, absent, rfl⟩
    exact split_join nonempty absent

theorem dropStart?_append (start rest : String) : dropStart? (start ++ rest) start = some rest := by
  have chars : (start ++ rest).toList = start.toList ++ rest.toList := String.toList_append
  have begins : startsWith (start ++ rest) start = true := by
    rw [startsWith, chars]
    exact List.isPrefixOf_iff_prefix.mpr (List.prefix_append _ _)
  rw [dropStart?, if_pos begins, chars, List.drop_left, String.ofList_toList]

/-! ## 3. Replacing a character -/

theorem replaceFrom_singleton (c : Char) (new cs : List Char) :
    replaceFrom [c] new 0 cs = cs.flatMap fun d => if d = c then new else [d] := by
  induction cs with
  | nil => rfl
  | cons d cs ih =>
    rw [List.flatMap_cons, ← ih, replaceFrom]
    by_cases same : d = c
    · rw [if_pos same, if_pos (by simp [same])]
      rfl
    · rw [if_neg same, if_neg (by simp [Ne.symm same])]
      rfl

theorem replaceAll_of_singleton {old : String} {c : Char} (single : old.toList = [c])
    (new s : String) :
    replaceAll old new s =
      String.ofList (s.toList.flatMap fun d => if d = c then new.toList else [d]) := by
  rw [replaceAll, single, replaceFrom_singleton]

end Toolsmith.Text
