import Mathlib.Data.List.Flatten
import Toolsmith.Proofs.Text.Segments
import Toolsmith.Text.Lines
/-!
# Lines that are put together

Lines without line ends, each followed by a line feed, are what the text is cut into again
(`lines_join`).
-/

namespace Toolsmith.Text

def Unbroken (cs : List Char) : Prop := ∀ c ∈ cs, isLineEnd c = false

-- Named: a search could also find the instance that goes through all characters there are.
instance (cs : List Char) : Decidable (Unbroken cs) :=
  List.decidableBAll (fun c => isLineEnd c = false) cs

@[simp] theorem unbroken_append {cs ds : List Char} :
    Unbroken (cs ++ ds) ↔ Unbroken cs ∧ Unbroken ds := List.forall_mem_append

theorem feed_not_mem_of_unbroken {cs : List Char} (h : Unbroken cs) : '\n' ∉ cs := by
  intro feed
  cases h '\n' feed

theorem lineStep_of_isLineEnd {c : Char} (h : isLineEnd c = false)
    (state : Bool × List (List Char)) : (lineStep c state).2 = consLine c state.2 := by
  have carriage : (c == '\r') = false := by
    rw [beq_eq_false_iff_ne]
    rintro rfl
    cases h
  rw [lineStep, carriage, h]
  rfl

/-- Texts without line ends, joined with a separator without one, have none. -/
theorem unbroken_join {sep : String} (hsep : Unbroken sep.toList) {parts : List String}
    (h : ∀ part ∈ parts, Unbroken part.toList) : Unbroken (join sep parts).toList :=
  forall_mem_join hsep h

-- A line that a line feed follows is the first line.
theorem lineChars_append {line : List Char} (h : Unbroken line) (rest : List Char) :
    lineChars (line ++ '\n' :: rest) = line :: lineChars rest := by
  induction line with
  | nil => rfl
  | cons c line ih =>
    have shorter := ih fun d hd => h d (List.mem_cons_of_mem c hd)
    unfold lineChars at shorter ⊢
    rw [List.cons_append, List.foldr_cons, lineStep_of_isLineEnd (h c List.mem_cons_self), shorter]
    rfl

theorem lineChars_flatMap {parts : List (List Char)} (h : ∀ line ∈ parts, Unbroken line) :
    lineChars (parts.flatMap fun line => line ++ ['\n']) = parts := by
  induction parts with
  | nil => rfl
  | cons line parts ih =>
    rw [List.flatMap_cons, List.append_assoc, List.singleton_append,
      lineChars_append (h line List.mem_cons_self),
      ih fun l hl => h l (List.mem_cons_of_mem line hl)]

theorem intercalate_append_eq_flatMap {parts : List (List Char)} (nonempty : parts ≠ []) :
    ['\n'].intercalate parts ++ ['\n'] = parts.flatMap fun line => line ++ ['\n'] := by
  induction parts with
  | nil => exact absurd rfl nonempty
  | cons line parts ih =>
    cases parts with
    | nil => simp
    | cons next parts =>
      rw [List.intercalate_cons_cons, List.flatMap_cons, ← ih (List.cons_ne_nil next parts)]
      simp

/-- A text that consists of lines with a line feed behind each is cut into these lines. -/
theorem lines_eq {s : String} {parts : List String}
    (chars : s.toList = parts.flatMap fun line => line.toList ++ ['\n'])
    (h : ∀ line ∈ parts, Unbroken line.toList) : lines s = parts := by
  have unbroken : ∀ line ∈ parts.map String.toList, Unbroken line := by
    intro line hline
    obtain ⟨part, hpart, rfl⟩ := List.mem_map.mp hline
    exact h part hpart
  have mapped := lineChars_flatMap unbroken
  rw [List.flatMap_map, ← chars] at mapped
  rw [lines, mapped, List.map_map]
  simp

theorem toList_join_append {parts : List String} (nonempty : parts ≠ []) :
    (join "\n" parts ++ "\n").toList = parts.flatMap fun line => line.toList ++ ['\n'] := by
  rw [join, String.toList_append, String.toList_intercalate,
    ← List.flatMap_map String.toList fun line => line ++ ['\n']]
  exact intercalate_append_eq_flatMap (by simpa using nonempty)

/-- Lines that are joined with line feeds, and the last of them ended, are cut apart again. -/
theorem lines_join {parts : List String} (nonempty : parts ≠ [])
    (h : ∀ line ∈ parts, Unbroken line.toList) : lines (join "\n" parts ++ "\n") = parts :=
  lines_eq (toList_join_append nonempty) h

-- Cut at line feeds alone, the text has one more piece, which is empty.
theorem split_of_chars {s : String} {parts : List String}
    (chars : s.toList = parts.flatMap fun line => line.toList ++ ['\n'])
    (h : ∀ line ∈ parts, '\n' ∉ line.toList) : split '\n' s = parts ++ [""] := by
  have pieces : (parts.flatMap fun line => line.toList ++ ['\n']).splitOn '\n' =
      parts.map String.toList ++ [[]] := by
    clear chars
    induction parts with
    | nil => rfl
    | cons line parts ih =>
      have others := ih fun l hl => h l (List.mem_cons_of_mem line hl)
      rw [List.flatMap_cons, List.append_assoc, List.singleton_append,
        List.splitOn_append_cons_self_of_not_mem (h line List.mem_cons_self), others]
      rfl
  rw [split, chars, pieces, List.map_append, List.map_map]
  simp

-- If some lines of a text are the whole text, they are all of its lines.
theorem eq_of_join_eq {some all : List String} (within : some.Sublist all) (nonempty : some ≠ [])
    (same : join "\n" some = join "\n" all) : some = all := by
  let fed (line : String) : List Char := line.toList ++ ['\n']
  have chars : some.flatMap fed = all.flatMap fed := by
    have others : all ≠ [] := by
      rintro rfl
      exact nonempty (List.sublist_nil.mp within)
    rw [← toList_join_append nonempty, same, toList_join_append others]
  have longer : ∀ {some all : List String}, some.Sublist all →
      some.flatMap fed = all.flatMap fed → some = all := by
    intro some all within
    induction within with
    | slnil => exact fun _ => rfl
    | @cons some all line within ih =>
      -- A line that is left out leaves the text shorter.
      intro same
      have shorter := (within.flatMap fed).length_le
      have lengths := congrArg List.length same
      rw [List.flatMap_cons, List.length_append, List.length_append, List.length_singleton]
        at lengths
      omega
    | cons_cons line within ih =>
      intro same
      rw [List.flatMap_cons, List.flatMap_cons, List.append_cancel_left_eq] at same
      rw [ih same]
  exact longer within chars

@[simp] theorem unifyNewlines_cons {c : Char} (h : c ≠ '\r') (cs : List Char) :
    unifyNewlines (c :: cs) = c :: unifyNewlines cs := by
  have other : (c == '\r') = false := beq_eq_false_iff_ne.mpr h
  unfold unifyNewlines
  rw [List.foldr_cons, newlineStep, other]
  rfl

-- A carriage return adds a line feed, or nothing where one follows.
theorem unifyNewlines_return (cs : List Char) :
    unifyNewlines ('\r' :: cs) = unifyNewlines cs ∨
      unifyNewlines ('\r' :: cs) = '\n' :: unifyNewlines cs := by
  unfold unifyNewlines
  rw [List.foldr_cons]
  cases feeds : (cs.foldr newlineStep (false, [])).1 with
  | true =>
    rw [newlineStep, feeds]
    exact .inl rfl
  | false =>
    rw [newlineStep, feeds]
    exact .inr rfl

theorem unifyNewlines_append {cs : List Char} (h : '\r' ∉ cs) (rest : List Char) :
    unifyNewlines (cs ++ rest) = cs ++ unifyNewlines rest := by
  induction cs with
  | nil => rfl
  | cons c cs ih =>
    obtain ⟨first, others⟩ := List.ne_and_not_mem_of_not_mem_cons h
    rw [List.cons_append, unifyNewlines_cons first.symm, ih others, List.cons_append]

end Toolsmith.Text
