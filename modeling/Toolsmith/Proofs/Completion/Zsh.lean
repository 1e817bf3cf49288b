import Mathlib.Data.List.Basic
import Toolsmith.Completion.Zsh
import Toolsmith.Proofs.Text.Segments
import Toolsmith.Proofs.Text.ShellWords
/-!
# Option specifications of zsh

A specification is protected twice: in the description backslashes stand in front of the characters
that would end it, and the whole is a word between single quotes.  Both are undone by their readers,
the shell and the scanner of the specification, and what they get back is the description as it was
(`optionWord_lossless`).
-/

namespace Toolsmith.Completion.Zsh

open ShellWords

/-! ## 1. Replacing in turn -/

-- One pass protects all four characters.  Four passes over the whole text, one for each of them,
-- do the same if the backslash comes first: no later pass doubles a backslash.
theorem describe_eq_replaced (s : String) :
    describe s = ["\\", "[", "]", ":"].foldl
      (fun text part => Text.replaceAll part ("\\" ++ part) text) s := by
  have each : ∀ c, describeChar c =
      (if c = '\\' then ['\\', '\\'] else [c]).flatMap fun c =>
        (if c = '[' then ['\\', '['] else [c]).flatMap fun c =>
          (if c = ']' then ['\\', ']'] else [c]).flatMap fun c =>
            if c = ':' then ['\\', ':'] else [c] := by
    intro c
    by_cases special : isSpecial c = true
    · simp only [isSpecial, Bool.or_eq_true, beq_iff_eq] at special
      rcases special with ((rfl | rfl) | rfl) | rfl <;> rfl
    · rw [describeChar, if_neg special]
      simp only [isSpecial, Bool.or_eq_true, beq_iff_eq, not_or] at special
      obtain ⟨⟨⟨backslash, opening⟩, closing⟩, colon⟩ := special
      simp [backslash, opening, closing, colon]
  rw [List.foldl_cons, List.foldl_cons, List.foldl_cons, List.foldl_cons, List.foldl_nil,
    Text.replaceAll_of_singleton (c := ':') rfl, Text.replaceAll_of_singleton (c := ']') rfl,
    Text.replaceAll_of_singleton (c := '[') rfl, Text.replaceAll_of_singleton (c := '\\') rfl]
  simp only [String.toList_ofList, List.flatMap_assoc]
  exact congrArg String.ofList (List.flatMap_congr fun c _ => each c)

theorem quote_eq_replaced (s : String) :
    quote s = "'" ++ Text.replaceAll "'" "'\\''" s ++ "'" := by
  rw [Text.replaceAll_of_singleton (c := '\'') rfl]
  rfl

/-! ## 2. The shell -/

theorem foldl_step_quoteChar (words : List String) (done : List Char) (c : Char) :
    (quoteChar c).foldl Reader.step ⟨[], words, some done, .single⟩ =
      ⟨[], words, some (done ++ [c]), .single⟩ := by
  unfold quoteChar
  by_cases quote : c = '\''
  · rw [if_pos quote, quote]
    rfl
  · rw [if_neg quote]
    exact if_neg quote

theorem foldl_step_quoteChars (words : List String) (cs done : List Char) :
    (cs.flatMap quoteChar).foldl Reader.step ⟨[], words, some done, .single⟩ =
      ⟨[], words, some (done ++ cs), .single⟩ := by
  induction cs generalizing done with
  | nil => rw [List.flatMap_nil, List.foldl_nil, List.append_nil]
  | cons c cs ih =>
    rw [List.flatMap_cons, List.foldl_append, foldl_step_quoteChar, ih, List.append_assoc]
    rfl

theorem toList_quote (s : String) :
    (quote s).toList = '\'' :: (s.toList.flatMap quoteChar ++ ['\'']) := by
  unfold quote
  rw [String.toList_append, String.toList_append, String.toList_ofList, String.toList_ofList]
  rfl

/-- A quoted text is a word that stands for the text, whatever is in it. -/
theorem spells_quote (s : String) : Spells (quote s).toList s := by
  intro words word
  have inside := foldl_step_quoteChars words s.toList (word.getD [])
  rw [toList_quote, List.foldl_cons, List.foldl_append]
  show [_].foldl Reader.step
    ((s.toList.flatMap quoteChar).foldl Reader.step ⟨[], words, some (word.getD []), .single⟩) = _
  rw [inside]
  rfl

/-! ## 3. The scanner of specifications -/

/-- The parts before and after the first occurrence of a character that no backslash protects;
`guarded` says whether the first character is protected. -/
def cutFree (sep : Char) : Bool → List Char → Option (List Char × List Char)
  | _, [] => none
  | true, c :: cs => (cutFree sep false cs).map fun parts => (c :: parts.1, parts.2)
  | false, c :: cs =>
    if c = sep then some ([], cs)
    else (cutFree sep (c = '\\') cs).map fun parts => (c :: parts.1, parts.2)

/-- The characters without the backslashes that protect others. -/
def unprotect : Bool → List Char → List Char
  | _, [] => []
  | true, c :: cs => c :: unprotect false cs
  | false, c :: cs => if c = '\\' then unprotect true cs else c :: unprotect false cs

theorem cutFree_append {sep : Char} {text : List Char} (absent : sep ∉ text)
    (plain : '\\' ∉ text) (rest : List Char) :
    cutFree sep false (text ++ sep :: rest) = some (text, rest) := by
  induction text with
  | nil => exact if_pos rfl
  | cons c text ih =>
    rw [List.mem_cons, not_or] at absent plain
    rw [List.cons_append, cutFree, if_neg (Ne.symm absent.1), decide_eq_false (Ne.symm plain.1),
      ih absent.2 plain.2]
    rfl

section Description

variable {sep : Char} (special : isSpecial sep = true) (apart : '\\' ≠ sep)
include special apart

-- The scan passes over a special character of the description, since a backslash is in front of it.
theorem cutFree_describeChar (c : Char) (rest : List Char) :
    cutFree sep false (describeChar c ++ rest) =
      (cutFree sep false rest).map fun parts => (describeChar c ++ parts.1, parts.2) := by
  unfold describeChar
  by_cases hc : isSpecial c = true
  · rw [if_pos hc, List.cons_append, List.singleton_append, cutFree, if_neg apart,
      decide_eq_true rfl, cutFree, Option.map_map]
    rfl
  · have other : c ≠ sep := fun same => hc (same ▸ special)
    have plain : c ≠ '\\' := fun same => hc (same ▸ rfl)
    rw [if_neg hc, List.singleton_append, cutFree, if_neg other, decide_eq_false plain]
    rfl

theorem cutFree_describe (cs rest : List Char) :
    cutFree sep false (cs.flatMap describeChar ++ rest) =
      (cutFree sep false rest).map fun parts => (cs.flatMap describeChar ++ parts.1, parts.2) := by
  induction cs with
  | nil => simp
  | cons c cs ih =>
    rw [List.flatMap_cons, List.append_assoc, cutFree_describeChar special apart, ih,
      Option.map_map]
    simp [Function.comp_def]

end Description

theorem unprotect_describe (cs : List Char) : unprotect false (cs.flatMap describeChar) = cs := by
  induction cs with
  | nil => rfl
  | cons c cs ih =>
    rw [List.flatMap_cons, describeChar]
    by_cases hc : isSpecial c = true
    · rw [if_pos hc, List.cons_append, List.singleton_append, unprotect, if_pos rfl, unprotect, ih]
    · have plain : c ≠ '\\' := fun same => hc (same ▸ rfl)
      rw [if_neg hc, List.singleton_append, unprotect, if_neg plain, ih]

@[simp] theorem toList_describe (s : String) :
    (describe s).toList = s.toList.flatMap describeChar :=
  String.toList_ofList

theorem cutFree_closing (description : String) (rest : List Char) :
    cutFree ']' false ((describe description).toList ++ ']' :: rest) =
      some ((describe description).toList, rest) := by
  rw [toList_describe, cutFree_describe rfl (by decide), cutFree, if_pos rfl, Option.map_some,
    List.append_nil]

theorem cutFree_colon (description : String) :
    cutFree ':' false (describe description).toList = none := by
  have special : isSpecial ':' = true := rfl
  have scanned := cutFree_describe special (by decide) description.toList []
  rw [List.append_nil, ← toList_describe] at scanned
  exact scanned

/-! ## 4. Both -/

/-- What follows the description in a specification. -/
def behind (spelling : Spelling) : String :=
  (spelling.slot.map fun slot => action slot.offer).getD ""

@[simp] theorem toList_specification (spelling : Spelling) :
    (specification spelling).toList = spelling.text.toList ++
      '[' :: ((describe spelling.description).toList ++ ']' :: (behind spelling).toList) := by
  have opening : "[".toList = ['['] := rfl
  have closing : "]".toList = [']'] := rfl
  unfold specification
  rw [String.toList_append, String.toList_append, String.toList_append, String.toList_append,
    opening, closing]
  simp only [List.append_assoc, List.cons_append, List.nil_append]
  rfl

/-- The word of a spelling without an opening bracket or a backslash is one complete word, and the
shell reads the specification from it.  There the first free opening bracket follows the spelling,
and the first free closing one after it ends the description.  No colon between them is free, and
without the protecting backslashes the part between them is the description. -/
theorem optionWord_lossless (spelling : Spelling) (unopened : '[' ∉ spelling.text.toList)
    (plain : '\\' ∉ spelling.text.toList) :
    linesIn (optionWord spelling) = some [[specification spelling]] ∧
      ∃ between rest,
        cutFree '[' false (specification spelling).toList = some (spelling.text.toList, rest) ∧
          cutFree ']' false rest = some (between, (behind spelling).toList) ∧
          cutFree ':' false between = none ∧
          unprotect false between = spelling.description.toList := by
  refine ⟨linesIn_of_spells (spells_quote _), (describe spelling.description).toList, _,
    ?opened, cutFree_closing _ _, cutFree_colon _, ?description⟩
  case opened =>
    rw [toList_specification]
    exact cutFree_append unopened plain _
  case description =>
    rw [toList_describe]
    exact unprotect_describe _

/-- A description with all that has a meaning for the shell or in a specification. -/
theorem optionWord_lossless_quoted :
    let spelling : Spelling :=
      ⟨"--tone", "a 'b' \"c\" [d]: e\\f\n\\]", some ⟨["--tone", "-t"], .words ["warm", "it's"]⟩⟩
    '[' ∉ spelling.text.toList ∧ '\\' ∉ spelling.text.toList ∧
      linesIn (optionWord spelling) = some [[specification spelling]] ∧
      ∃ between rest,
        cutFree '[' false (specification spelling).toList = some ("--tone".toList, rest) ∧
          cutFree ']' false rest = some (between, ":value:(warm it's)".toList) ∧
          cutFree ':' false between = none ∧
          unprotect false between = "a 'b' \"c\" [d]: e\\f\n\\]".toList := by
  intro spelling
  have unopened : '[' ∉ spelling.text.toList := by decide
  have plain : '\\' ∉ spelling.text.toList := by decide
  exact ⟨unopened, plain, optionWord_lossless spelling unopened plain⟩

end Toolsmith.Completion.Zsh
