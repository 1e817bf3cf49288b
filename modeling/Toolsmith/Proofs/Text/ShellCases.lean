import Mathlib.Data.List.Nodup
import Toolsmith.Proofs.Stepwise
import Toolsmith.Proofs.Text.ShellWords
/-!
# The cases of a shell source

A case begins with a line `case word in` and ends with a line `esac`; between them an arm begins
with a line for its label, which ends with a closing parenthesis, and ends with a line `;;`.  The
arms are found line by line, and a count of the cases that lie open tells the ends of an arm from
those inside it.
-/

namespace Toolsmith.ShellWords

/-! ## 1. Arms -/

/-- What a line does to the cases around it. -/
inductive Turn
  | opens
  | closes
  | ends
  | stays
  deriving DecidableEq, Repr

def turn (line : List String) : Turn :=
  if line.head? = some "case" then .opens
  else if line = ["esac"] then .closes
  else if line = [";;"] then .ends
  else .stays

/-- The arms behind the first line of a case, each with its lines.  The arguments before the lines
are the number of cases that lie open inside the arm, and the lines of the arm so far. -/
def armsIn : Nat → List (List String) → List (List String) → List (List (List String))
  | _, _, [] => []
  | depth, arm, line :: lines =>
    match turn line, depth with
    | .opens, depth => armsIn (depth + 1) (arm ++ [line]) lines
    | .closes, 0 => []
    | .closes, depth + 1 => armsIn depth (arm ++ [line]) lines
    | .ends, 0 => arm :: armsIn 0 [] lines
    | .ends, depth + 1 => armsIn (depth + 1) (arm ++ [line]) lines
    | .stays, depth => armsIn depth (arm ++ [line]) lines

/-- What follows each occurrence of a line. -/
def behind (first : List String) : List (List String) → List (List (List String))
  | [] => []
  | line :: lines => if line = first then lines :: behind first lines else behind first lines

def caseOf (word : String) : List String := ["case", word, "in"]

def armsOf (word : String) (lines : List (List String)) : List (List (List String)) :=
  (behind (caseOf word) lines).flatMap (armsIn 0 [])

/-- What an arm has behind its label, if the label is this one. -/
def bodyFor? (label : String) : List (List String) → Option (List (List String))
  | [first] :: body => if first = label ++ ")" then some body else none
  | _ => none

def bodiesFor (word label : String) (lines : List (List String)) : List (List (List String)) :=
  (armsOf word lines).filterMap (bodyFor? label)

/-! ## 2. Blocks inside an arm -/

/-- A block that leaves the arm around it open, and with no more cases in it than before. -/
def Balanced (block : List (List String)) : Prop :=
  ∀ arm rest, armsIn 0 arm (block ++ rest) = armsIn 0 (arm ++ block) rest

section Blocks

variable {line first : List String} {block block' : List (List String)}

theorem armsIn_stays (stays : turn line = .stays) (depth : Nat) (arm rest : List (List String)) :
    armsIn depth arm (line :: rest) = armsIn depth (arm ++ [line]) rest := by
  simp only [armsIn, stays]

theorem armsIn_opens (opens : turn line = .opens) (depth : Nat) (arm rest : List (List String)) :
    armsIn depth arm (line :: rest) = armsIn (depth + 1) (arm ++ [line]) rest := by
  simp only [armsIn, opens]

theorem Balanced.append (first : Balanced block) (second : Balanced block') :
    Balanced (block ++ block') := by
  intro arm rest
  rw [List.append_assoc, first, second, List.append_assoc]

theorem balanced_of_stays (stays : ∀ line ∈ block, turn line = .stays) : Balanced block := by
  induction block with
  | nil =>
    intro arm rest
    rw [List.append_nil]
    rfl
  | cons line block ih =>
    have one : Balanced [line] := armsIn_stays (stays line List.mem_cons_self) 0
    exact one.append (ih fun line hline => stays line (List.mem_cons_of_mem _ hline))

-- Inside an open case the end of an arm is an end of one of its own arms.
theorem armsIn_nested (inner : ∀ line ∈ block, turn line = .stays ∨ turn line = .ends) (depth : Nat)
    (arm rest : List (List String)) :
    armsIn (depth + 1) arm (block ++ rest) = armsIn (depth + 1) (arm ++ block) rest := by
  induction block generalizing arm with
  | nil =>
    rw [List.append_nil]
    rfl
  | cons line block ih =>
    have one : armsIn (depth + 1) arm (line :: (block ++ rest)) =
        armsIn (depth + 1) (arm ++ [line]) (block ++ rest) := by
      rcases inner line List.mem_cons_self with stays | ends
      · exact armsIn_stays stays _ _ _
      · simp only [armsIn, ends]
    rw [List.cons_append, one, ih fun line hline => inner line (List.mem_cons_of_mem _ hline),
      List.append_assoc, List.singleton_append]

theorem balanced_case (opens : turn first = .opens)
    (inner : ∀ line ∈ block, turn line = .stays ∨ turn line = .ends) :
    Balanced (first :: (block ++ [["esac"]])) := by
  have closes : ∀ arm rest, armsIn 1 arm (["esac"] :: rest) = armsIn 0 (arm ++ [["esac"]]) rest :=
    fun _ _ => rfl
  intro arm rest
  rw [List.cons_append, List.append_assoc, armsIn_opens opens, armsIn_nested inner,
    List.singleton_append, closes, List.append_assoc, List.append_assoc, List.singleton_append]

/-- Balanced blocks that end like arms are the first arms. -/
theorem armsIn_flatMap {α : Type} {items : List α} {arm : α → List (List String)}
    (balanced : ∀ item ∈ items, Balanced (arm item)) (rest : List (List String)) :
    armsIn 0 [] (items.flatMap (fun item => arm item ++ [[";;"]]) ++ rest) =
      items.map arm ++ armsIn 0 [] rest := by
  have ends : ∀ arm rest, armsIn 0 arm ([";;"] :: rest) = arm :: armsIn 0 [] rest := fun _ _ => rfl
  induction items with
  | nil => rfl
  | cons item items ih =>
    rw [List.flatMap_cons, List.append_assoc, List.append_assoc, balanced item List.mem_cons_self,
      List.singleton_append, ends, List.nil_append,
      ih fun item hitem => balanced item (List.mem_cons_of_mem _ hitem), List.map_cons,
      List.cons_append]

/-! ## 3. First lines -/

theorem behind_eq_nil (absent : first ∉ block) : behind first block = [] := by
  induction block with
  | nil => rfl
  | cons line block ih =>
    rw [List.mem_cons, not_or] at absent
    rw [behind, if_neg (Ne.symm absent.1), ih absent.2]

theorem behind_append (absent : first ∉ block) (rest : List (List String)) :
    behind first (block ++ rest) = behind first rest := by
  induction block with
  | nil => rfl
  | cons line block ih =>
    rw [List.mem_cons, not_or] at absent
    rw [List.cons_append, behind, if_neg (Ne.symm absent.1), ih absent.2]

variable {word label : String}

theorem armsOf_eq_nil (absent : caseOf word ∉ block) : armsOf word block = [] := by
  rw [armsOf, behind_eq_nil absent]
  rfl

/-- The arms of the only case of a word: balanced blocks that end like arms, and what follows them
in the case. -/
theorem armsOf_once {α : Type} {items : List α} {arm : α → List (List String)}
    {front after : List (List String)} (before : caseOf word ∉ front)
    (arms : ∀ item ∈ items, Balanced (arm item) ∧ caseOf word ∉ arm item)
    (last : caseOf word ∉ after) :
    armsOf word
        (front ++ caseOf word :: (items.flatMap (fun item => arm item ++ [[";;"]]) ++ after)) =
      items.map arm ++ armsIn 0 [] after := by
  have ends : caseOf word ≠ [";;"] := by simp [caseOf]
  have rest : caseOf word ∉ items.flatMap (fun item => arm item ++ [[";;"]]) ++ after := by
    rw [List.mem_append, List.mem_flatMap]
    rintro (⟨item, hitem, inside⟩ | inside)
    · rcases List.mem_append.mp inside with inside | mark
      · exact (arms item hitem).2 inside
      · exact ends (List.mem_singleton.mp mark)
    · exact last inside
  rw [armsOf, behind_append before, behind, if_pos rfl, behind_eq_nil rest, List.flatMap_singleton,
    armsIn_flatMap fun item hitem => (arms item hitem).1]

/-! ## 4. Labels -/

theorem turn_label : turn [label ++ ")"] = .stays := by
  have close : (label ++ ")").toList = label.toList ++ [')'] := String.toList_append
  have last : ∀ text : String, text.toList.getLast? ≠ some ')' → label ++ ")" ≠ text := by
    rintro _ other rfl
    rw [close, List.getLast?_concat] at other
    exact other rfl
  unfold turn
  rw [if_neg, if_neg, if_neg]
  · exact fun same => last ";;" (by decide) (List.head_eq_of_cons_eq same)
  · exact fun same => last "esac" (by decide) (List.head_eq_of_cons_eq same)
  · exact fun same => last "case" (by decide) (Option.some.inj same)

theorem bodyFor?_label (label' : String) (body : List (List String)) :
    bodyFor? label ([label' ++ ")"] :: body) = if label' = label then some body else none := by
  have same : label' ++ ")" = label ++ ")" ↔ label' = label := by
    rw [← String.toList_inj, String.toList_append, String.toList_append,
      List.append_cancel_right_eq, String.toList_inj]
  unfold bodyFor?
  simp only [same]

/-- Of arms with different labels, one has the label of one of them. -/
theorem filterMap_bodyFor? {α : Type} {items : List α} {name : α → String}
    {body : α → List (List String)} (nodup : (items.map name).Nodup) {item : α}
    (hitem : item ∈ items) :
    (items.map fun item => [name item ++ ")"] :: body item).filterMap (bodyFor? (name item)) =
      [body item] := by
  have others : ∀ other ∈ items, other ≠ item →
      (bodyFor? (name item) ([name other ++ ")"] :: body other)).toList = [] := by
    intro other hother differ
    have names : name other ≠ name item :=
      fun same => differ (List.inj_on_of_nodup_map nodup hother hitem same)
    rw [bodyFor?_label, if_neg names]
    rfl
  rw [List.filterMap_map, List.filterMap_eq_flatMap_toList]
  simp only [Function.comp_apply]
  rw [flatMap_only (nodup.of_map _) hitem others, bodyFor?_label, if_pos rfl]
  rfl

/-- In a case with one arm for each label and one for all other words, there is one arm with a label
of the first kind. -/
theorem bodiesFor_eq {α : Type} {items : List α} {name : α → String}
    {body : α → List (List String)} {lines rest : List (List String)}
    (arms : armsOf word lines =
      (items.map fun item => [name item ++ ")"] :: body item) ++ [["*" ++ ")"] :: rest])
    (nodup : (items.map name).Nodup) {item : α} (hitem : item ∈ items) (named : name item ≠ "*") :
    bodiesFor word (name item) lines = [body item] := by
  have other : [["*" ++ ")"] :: rest].filterMap (bodyFor? (name item)) = [] := by
    rw [List.filterMap_cons, bodyFor?_label, if_neg (Ne.symm named)]
    rfl
  rw [bodiesFor, arms, List.filterMap_append, filterMap_bodyFor? nodup hitem, other,
    List.append_nil]

/-! ## 5. Blocks without a line -/

/-- A block of whole lines, none of which is read as a certain one. -/
def Passes (first : List String) (block : List String) : Prop :=
  ∃ new, Reads block new ∧ first ∉ new

def passes (first : List String) (block : List String) : Bool :=
  let read := (sourceOf block).foldl Reader.step .start
  read.words = [] && read.word = none && read.place = .outside && !read.lines.contains first

theorem Passes.of_passes {block : List String} (h : passes first block = true) :
    Passes first block := by
  simp only [passes, Bool.and_eq_true, decide_eq_true_eq, Bool.not_eq_true', List.contains_eq_mem,
    decide_eq_false_iff_not] at h
  obtain ⟨⟨⟨words, word⟩, place⟩, absent⟩ := h
  refine ⟨_, ?_, absent⟩
  show (sourceOf block).foldl Reader.step .start = _
  generalize (sourceOf block).foldl Reader.step .start = read at words word place ⊢
  obtain ⟨lines, _, _, _⟩ := read
  dsimp only at words word place
  rw [words, word, place]

theorem Passes.append {block block' : List String} (h : Passes first block)
    (h' : Passes first block') : Passes first (block ++ block') := by
  obtain ⟨new, read, absent⟩ := h
  obtain ⟨new', read', absent'⟩ := h'
  refine ⟨new ++ new', read.append read', ?_⟩
  exact fun inside => (List.mem_append.mp inside).elim absent absent'

-- The first line of a case has three words.
theorem Passes.of_length {line : String} {words : List String} (read : Reads [line] [words])
    (differ : words.length ≠ 3) : Passes (caseOf word) [line] := by
  refine ⟨[words], read, ?_⟩
  intro same
  exact differ (congrArg List.length (List.mem_singleton.mp same).symm)

theorem Passes.map {α : Type} {items : List α} {line : α → String}
    (each : ∀ item ∈ items, Passes first [line item]) : Passes first (items.map line) := by
  induction items with
  | nil => exact ⟨[], rfl, List.not_mem_nil⟩
  | cons item items ih =>
    exact (each item List.mem_cons_self).append
      (ih fun item hitem => each item (List.mem_cons_of_mem _ hitem))

/-- The arms of a source that is read in four parts: lines that pass, the first line of a case,
blocks that end like arms, and what follows them. -/
theorem exists_armsOf {α : Type} {items : List α} {arm : α → List (List String)}
    {source opening : String} {front cases ending : List String} {after : List (List String)}
    (chars : source.toList = sourceOf (front ++ [opening] ++ cases ++ ending))
    (before : Passes (caseOf word) front) (opens : Reads [opening] [caseOf word])
    (inside : Reads cases (items.flatMap fun item => arm item ++ [[";;"]]))
    (ends : Reads ending after)
    (arms : ∀ item ∈ items, Balanced (arm item) ∧ caseOf word ∉ arm item)
    (last : caseOf word ∉ after) :
    ∃ read, linesIn source = some read ∧
      armsOf word read = items.map arm ++ armsIn 0 [] after := by
  obtain ⟨new, read, absent⟩ := before
  have all := ((read.append opens).append inside).append ends
  refine ⟨_, linesIn_of_reads chars all, ?_⟩
  rw [List.append_assoc, List.append_assoc, List.singleton_append]
  exact armsOf_once absent arms last

end Blocks

end Toolsmith.ShellWords
