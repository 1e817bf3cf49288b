import Toolsmith.Proofs.Text.Segments
/-!
# The words of a shell source

A source is read character by character, by the rules of quoting.  Between single quotes every
character stands for itself; in the open a backslash takes the next character as it is, and takes
away a line feed; blanks end words, and line feeds end lines.  Nothing is expanded, and a comment is
read like any other line.  Between double quotes a backslash is a character like others, which is
right for sources that have none there.
-/

namespace Toolsmith.ShellWords

/-! ## 1. The reader -/

inductive Place
  | outside
  | escaped
  | single
  | double
  deriving DecidableEq, Repr

/-- What has been read of a source: whole lines, the whole words of the line that lies open, and the
word that has begun in it. -/
structure Reader where
  lines : List (List String)
  words : List String
  word : Option (List Char)
  place : Place
  deriving DecidableEq, Repr

namespace Reader

def push (r : Reader) (c : Char) : Reader := { r with word := some (r.word.getD [] ++ [c]) }

/-- Begins a word, if none has begun: quotes make one even with nothing between them. -/
def quoted (r : Reader) (place : Place) : Reader := { r with word := some (r.word.getD []), place }

def endWord (r : Reader) : Reader :=
  match r.word with
  | none => r
  | some cs => { r with words := r.words ++ [String.ofList cs], word := none }

/-- Ends the line; a line without words is none. -/
def endLine (r : Reader) : Reader :=
  let ended := r.endWord
  if ended.words = [] then ended
  else { ended with lines := ended.lines ++ [ended.words], words := [] }

def step (r : Reader) (c : Char) : Reader :=
  match r.place with
  | .outside =>
    if c = '\'' then r.quoted .single
    else if c = '"' then r.quoted .double
    else if c = '\\' then { r with place := .escaped }
    else if c = '\n' then r.endLine
    else if c = ' ' ∨ c = '\t' then r.endWord
    else r.push c
  | .escaped => { if c = '\n' then r else r.push c with place := .outside }
  | .single => if c = '\'' then { r with place := .outside } else r.push c
  | .double => if c = '"' then { r with place := .outside } else r.push c

def start : Reader := ⟨[], [], none, .outside⟩

end Reader

/-- The lines of a source, each with its words; nothing if the source ends between quotes or behind
a backslash. -/
def linesIn (source : String) : Option (List (List String)) :=
  let read := source.toList.foldl Reader.step .start
  if read.place = .outside then some read.endLine.lines else none

/-! ## 2. Lines that have been read -/

namespace Reader

def behind (earlier : List (List String)) (r : Reader) : Reader :=
  { r with lines := earlier ++ r.lines }

variable (earlier : List (List String)) (r : Reader)

theorem endWord_behind : (r.behind earlier).endWord = r.endWord.behind earlier := by
  obtain ⟨lines, words, word, place⟩ := r
  cases word <;> rfl

theorem endLine_behind : (r.behind earlier).endLine = r.endLine.behind earlier := by
  unfold endLine
  rw [endWord_behind]
  by_cases none : r.endWord.words = []
  · rw [if_pos none]
    exact if_pos none
  · rw [if_neg none]
    dsimp only [behind]
    rw [if_neg none, List.append_assoc]

-- What has been read before does not matter for what is read next.
theorem step_behind (c : Char) : (r.behind earlier).step c = (r.step c).behind earlier := by
  obtain ⟨lines, words, word, place⟩ := r
  cases place with
  | outside =>
    show ite _ _ _ = behind earlier (ite _ _ _)
    by_cases single : c = '\''
    · rw [if_pos single, if_pos single]
      rfl
    rw [if_neg single, if_neg single]
    by_cases double : c = '"'
    · rw [if_pos double, if_pos double]
      rfl
    rw [if_neg double, if_neg double]
    by_cases escape : c = '\\'
    · rw [if_pos escape, if_pos escape]
      rfl
    rw [if_neg escape, if_neg escape]
    by_cases feed : c = '\n'
    · rw [if_pos feed, if_pos feed]
      exact endLine_behind earlier _
    rw [if_neg feed, if_neg feed]
    by_cases blank : c = ' ' ∨ c = '\t'
    · rw [if_pos blank, if_pos blank]
      exact endWord_behind earlier _
    rw [if_neg blank, if_neg blank]
    rfl
  | escaped | single | double =>
    unfold step
    dsimp only [behind]
    split <;> rfl

theorem foldl_step_behind (cs : List Char) :
    cs.foldl step (r.behind earlier) = (cs.foldl step r).behind earlier := by
  induction cs generalizing r with
  | nil => rfl
  | cons c cs ih => rw [List.foldl_cons, List.foldl_cons, step_behind, ih]

end Reader

/-! ## 3. Words -/

/-- Some characters, read in the open, are part of a word and stand for a text in it. -/
def Spells (cs : List Char) (value : String) : Prop :=
  ∀ words word, cs.foldl Reader.step ⟨[], words, word, .outside⟩ =
    ⟨[], words, some (word.getD [] ++ value.toList), .outside⟩

def isPlain (c : Char) : Bool :=
  c != '\'' && c != '"' && c != '\\' && c != '\n' && c != ' ' && c != '\t'

/-- A text that is a word without quotes. -/
def Plain (text : String) : Prop := text ≠ "" ∧ ∀ c ∈ text.toList, isPlain c = true

instance (text : String) : Decidable (Plain text) :=
  inferInstanceAs (Decidable (_ ∧ _))

theorem step_of_isPlain {c : Char} (plain : isPlain c = true) (words : List String)
    (word : Option (List Char)) :
    Reader.step ⟨[], words, word, .outside⟩ c =
      ⟨[], words, some (word.getD [] ++ [c]), .outside⟩ := by
  simp only [isPlain, Bool.and_eq_true, bne_iff_ne] at plain
  obtain ⟨⟨⟨⟨⟨single, double⟩, escape⟩, feed⟩, space⟩, tab⟩ := plain
  unfold Reader.step
  dsimp only
  rw [if_neg single, if_neg double, if_neg escape, if_neg feed, if_neg (not_or.mpr ⟨space, tab⟩)]
  rfl

section Words

variable {cs cs' : List Char} {value value' : String}

theorem Spells.append (first : Spells cs value) (second : Spells cs' value') :
    Spells (cs ++ cs') (value ++ value') := by
  intro words word
  rw [List.foldl_append, first, second, Option.getD_some, String.toList_append, List.append_assoc]

-- A word that has begun grows by plain characters.
theorem foldl_step_plain (plain : ∀ c ∈ cs, isPlain c = true) (words : List String)
    (done : List Char) :
    cs.foldl Reader.step ⟨[], words, some done, .outside⟩ =
      ⟨[], words, some (done ++ cs), .outside⟩ := by
  induction cs generalizing done with
  | nil => rw [List.foldl_nil, List.append_nil]
  | cons c cs ih =>
    rw [List.foldl_cons, step_of_isPlain (plain c List.mem_cons_self), Option.getD_some,
      ih fun c hc => plain c (List.mem_cons_of_mem _ hc), List.append_assoc,
      List.singleton_append]

theorem Plain.spells {text : String} (plain : Plain text) : Spells text.toList text := by
  obtain ⟨nonempty, plain⟩ := plain
  intro words word
  cases chars : text.toList with
  | nil => exact absurd (String.toList_eq_nil_iff.mp chars) nonempty
  | cons c cs =>
    rw [chars] at plain
    rw [List.foldl_cons, step_of_isPlain (plain c List.mem_cons_self),
      foldl_step_plain (fun c hc => plain c (List.mem_cons_of_mem _ hc)), List.append_assoc,
      List.singleton_append]

-- Between double quotes all characters but the closing quote are pushed.
theorem foldl_step_double (words : List String) (within : '"' ∉ cs) (done : List Char) :
    cs.foldl Reader.step ⟨[], words, some done, .double⟩ =
      ⟨[], words, some (done ++ cs), .double⟩ := by
  induction cs generalizing done with
  | nil => rw [List.foldl_nil, List.append_nil]
  | cons c cs ih =>
    obtain ⟨first, rest⟩ := not_or.mp fun quote => within (List.mem_cons.mpr quote)
    have pushed : Reader.step ⟨[], words, some done, .double⟩ c =
        ⟨[], words, some (done ++ [c]), .double⟩ := if_neg (Ne.symm first)
    rw [List.foldl_cons, pushed, List.append_cons done c cs]
    exact ih rest (done ++ [c])

theorem spells_double (within : '"' ∉ value.toList) :
    Spells ('"' :: (value.toList ++ ['"'])) value := by
  intro words word
  have inside := foldl_step_double words within (word.getD [])
  rw [List.foldl_cons, List.foldl_append]
  show [_].foldl Reader.step
    (value.toList.foldl Reader.step ⟨[], words, some (word.getD []), .double⟩) = _
  rw [inside]
  rfl

end Words

/-! ## 4. Parts of lines -/

/-- Some characters, read between two words of a line that has these words so far, leave it with
those, and end the lines `new`. -/
def Takes (cs : List Char) (words words' : List String) (new : List (List String)) : Prop :=
  cs.foldl Reader.step ⟨[], words, none, .outside⟩ = ⟨new, words', none, .outside⟩

section Parts

variable {cs cs' : List Char} {value : String} {words words' words'' : List String}
  {new new' : List (List String)}

theorem Takes.append (first : Takes cs words words' new) (second : Takes cs' words' words'' new') :
    Takes (cs ++ cs') words words'' (new ++ new') := by
  have later := Reader.foldl_step_behind new ⟨[], words', none, .outside⟩ cs'
  unfold Takes at *
  rw [List.foldl_append, first]
  rw [second, Reader.behind, List.append_nil] at later
  exact later

theorem Takes.spaces (blank : ∀ c ∈ cs, c = ' ') : Takes cs words words [] := by
  induction cs with
  | nil => rfl
  | cons c cs ih =>
    have first : Takes [c] words words [] := by
      rw [blank c List.mem_cons_self]
      rfl
    exact first.append (ih fun c hc => blank c (List.mem_cons_of_mem _ hc))

theorem Takes.word (spells : Spells cs value) :
    Takes (cs ++ [' ']) words (words ++ [value]) [] := by
  unfold Takes
  rw [List.foldl_append, spells]
  show Reader.mk [] (words ++ [String.ofList value.toList]) none .outside = _
  rw [String.ofList_toList]

theorem Takes.last (spells : Spells cs value) :
    Takes (cs ++ ['\n']) words [] [words ++ [value]] := by
  have some : words ++ [String.ofList value.toList] ≠ [] := by simp
  have ended : Reader.step ⟨[], words, Option.some value.toList, .outside⟩ '\n' =
      ⟨[words ++ [String.ofList value.toList]], [], none, .outside⟩ := if_neg some
  rw [String.ofList_toList] at ended
  unfold Takes
  rw [List.foldl_append, spells]
  exact ended

theorem Takes.plainWords {more : List String} (plain : ∀ word ∈ more, Plain word) :
    Takes (more.flatMap fun word => word.toList ++ [' ']) words (words ++ more) [] := by
  induction more generalizing words with
  | nil =>
    rw [List.append_nil]
    rfl
  | cons word more ih =>
    have rest : Takes (more.flatMap fun word => word.toList ++ [' ']) (words ++ [word])
        (words ++ [word] ++ more) [] :=
      ih fun word hword => plain word (List.mem_cons_of_mem _ hword)
    rw [List.append_cons words word more]
    exact (Takes.word (plain word List.mem_cons_self).spells).append rest

-- A backslash at the end of a line joins it with the next.
theorem Takes.joined : Takes ['\\', '\n'] words words [] := rfl

end Parts

/-! ## 5. Blocks of lines -/

def sourceOf (block : List String) : List Char := block.flatMap fun line => line.toList ++ ['\n']

@[simp] theorem sourceOf_append (block block' : List String) :
    sourceOf (block ++ block') = sourceOf block ++ sourceOf block' :=
  List.flatMap_append

@[simp] theorem sourceOf_singleton (line : String) : sourceOf [line] = line.toList ++ ['\n'] :=
  List.append_nil _

def Reads (block : List String) (new : List (List String)) : Prop :=
  Takes (sourceOf block) [] [] new

instance decidableReads (block : List String) (new : List (List String)) :
    Decidable (Reads block new) :=
  inferInstanceAs (Decidable (_ = _))

section Blocks

variable {block block' : List String} {new new' : List (List String)} {line : String}

theorem Reads.append (first : Reads block new) (second : Reads block' new') :
    Reads (block ++ block') (new ++ new') := by
  unfold Reads
  rw [sourceOf_append]
  exact Takes.append first second

theorem Reads.flatMap {α : Type} {items : List α} {block : α → List String}
    {new : α → List (List String)} (each : ∀ item ∈ items, Reads (block item) (new item)) :
    Reads (items.flatMap block) (items.flatMap new) := by
  induction items with
  | nil => rfl
  | cons item items ih =>
    exact (each item List.mem_cons_self).append
      (ih fun item hitem => each item (List.mem_cons_of_mem _ hitem))

theorem reads_line {words : List String} (takes : Takes (line.toList ++ ['\n']) [] [] [words]) :
    Reads [line] [words] := by
  unfold Reads
  rw [sourceOf_singleton]
  exact takes

/-- A line of plain words with a blank between neighbours. -/
theorem reads_words (indent : List Char) (blank : ∀ c ∈ indent, c = ' ') {front : List String}
    (plain : ∀ word ∈ front, Plain word) (last : String) (plainLast : Plain last)
    (chars : line.toList ++ ['\n'] =
      indent ++ (front.flatMap (fun word => word.toList ++ [' ']) ++ (last.toList ++ ['\n']))) :
    Reads [line] [front ++ [last]] := by
  refine reads_line ?_
  rw [chars]
  exact (Takes.spaces blank).append ((Takes.plainWords plain).append (Takes.last plainLast.spells))

theorem linesIn_of_reads {source : String} (chars : source.toList = sourceOf block)
    (read : Reads block new) : linesIn source = some new := by
  have all : source.toList.foldl Reader.step .start = ⟨new, [], none, .outside⟩ := by
    rw [chars]
    exact read
  unfold linesIn
  rw [all]
  rfl

end Blocks

theorem linesIn_of_spells {source value : String} (spells : Spells source.toList value) :
    linesIn source = some [[value]] := by
  have all : source.toList.foldl Reader.step .start = ⟨[], [], some value.toList, .outside⟩ :=
    spells [] none
  unfold linesIn
  rw [all]
  show some [[String.ofList value.toList]] = _
  rw [String.ofList_toList]

end Toolsmith.ShellWords
