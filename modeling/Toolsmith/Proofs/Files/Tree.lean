import Toolsmith.Proofs.Files.Path
/-!
# Places in a tree of files

What is added to a file is seen at its place and at the places of the directories around it, and
nowhere else (`alikeBut_append`).  What a path into a directory denotes is said by the entries of
the directory alone, unless the path is too long to be looked for (`look_child`).
-/

namespace Toolsmith.Files

/-! ## 1. Additions to a file -/

/-- Two trees of files with the same current directory in which the same is found at all places
that do not lead to the given one. -/
structure AlikeBut (place : List String) (before after : Files) : Prop where
  here : after.here = before.here
  nodes : ∀ names, ¬names <+: place → nodeAt? after.root names = nodeAt? before.root names

theorem AlikeBut.refl (place : List String) (files : Files) : AlikeBut place files files :=
  ⟨rfl, fun _ _ => rfl⟩

theorem AlikeBut.trans {place : List String} {a b c : Files} (first : AlikeBut place a b)
    (rest : AlikeBut place b c) : AlikeBut place a c :=
  ⟨rest.here.trans first.here,
    fun names apart => (rest.nodes names apart).trans (first.nodes names apart)⟩

-- Behind a file there is nothing, so one that stays a file changes no place but those on its way.
theorem nodeAt?_putNode_file {bytes bytes' : List UInt8} {executable executable' : Bool}
    {place names : List String} {node : Node}
    (found : nodeAt? node place = some (.file bytes executable)) (apart : ¬names <+: place) :
    nodeAt? (putNode (.file bytes' executable') place node) names = nodeAt? node names := by
  induction place generalizing node names with
  | nil =>
    cases found
    cases names with
    | nil => exact absurd List.prefix_rfl apart
    | cons name names => rfl
  | cons step place ih =>
    cases node with
    | file bytes executable => cases found
    | directory entries =>
      unfold nodeAt? at found
      cases inside : entries.lookup step with
      | none =>
        rw [inside] at found
        cases found
      | some child =>
        rw [inside] at found
        have put : putNode (.file bytes' executable') (step :: place) (.directory entries) =
            .directory
              (Table.putRow step (putNode (.file bytes' executable') place child) entries) := by
          cases place with
          | nil => rfl
          | cons next place => simp only [putNode, inside]
        rw [put]
        cases names with
        | nil => exact absurd List.nil_prefix apart
        | cons name names =>
          unfold nodeAt?
          by_cases same : name = step
          · subst same
            rw [Table.lookup_putRow_self, inside]
            exact ih found fun leads => apart (List.cons_prefix_cons.mpr ⟨rfl, leads⟩)
          · rw [Table.lookup_putRow_of_ne _ _ same]

/-- A text that is added to the file at a place is seen there and nowhere else. -/
theorem alikeBut_append (files : Files) (place : List String) (text : String) :
    AlikeBut place files (files.append place text) := by
  unfold append
  split
  next bytes executable found => exact ⟨rfl, fun _ apart => nodeAt?_putNode_file found apart⟩
  next => exact .refl place files

/-! ## 2. Places inside a directory -/

variable {files : Files} {p : Path} {entries : List (String × Node)} {name : String}

theorem nodeAt?_concat {root : Node} {place : List String}
    (found : nodeAt? root place = some (.directory entries)) (name : String) :
    nodeAt? root (place ++ [name]) = entries.lookup name := by
  induction place generalizing root with
  | nil =>
    cases found
    rw [List.nil_append, nodeAt?]
    cases entries.lookup name <;> rfl
  | cons step place ih =>
    cases root with
    | file bytes executable => cases found
    | directory around =>
      rw [List.cons_append]
      unfold nodeAt? at found ⊢
      cases inside : around.lookup step with
      | none =>
        rw [inside] at found
        cases found
      | some child =>
        rw [inside] at found
        exact ih found

-- One name more is looked up in the directory that the names before it lead to.
theorem follow_concat {root : Node} {names start place : List String} (h : FileName name)
    (found : follow root names start = .ok (place, some (.directory entries))) :
    follow root (names ++ [name]) start = .ok (place ++ [name], entries.lookup name) := by
  induction names generalizing start with
  | nil =>
    unfold follow at found
    split at found
    next node there =>
      cases found
      have inside : nodeAt? root (place ++ [name]) = entries.lookup name :=
        nodeAt?_concat there name
      rw [List.nil_append, follow, there]
      dsimp only
      rw [if_neg (Nat.not_lt.mpr h.short), if_neg h.own, if_neg h.outer]
      cases entry : entries.lookup name with
      | none => rfl
      | some node =>
        rw [entry] at inside
        dsimp only
        rw [follow, inside]
    next => cases found
  | cons step names ih =>
    rw [List.cons_append]
    unfold follow at found ⊢
    split at found
    next => cases found
    next => cases found
    next around there =>
      split_ifs at found ⊢ with long own outer
      · exact ih found
      · exact ih found
      · cases entry : around.lookup step with
        | none =>
          rw [entry] at found
          cases names with
          | nil => cases found
          | cons next names => cases found
        | some node =>
          rw [entry] at found
          exact ih found

/-- Where the way along a path begins. -/
def startOf (files : Files) (path : String) : List String :=
  if Text.startsWith path "/" then [] else files.here

theorem locate_eq_ok_iff {path : String} {found : List String × Option Node} :
    files.locate path = .ok found ↔
      '\x00' ∉ path.toList ∧ path ≠ "" ∧ ¬pathLimit ≤ path.utf8ByteSize ∧
        follow files.root (namesOf path) (files.startOf path) = .ok found := by
  unfold locate
  rw [List.contains_eq_mem]
  simp only [decide_eq_true_eq]
  split
  next null => simp [null]
  next clean =>
    split
    next missing => simp [missing]
    next filled =>
      split
      next long => simp [long]
      next short =>
        rw [startOf]
        cases follow files.root (namesOf path) _ <;> simp_all

theorem look_eq_some_iff {path : String} {node : Node} :
    files.look path = .ok (some node) ↔ ∃ place, files.locate path = .ok (place, some node) := by
  unfold look
  split
  next place node' located => simp [located]
  all_goals simp_all

-- A look tells what can be read.
theorem read_of_look {bytes : List UInt8} {executable : Bool}
    (found : files.look p.text = .ok (some (.file bytes executable))) :
    files.read p = .ok bytes := by
  obtain ⟨place, located⟩ := look_eq_some_iff.mp found
  unfold read
  rw [located]
  rfl

def bytes? : Node → Option (List UInt8)
  | .file bytes _ => some bytes
  | .directory _ => none

theorem toOption_read_congr {files' : Files} (same : files.look p.text = files'.look p.text) :
    (files.read p).toOption = (files'.read p).toOption := by
  have reads (files : Files) :
      (files.read p).toOption = (files.look p.text).toOption.join.bind bytes? := by
    unfold read look
    rcases files.locate p.text with (⟨reason, _⟩ | _ | _) | ⟨place, _ | _ | _⟩
    · cases reason <;> rfl
    all_goals rfl
  rw [reads, reads, same]

/-- What a name in a directory denotes is its entry, if it has one, and nobody looks for it if the
path is too long. -/
theorem look_child (named : p.Named) (found : files.look p.text = .ok (some (.directory entries)))
    (h : FileName name) :
    files.look (p.child name).text =
      if (p.child name).Overlong then .error (.refused .nameTooLong (p.child name).text)
      else .ok (entries.lookup name) := by
  obtain ⟨place, located⟩ := look_eq_some_iff.mp found
  obtain ⟨null, filled, -, followed⟩ := locate_eq_ok_iff.mp located
  have text : (p.child name).text = p.text ++ ("/" ++ name) := Path.text_child named.names name
  have null' : '\x00' ∉ (p.child name).text.toList := by
    rw [text, String.toList_append, String.toList_append, List.mem_append, List.mem_append]
    rintro (inside | inside | inside)
    · exact null inside
    · exact absurd inside (by decide)
    · exact h.null inside
  have filled' : (p.child name).text ≠ "" := by
    rw [text]
    exact fun none => filled (String.append_eq_empty_iff.mp none).1
  by_cases long : (p.child name).Overlong
  · have size : (p.child name).text.utf8ByteSize ≥ pathLimit := long
    have refused : files.locate (p.child name).text =
        .error (.refused .nameTooLong (p.child name).text) := by
      unfold locate
      rw [if_neg (by simpa using null'), if_neg filled', if_pos size]
    rw [if_pos long, look, refused]
  · have start : files.startOf (p.child name).text = files.startOf p.text := by
      rw [startOf, startOf, text, Text.startsWith_append filled]
    have located' : files.locate (p.child name).text =
        .ok (place ++ [name], entries.lookup name) := by
      refine locate_eq_ok_iff.mpr ⟨null', filled', long, ?_⟩
      rw [Path.namesOf_child named h, start]
      exact follow_concat h followed
    rw [if_neg long, look, located']

end Toolsmith.Files
