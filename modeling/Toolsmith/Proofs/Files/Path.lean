import Mathlib.Algebra.GroupWithZero.Nat
import Mathlib.Data.List.Basic
import Toolsmith.Files.Tree
import Toolsmith.Proofs.Text.Segments
/-!
# The texts of paths

The text of a path into a directory is the text of the directory, a slash and a name
(`text_child`).  The system reads from it the names of the directory and one more
(`namesOf_child`), whatever the names of the directory are.
-/

namespace Toolsmith

/-- A name that something in a directory can have. -/
structure FileName (name : String) : Prop where
  nonempty : name ≠ ""
  own : name ≠ "."
  outer : name ≠ ".."
  slash : '/' ∉ name.toList
  null : '\x00' ∉ name.toList
  short : name.utf8ByteSize ≤ Files.nameLimit

instance (name : String) : Decidable (FileName name) :=
  decidable_of_iff
    (name ≠ "" ∧ name ≠ "." ∧ name ≠ ".." ∧ '/' ∉ name.toList ∧ '\x00' ∉ name.toList ∧
      name.utf8ByteSize ≤ Files.nameLimit)
    ⟨fun ⟨nonempty, own, outer, slash, null, short⟩ => ⟨nonempty, own, outer, slash, null, short⟩,
      fun h => ⟨h.nonempty, h.own, h.outer, h.slash, h.null, h.short⟩⟩

-- What a text that is not empty begins with is not changed by what follows it.
theorem Text.startsWith_append {front : String} (filled : front ≠ "") (back : String) :
    startsWith (front ++ back) "/" = startsWith front "/" := by
  rw [startsWith, startsWith, String.toList_append]
  cases chars : front.toList with
  | nil => exact absurd (String.toList_eq_nil_iff.mp chars) filled
  | cons c cs => rfl

-- A name does not end what comes before it with a slash.
theorem FileName.endsWith_slash {name : String} (h : FileName name) {s : String}
    (front : List Char) (chars : s.toList = front ++ name.toList) :
    Text.endsWith s "/" = false := by
  refine Bool.eq_false_iff.mpr fun ends => ?_
  rw [Text.endsWith, chars] at ends
  obtain ⟨rest, same⟩ := List.isSuffixOf_iff_suffix.mp ends
  have filled : name.toList ≠ [] := fun none => h.nonempty (String.toList_eq_nil_iff.mp none)
  have last : name.toList.getLast? = some '/' := by
    rw [← List.getLast?_append_of_ne_nil front filled, ← same]
    exact List.getLast?_concat
  exact h.slash (List.mem_of_getLast? last)

namespace Path

variable {p : Path} {name : String}

/-- A path with so long a text that the system does not look for it. -/
def Overlong (p : Path) : Prop := Files.pathLimit ≤ p.text.utf8ByteSize

instance (p : Path) : Decidable p.Overlong := Nat.decLe _ _

structure Named (p : Path) : Prop where
  names : p.names ≠ []
  ends : Text.endsWith p.text "/" = false

theorem text_of_ne_nil (names : p.names ≠ []) :
    p.text = String.ofList (List.replicate p.slashes '/') ++ Text.join "/" p.names :=
  if_neg fun start => names start.2

theorem text_child (names : p.names ≠ []) (name : String) :
    (p.child name).text = p.text ++ ("/" ++ name) := by
  have more : (p.child name).names ≠ [] := List.concat_ne_nil name p.names
  have joined : Text.join "/" (p.child name).names = Text.join "/" p.names ++ ("/" ++ name) := by
    show Text.join "/" (p.names ++ [name]) = _
    rw [Text.join, String.intercalate_append_of_ne_nil names (List.cons_ne_nil name []),
      String.intercalate_singleton, String.append_assoc]
    rfl
  rw [text_of_ne_nil more, joined, text_of_ne_nil names, String.append_assoc]
  rfl

theorem size_child (names : p.names ≠ []) (name : String) :
    (p.child name).text.utf8ByteSize = p.text.utf8ByteSize + 1 + name.utf8ByteSize := by
  have slash : "/".utf8ByteSize = 1 := by decide
  rw [text_child names, String.utf8ByteSize_append, String.utf8ByteSize_append, slash,
    Nat.add_assoc]

theorem named_child (p : Path) (h : FileName name) : (p.child name).Named := by
  have more : (p.child name).names ≠ [] := List.concat_ne_nil name p.names
  refine ⟨more, ?_⟩
  obtain ⟨front, chars⟩ := Text.exists_join_concat "/" p.names name
  refine h.endsWith_slash (List.replicate p.slashes '/' ++ front) ?_
  rw [text_of_ne_nil more, String.toList_append, String.toList_ofList, List.append_assoc]
  exact congrArg _ chars

theorem namesOf_child (named : p.Named) (h : FileName name) :
    Files.namesOf (p.child name).text = Files.namesOf p.text ++ [name] := by
  have pieces : Text.split '/' (p.child name).text = Text.split '/' p.text ++ [name] := by
    have chars : (p.child name).text.toList = p.text.toList ++ '/' :: name.toList := by
      rw [text_child named.names, String.toList_append, String.toList_append]
      rfl
    rw [Text.split, chars, List.splitOn_append_cons_self, List.splitOn_eq_singleton h.slash,
      List.map_append, List.map_singleton, String.ofList_toList]
    rfl
  have kept : [name].filter (fun name => decide (name ≠ "")) = [name] := by
    simp [h.nonempty]
  unfold Files.namesOf
  dsimp only
  rw [(named_child p h).ends, named.ends, pieces, List.filter_append, kept]
  rfl

/-! ## 2. Paths from the current directory -/

theorem text_relative {names : List String} (nonempty : names ≠ []) :
    (⟨0, names⟩ : Path).text = Text.join "/" names :=
  (text_of_ne_nil nonempty).trans String.empty_append

theorem namesOf_relative {names : List String}
    (plain : ∀ name ∈ names, name ≠ "" ∧ '/' ∉ name.toList)
    (h : FileName name) : Files.namesOf (Path.child ⟨0, names⟩ name).text = names ++ [name] := by
  have more : names ++ [name] ≠ [] := List.concat_ne_nil name names
  have all : ∀ part ∈ names ++ [name], part ≠ "" ∧ '/' ∉ part.toList := by
    intro part hpart
    rcases List.mem_append.mp hpart with hpart | hpart
    · exact plain part hpart
    · obtain rfl := List.mem_singleton.mp hpart
      exact ⟨h.nonempty, h.slash⟩
  have pieces : Text.split '/' (Path.child ⟨0, names⟩ name).text = names ++ [name] := by
    rw [child, text_relative more]
    exact Text.split_join more fun part hpart => (all part hpart).2
  have kept : (names ++ [name]).filter (fun part => decide (part ≠ "")) = names ++ [name] :=
    List.filter_eq_self.mpr fun part hpart => decide_eq_true (all part hpart).1
  unfold Files.namesOf
  dsimp only
  rw [(named_child ⟨0, names⟩ h).ends, pieces, kept]
  rfl

-- Every name but the last is followed by a slash.
theorem size_relative (names : List String) (name : String) :
    (Path.child ⟨0, names⟩ name).text.utf8ByteSize =
      (names.map fun name => name.utf8ByteSize + 1).sum + name.utf8ByteSize := by
  rw [child, text_relative (List.concat_ne_nil name names)]
  induction names with
  | nil => simp [Text.join]
  | cons first names ih =>
    have step : Text.join "/" (first :: (names ++ [name])) =
        first ++ "/" ++ Text.join "/" (names ++ [name]) :=
      String.intercalate_cons_of_ne_nil (List.concat_ne_nil name names)
    have slash : "/".utf8ByteSize = 1 := by decide
    rw [List.cons_append, step, String.utf8ByteSize_append, String.utf8ByteSize_append, ih,
      List.map_cons, List.sum_cons, slash]
    omega

end Path

end Toolsmith
