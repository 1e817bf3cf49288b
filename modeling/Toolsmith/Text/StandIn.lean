/-!
# Stand-ins

Texts are made of characters, but an escape in a document can ask for a code point that is none:
half of a surrogate pair without its other half.  A character stands in for each of those code
points, one that is not in use otherwise, so that texts are equal only if their code points are.
Stand-ins are taken from the planes for private use: like what they stand for, they are neither
blank nor printable nor part of a word.  Main statement: no stand-in is a character in use.
-/

namespace Toolsmith.Text

/-- Whether a code point is half of a surrogate pair, and therefore no character. -/
def isSurrogate (code : Nat) : Bool := 0xD800 ≤ code && code < 0xE000

/-- A character that stands in for a code point. -/
structure StandIn where
  code : Nat
  char : Char
  deriving DecidableEq, Repr

abbrev StandIns := List StandIn

namespace StandIns

/-- The character for a code point that is no character; without a stand-in it is the replacement
character. -/
def charFor (lone : StandIns) (code : Nat) : Char :=
  ((lone.find? fun s => s.code = code).map StandIn.char).getD '\ufffd'

/-- The code point that a character stands in for. -/
def code? (lone : StandIns) (c : Char) : Option Nat :=
  (lone.find? fun s => s.char = c).map StandIn.code

/-- The first code point of the planes for private use, where stand-ins are taken from. -/
def firstCode : Nat := 0xF0000

def planeSize : Nat := 0x20000

/-- Characters from the planes for private use that are not in use, as many as asked for if there
are enough: of so many and as many again as are in use, the latter alone can drop out. -/
def unused (count : Nat) (used : List Char) : List Char :=
  let offered := min planeSize (count + used.length)
  ((List.range offered).map fun n => Char.ofNat (firstCode + n)).filter fun c => !used.contains c

/-- Stand-ins for code points, none of them a character in use. -/
def choose (codes : List Nat) (used : List Char) : StandIns :=
  codes.zipWith StandIn.mk (unused codes.length (used.filter fun c => firstCode ≤ c.toNat))

theorem firstCode_le_of_mem_unused {count : Nat} {used : List Char} {c : Char}
    (h : c ∈ unused count used) : firstCode ≤ c.toNat := by
  obtain ⟨n, hn, rfl⟩ := List.mem_map.1 (List.mem_filter.1 h).1
  have hn : n < min planeSize (count + used.length) := List.mem_range.1 hn
  have hv : (firstCode + n).isValidChar := by
    unfold Nat.isValidChar firstCode
    unfold planeSize at hn
    omega
  have : (Char.ofNat (firstCode + n)).toNat = firstCode + n := by
    unfold Char.ofNat
    rw [dif_pos hv]
    rfl
  omega

theorem not_mem_of_mem_unused {count : Nat} {used : List Char} {c : Char}
    (h : c ∈ unused count used) : c ∉ used := by
  simpa using (List.mem_filter.1 h).2

theorem mem_of_mem_zipWith_mk {s : StandIn} :
    ∀ {codes : List Nat} {chars : List Char}, s ∈ codes.zipWith StandIn.mk chars →
      s.code ∈ codes ∧ s.char ∈ chars
  | [], _, h => by simp at h
  | _ :: _, [], h => by simp at h
  | code :: codes, c :: chars, h => by
    rcases List.mem_cons.1 h with rfl | h
    · exact ⟨List.mem_cons_self, List.mem_cons_self⟩
    · exact (mem_of_mem_zipWith_mk h).imp (List.mem_cons_of_mem _) (List.mem_cons_of_mem _)

/-- A stand-in that is chosen stands for one of the code points, and is no character in use. -/
theorem mem_choose {codes : List Nat} {used : List Char} {s : StandIn}
    (h : s ∈ choose codes used) : s.code ∈ codes ∧ s.char ∉ used := by
  obtain ⟨code, char⟩ := mem_of_mem_zipWith_mk h
  refine ⟨code, fun hu => not_mem_of_mem_unused char ?_⟩
  exact List.mem_filter.2 ⟨hu, decide_eq_true (firstCode_le_of_mem_unused char)⟩

end StandIns

end Toolsmith.Text
