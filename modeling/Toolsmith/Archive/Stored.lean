import Toolsmith.Archive.Checksum
import Toolsmith.Text.Utf8
/-!
# Archives of stored members

A zip archive whose members are stored as they are.  Every member has a record with its bytes;
behind the records comes a directory that tells where each record begins, and a closing record
that tells where the directory begins.  Bytes may stand in front of the archive: places are
counted from the first of them.
-/

namespace Toolsmith.Archive

/-- A member: a path with slashes, and bytes. -/
structure Member where
  path : String
  bytes : List UInt8
  deriving DecidableEq, Repr

/-- A number as some bytes, the lowest first. -/
def littleEndian : Nat → Nat → List UInt8
  | 0, _ => []
  | width + 1, n => UInt8.ofNat (n % 256) :: littleEndian width (n / 256)

/-- A number takes as many bytes as it is given. -/
@[simp] theorem length_littleEndian (width n : Nat) : (littleEndian width n).length = width := by
  induction width generalizing n with
  | zero => rfl
  | succ width ih => simp [littleEndian, ih]

/-- Numbers one after another, each with its width. -/
def fields (numbers : List (Nat × Nat)) : List UInt8 :=
  numbers.flatMap fun field => littleEndian field.1 field.2

/-- The first day that an archive can name, which all members bear. -/
def firstDay : Nat := 33

/-- The rights of a member, where the directory keeps them: a plain file that all may read and
the owner may write. -/
def rights : Nat := 0o100644 <<< 16

/-- What record and directory say alike of a member: the version of the format, no options, no
compression, the time and the day, the check, twice the size, the length of the path, and that
nothing extra follows it. -/
def description (member : Member) : List UInt8 :=
  let size := member.bytes.length
  fields [(2, 20), (2, 0), (2, 0), (2, 0), (2, firstDay), (4, (checksum member.bytes).toNat),
    (4, size), (4, size), (2, (Text.Utf8.encode member.path).length), (2, 0)]

def memberRecord (member : Member) : List UInt8 :=
  littleEndian 4 0x04034b50 ++ description member ++ Text.Utf8.encode member.path ++ member.bytes

/-- The entry of a member in the directory; the number is the place of its record. -/
def entry (place : Nat) (member : Member) : List UInt8 :=
  fields [(4, 0x02014b50), (2, 0x0314)] ++ description member
    ++ fields [(2, 0), (2, 0), (2, 0), (4, rights), (4, place)] ++ Text.Utf8.encode member.path

def records (members : List Member) : List UInt8 := members.flatMap memberRecord

/-- The directory of members whose records begin at a place. -/
def directory : Nat → List Member → List UInt8
  | _, [] => []
  | place, member :: members =>
    entry place member ++ directory (place + (memberRecord member).length) members

def closing (count size place : Nat) : List UInt8 :=
  fields [(4, 0x06054b50), (2, 0), (2, 0), (2, count), (2, count), (4, size), (4, place), (2, 0)]

/-- The bytes of an archive behind some other bytes. -/
def write (front : List UInt8) (members : List Member) : List UInt8 :=
  let records := records members
  let directory := directory front.length members
  front ++ records ++ directory
    ++ closing members.length directory.length (front.length + records.length)

end Toolsmith.Archive
