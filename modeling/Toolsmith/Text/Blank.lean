import Toolsmith.Text.Ranges
/-!
# Blank characters

Blank is every character with the property `White_Space` of Unicode, and besides these the four
separators U+001C to U+001F.  Trimming takes blanks off the ends of a text and leaves the
inside alone.
-/

namespace Toolsmith.Text

def blankRanges : Ranges :=
  [(0x09, 0x0D), (0x1C, 0x20), (0x85, 0x85), (0xA0, 0xA0), (0x1680, 0x1680), (0x2000, 0x200A),
    (0x2028, 0x2029), (0x202F, 0x202F), (0x205F, 0x205F), (0x3000, 0x3000)]

def isBlank (c : Char) : Bool := blankRanges.contains c

def trimFront (cs : List Char) : List Char := cs.dropWhile isBlank

def trimBack (cs : List Char) : List Char := (cs.reverse.dropWhile isBlank).reverse

def trim (s : String) : String := String.ofList (trimBack (trimFront s.toList))

def trimEnd (s : String) : String := String.ofList (trimBack s.toList)

end Toolsmith.Text
