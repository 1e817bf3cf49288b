/-!
# The cyclic redundancy check

The 32-bit check that an archive keeps of every member.  The check of a text is the remainder of
a division of polynomials over two elements; bits are taken lowest first, and register and result
are complemented.
-/

namespace Toolsmith.Archive

/-- The divisor without its highest term, lowest bit first. -/
def divisor : UInt32 := 0xEDB88320

def shiftBit (register : UInt32) : UInt32 :=
  if register &&& 1 = 1 then (register >>> 1) ^^^ divisor else register >>> 1

def shiftBits : Nat → UInt32 → UInt32
  | 0, register => register
  | n + 1, register => shiftBits n (shiftBit register)

def absorb (register : UInt32) (byte : UInt8) : UInt32 :=
  shiftBits 8 (register ^^^ byte.toUInt32)

def checksum (bytes : List UInt8) : UInt32 := ~~~(bytes.foldl absorb (~~~0))

/-- The published check value: that of the nine digits from 1 to 9. -/
example : checksum [49, 50, 51, 52, 53, 54, 55, 56, 57] = 0xCBF43926 := by decide +kernel

end Toolsmith.Archive
