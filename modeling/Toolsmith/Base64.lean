/-!
# Base64

Bytes written with 64 characters, three bytes to four characters, the last group filled up with
the padding character.  `encodeLines` breaks the text into lines of 76 characters.  `decode` is
strict: nothing but the alphabet may occur, and padding only where it completes a group; padding
after a complete group is let pass as long as nothing follows it.
-/

namespace Toolsmith.Base64

/-! ## 1. The alphabet -/

/-- The character of a value below 64. -/
def digit (n : Nat) : Char :=
  if n < 26 then Char.ofNat (65 + n)
  else if n < 52 then Char.ofNat (97 + (n - 26))
  else if n < 62 then Char.ofNat (48 + (n - 52))
  else if n = 62 then '+'
  else '/'

def value? (c : Char) : Option Nat :=
  if 'A' ≤ c ∧ c ≤ 'Z' then some (c.toNat - 65)
  else if 'a' ≤ c ∧ c ≤ 'z' then some (c.toNat - 97 + 26)
  else if '0' ≤ c ∧ c ≤ '9' then some (c.toNat - 48 + 52)
  else if c = '+' then some 62
  else if c = '/' then some 63
  else none

/-! ## 2. Writing -/

/-- Bytes as characters, without line breaks. -/
def encode : List UInt8 → List Char
  | [] => []
  | [a] => [digit (a.toNat / 4), digit (a.toNat % 4 * 16), '=', '=']
  | [a, b] =>
    [digit (a.toNat / 4), digit (a.toNat % 4 * 16 + b.toNat / 16), digit (b.toNat % 16 * 4), '=']
  | a :: b :: c :: rest =>
    digit (a.toNat / 4) :: digit (a.toNat % 4 * 16 + b.toNat / 16) ::
      digit (b.toNat % 16 * 4 + c.toNat / 64) :: digit (c.toNat % 64) :: encode rest

def bytesPerLine : Nat := 57

/-- Bytes in groups that fill a line, the last one shorter if need be. -/
def groups (bytes : List UInt8) : List (List UInt8) :=
  if _h : bytes = [] then []
  else bytes.take bytesPerLine :: groups (bytes.drop bytesPerLine)
termination_by bytes.length
decreasing_by
  have := List.length_pos_iff.2 _h
  simp [bytesPerLine]; omega

def encodeLines (bytes : List UInt8) : List Char :=
  (groups bytes).flatMap fun group => encode group ++ ['\n']

/-! ## 3. Reading -/

inductive Fault
  | leadingPadding
  | excessData
  | outsideAlphabet
  | discontinuousPadding
  /-- One character more than full groups; the count is that of all characters with data. -/
  | lonelyCharacter (count : Nat)
  | incorrectPadding
  deriving DecidableEq, Repr

def Fault.text : Fault → String
  | .leadingPadding => "Leading padding not allowed"
  | .excessData => "Excess data after padding"
  | .outsideAlphabet => "Only base64 data is allowed"
  | .discontinuousPadding => "Discontinuous padding not allowed"
  | .lonelyCharacter count =>
    s!"Invalid base64-encoded string: number of data characters ({count}) cannot be 1 more "
      ++ "than a multiple of 4"
  | .incorrectPadding => "Incorrect padding"

/-- Characters read in the current group, the bits of the last one that belong to the next byte,
the padding seen in it, whether there was any padding, and the bytes so far, the last one first. -/
structure State where
  column : Nat
  carry : Nat
  pads : Nat
  padded : Bool
  done : List UInt8
  deriving Repr

def State.start : State := ⟨0, 0, 0, false, []⟩

/-- Moves to another column with other bits left over, a byte being complete. -/
def State.complete (s : State) (column carry byte : Nat) : State :=
  { s with column, carry, pads := 0, done := UInt8.ofNat byte :: s.done }

def State.take (s : State) (v : Nat) : State :=
  match s.column with
  | 0 => { s with column := 1, carry := v, pads := 0 }
  | 1 => s.complete 2 (v % 16) (s.carry * 4 + v / 16)
  | 2 => s.complete 3 (v % 4) (s.carry * 16 + v / 4)
  | _ => s.complete 0 0 (s.carry * 64 + v)

/-- Takes a padding character that does not complete a group. -/
def State.pad (s : State) : State :=
  { s with padded := true, pads := if s.column ≥ 2 then s.pads + 1 else s.pads }

def decodeFrom : List Char → State → Except Fault (List UInt8)
  | [], s =>
    if s.column = 0 then .ok s.done.reverse
    else if s.column = 1 then .error (.lonelyCharacter (s.done.length / 3 * 4 + 1))
    else .error .incorrectPadding
  | c :: cs, s =>
    if c = '=' then
      if s.column ≥ 2 ∧ s.column + (s.pads + 1) ≥ 4 then
        if cs.isEmpty then .ok s.done.reverse else .error .excessData
      else decodeFrom cs s.pad
    else
      match value? c with
      | none => .error .outsideAlphabet
      | some v =>
        if s.padded then .error .discontinuousPadding
        else decodeFrom cs (s.take v)

def decode (cs : List Char) : Except Fault (List UInt8) :=
  match cs with
  | '=' :: _ => .error .leadingPadding
  | _ => decodeFrom cs .start

end Toolsmith.Base64
