import Toolsmith.Text.Quoted
/-!
# UTF-8

Bytes read as text.  Only the shortest form of a character is accepted, and no surrogate.  The
first byte sequence that is no character is reported with its place, its length and the reason:
the length is that of the longest beginning that could still have become a character.
-/

namespace Toolsmith.Text.Utf8

inductive Reason
  | startByte
  | continuation
  | endOfData
  deriving DecidableEq, Repr

/-- The first bytes that are no character: their place, how many there are, and the first. -/
structure Fault where
  place : Nat
  length : Nat
  byte : UInt8
  reason : Reason
  deriving DecidableEq, Repr

def Reason.text : Reason → String
  | .startByte => "invalid start byte"
  | .continuation => "invalid continuation byte"
  | .endOfData => "unexpected end of data"

/-- The wording of a fault: a single byte is shown, several are given by their places. -/
def Fault.text (f : Fault) : String :=
  let subject :=
    if f.length = 1 then
      "byte 0x" ++ String.ofList (Quoted.hexDigits 2 f.byte.toNat) ++ s!" in position {f.place}"
    else s!"bytes in position {f.place}-{f.place + f.length - 1}"
  "'utf-8' codec can't decode " ++ subject ++ ": " ++ f.reason.text

def isContinuation (b : UInt8) : Bool := 0x80 ≤ b && b ≤ 0xBF

/-- The second bytes that may follow a leading byte of a character of three or four bytes: the
bounds leave out overlong forms, surrogates and what lies beyond the last code point. -/
def mayFollow (lead b : UInt8) : Bool :=
  isContinuation b &&
    (if lead = 0xE0 then 0xA0 ≤ b
     else if lead = 0xED then b < 0xA0
     else if lead = 0xF0 then 0x90 ≤ b
     else if lead = 0xF4 then b < 0x90
     else true)

def payload (b : UInt8) : Nat := b.toNat % 64

/-- Reads bytes from a place on; `done` holds the characters so far, the last one first. -/
def decodeFrom : List UInt8 → Nat → List Char → Except Fault (List Char)
  | [], _, done => .ok done.reverse
  | b :: rest, place, done =>
    if b < 0x80 then decodeFrom rest (place + 1) (Char.ofNat b.toNat :: done)
    else if b < 0xC2 then .error ⟨place, 1, b, .startByte⟩
    else if b < 0xE0 then
      match rest with
      | [] => .error ⟨place, 1, b, .endOfData⟩
      | b₁ :: rest =>
        if isContinuation b₁ then
          decodeFrom rest (place + 2) (Char.ofNat ((b.toNat % 32) * 64 + payload b₁) :: done)
        else .error ⟨place, 1, b, .continuation⟩
    else if b < 0xF0 then
      match rest with
      | [] => .error ⟨place, 1, b, .endOfData⟩
      | b₁ :: rest =>
        if mayFollow b b₁ then
          match rest with
          | [] => .error ⟨place, 2, b, .endOfData⟩
          | b₂ :: rest =>
            if isContinuation b₂ then
              decodeFrom rest (place + 3)
                (Char.ofNat ((b.toNat % 16) * 4096 + payload b₁ * 64 + payload b₂) :: done)
            else .error ⟨place, 2, b, .continuation⟩
        else .error ⟨place, 1, b, .continuation⟩
    else if b < 0xF5 then
      match rest with
      | [] => .error ⟨place, 1, b, .endOfData⟩
      | b₁ :: rest =>
        if mayFollow b b₁ then
          match rest with
          | [] => .error ⟨place, 2, b, .endOfData⟩
          | b₂ :: rest =>
            if isContinuation b₂ then
              match rest with
              | [] => .error ⟨place, 3, b, .endOfData⟩
              | b₃ :: rest =>
                if isContinuation b₃ then
                  decodeFrom rest (place + 4)
                    (Char.ofNat ((b.toNat % 8) * 262144 + payload b₁ * 4096 + payload b₂ * 64
                      + payload b₃) :: done)
                else .error ⟨place, 3, b, .continuation⟩
            else .error ⟨place, 2, b, .continuation⟩
        else .error ⟨place, 1, b, .continuation⟩
    else .error ⟨place, 1, b, .startByte⟩

def decode (bytes : List UInt8) : Except Fault (List Char) := decodeFrom bytes 0 []

def encode (s : String) : List UInt8 := s.toUTF8.data.toList

end Toolsmith.Text.Utf8
