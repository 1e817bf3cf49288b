import Toolsmith.Json.Reader
/-!
# Stand-ins for documents

Several documents that are read for one purpose share the characters that stand in for lone
surrogates.  The choice is made before any of them is read, and errs on the safe side: all that
looks like an escape counts as one.
-/

namespace Toolsmith.Json

/-- The code units that a text holds or asks for by what looks like an escape, the last one first
in `done`. -/
def unitsOf : List Char → List Nat → List Nat
  | [], done => done.reverse
  | '\\' :: 'u' :: a :: b :: c :: d :: rest, done =>
    match codeUnit? a b c d with
    | some unit => unitsOf rest (unit :: done)
    | none => unitsOf ('u' :: a :: b :: c :: d :: rest) done
  | c :: rest, done => unitsOf rest (c.toNat :: done)

/-- Stand-ins for all lone surrogates of some documents, none of them a character of a document. -/
def standIns (documents : List (List Char)) : Text.StandIns :=
  let units := documents.flatMap fun cs => unitsOf cs []
  .choose (units.filter Text.isSurrogate).eraseDups (joinUnits [] units)

end Toolsmith.Json
