import UiRecovery.Text.Blank

/-!
# Signatures

A called method is named by the text `ret name(p1,p2)`: its return type, its name and the types of
its parameters. The name and the parameters are found from their delimiters, so that any text has
both, if only empty ones.
-/

namespace UiRecovery.Signature

/-- What follows the last `d`, everything if there is none. -/
def afterLast (d : Char) (cs : List Char) : List Char := (cs.reverse.takeWhile (· ≠ d)).reverse

/-- What precedes the last `d`, nothing if there is none. -/
def beforeLast (d : Char) (cs : List Char) : List Char :=
  ((cs.reverse.dropWhile (· ≠ d)).drop 1).reverse

/-- The name of the called method: the last word before the first parenthesis. -/
def callName (signature : String) : String :=
  String.ofList (afterLast ' ' (signature.toList.takeWhile (· ≠ '(')))

/-- The text between the first opening parenthesis and the last closing one. A signature that is
never closed is open to its end, and one that is closed only before it opens holds nothing. -/
def parameterText (signature : List Char) : List Char :=
  let inside := (signature.dropWhile (· ≠ '(')).drop 1
  if ')' ∈ inside then beforeLast ')' inside
  else if ')' ∈ signature then []
  else inside

/-- The types of the parameters, without the blanks around them. An empty one does not count. -/
def callParams (signature : String) : List String :=
  let parts := (parameterText signature.toList).splitOn ','
  (parts.map Text.trim).filterMap fun p => if p.isEmpty then none else some (String.ofList p)

end UiRecovery.Signature
