import UiRecovery.Text.Unseen

/-!
# Quoted text

Text shown between double quotes in a message, so that its ends and its unseen characters can be
told.
-/

namespace UiRecovery.Text

/-- The characters with an escape of one letter, and the letter. -/
def escapes : List (Char × Char) :=
  [('"', '"'), ('\\', '\\'), ('\n', 'n'), ('\r', 'r'), ('\t', 't'), ('\x00', '0')]

/-- How one character is shown between quotes: an unseen one by its code point in hexadecimal. -/
def quotedChar (c : Char) : List Char :=
  match escapes.lookup c with
  | some e => ['\\', e]
  | none =>
    if isUnseen c then ['\\', 'u', '\x7b'] ++ Nat.toDigits 16 c.toNat ++ ['\x7d'] else [c]

def quoted (s : String) : String := String.ofList ('"' :: s.toList.flatMap quotedChar ++ ['"'])

end UiRecovery.Text
