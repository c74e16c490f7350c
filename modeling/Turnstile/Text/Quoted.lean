import Turnstile.Text.Printable
import Turnstile.Text.GraphemeExtend

/-!
# Quoted text

The form in which a diagnostic shows a text that it complains about: between
double quotes, with everything escaped that a reader could not see or that
would end the quote.  A single quote needs no escape inside double quotes.
-/

namespace Turnstile.Text

/-- The lower case hexadecimal digits of a number, no leading zero. -/
def hexNumeral (n : Nat) : List Char :=
  Nat.toDigits 16 n

/-- One character of a quoted text. -/
def quoteChar (c : Char) : List Char :=
  if c = '"' then ['\\', '"']
  else if c = '\\' then ['\\', '\\']
  else if c = '\t' then ['\\', 't']
  else if c = '\r' then ['\\', 'r']
  else if c = '\n' then ['\\', 'n']
  else if c = '\x00' then ['\\', '0']
  else if ' ' ≤ c ∧ c ≤ '~' then [c]
  else if isCombining c || isUnprintable c then
    ['\\', 'u', '\x7b'] ++ hexNumeral c.toNat ++ ['\x7d']
  else [c]

/-- A text between double quotes. -/
def quoted (text : String) : String :=
  String.ofList ('"' :: text.toList.flatMap quoteChar ++ ['"'])

end Turnstile.Text
