import AccountingPage.Text.Printable

/-!
# Quoted text

How an error message shows a piece of text that it found where it wanted something else: between
double quotes, with everything escaped that would end the quotation, change the line or not show.

* `Text.hexDigits` writes a number in lower-case hexadecimal without leading zeros.
* `Text.escape` is the written form of one character, `Text.quote` that of a text.
-/

set_option autoImplicit false

namespace AccountingPage
namespace Text

def hexDigits (n : Nat) : List Char := Nat.toDigits 16 n

/-- A character inside the quotation: the few with a short escape, then the printable ones as they
are, then the others by code point.  Only the double quote is escaped of the two quotes. -/
def escape (c : Char) : List Char :=
  if c = '"' then ['\\', '"']
  else if c = '\\' then ['\\', '\\']
  else if c = '\x00' then ['\\', '0']
  else if c = '\t' then ['\\', 't']
  else if c = '\n' then ['\\', 'n']
  else if c = '\r' then ['\\', 'r']
  else if isPrintable c then [c]
  else ['\\', 'u', '\x7b'] ++ hexDigits c.toNat ++ ['\x7d']

def quote (s : String) : String := String.ofList ('"' :: s.toList.flatMap escape ++ ['"'])

end Text
end AccountingPage
