/-!
# Signs and digits

What the readers of numbers have in common, whether the number was typed by a person or written by
a program.

* `Text.splitSign` parts a sign from what follows, `Text.decimalValue` is the number that a run of
  digits spells.
-/

set_option autoImplicit false

namespace AccountingPage
namespace Text

/-- Whether there is a minus sign, and what follows the sign, if there is one. -/
def splitSign : List Char → Bool × List Char
  | '-' :: cs => (true, cs)
  | '+' :: cs => (false, cs)
  | cs => (false, cs)

/-- The number that a run of digits spells. -/
def decimalValue (digits : List Char) : Nat := Nat.ofDigitChars 10 digits 0

end Text
end AccountingPage
