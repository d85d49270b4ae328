import AccountingPage.Json.Value

/-!
# Writing a value

The compact form: no blanks, members in their order, and in strings no escape that is not needed.

* `escape` writes one character of a string, `writeString` a string with its quotes.
* `Value.write` writes a value, `Value.render` gives the text.
-/

set_option autoImplicit false

namespace AccountingPage
namespace Json

/-- Quote, backslash and the control characters below `U+0020` are escaped, five of the latter by a
letter and the others by code point. -/
def escape (c : Char) : List Char :=
  if c = '"' then ['\\', '"']
  else if c = '\\' then ['\\', '\\']
  else if c = '\x08' then ['\\', 'b']
  else if c = '\t' then ['\\', 't']
  else if c = '\n' then ['\\', 'n']
  else if c = '\x0c' then ['\\', 'f']
  else if c = '\r' then ['\\', 'r']
  else if c.toNat < 0x20 then
    ['\\', 'u', '0', '0', Nat.digitChar (c.toNat / 16), Nat.digitChar (c.toNat % 16)]
  else [c]

def writeString (s : String) : List Char := '"' :: s.toList.flatMap escape ++ ['"']

def Number.write : Number → List Char
  | .integer n => (toString n).toList
  | .double x => (Decimal.write doubleStyle x).toList

/-- Puts commas between the pieces. -/
def commaSeparated (pieces : List (List Char)) : List Char := [','].intercalate pieces

mutual

def Value.write : Value → List Char
  | .null => ['n', 'u', 'l', 'l']
  | .boolean true => ['t', 'r', 'u', 'e']
  | .boolean false => ['f', 'a', 'l', 's', 'e']
  | .number n => n.write
  | .string s => writeString s
  | .array items => '[' :: commaSeparated (writeItems items) ++ [']']
  | .object members => '\x7b' :: commaSeparated (writeMembers members) ++ ['\x7d']

def writeItems : List Value → List (List Char)
  | [] => []
  | v :: vs => v.write :: writeItems vs

def writeMembers : List (String × Value) → List (List Char)
  | [] => []
  | (name, v) :: ms => (writeString name ++ ':' :: v.write) :: writeMembers ms

end

def Value.render (v : Value) : String := String.ofList v.write

end Json
end AccountingPage
