import AccountingPage.Json.Value

/-!
# What can be wrong with a JSON text

Every fault has a cause and a place, and the place is part of what is reported.  Places are counted
in bytes of the text's UTF-8 form: the line is one more than the line feeds passed, the column is
the number of bytes passed since the last of them.

* `Cause` lists the causes, `Cause.message` their wording.
* `place` finds line and column after a number of bytes.
* `Error` is a cause with its place, `Error.message` the reported text.
-/

set_option autoImplicit false

namespace AccountingPage
namespace Json

inductive Cause where
  | eofInValue
  | eofInString
  | eofInList
  | eofInObject
  | expectedValue
  | expectedIdent
  | expectedColon
  | expectedCommaInList
  | expectedCommaInObject
  | keyNotString
  | trailingComma
  | trailingCharacters
  | invalidNumber
  | numberOutOfRange
  | invalidEscape
  | controlCharacter
  | loneSurrogate
  | unfinishedSurrogatePair
  | tooDeep
  | invalidType (found : Value) (expected : String)
  | invalidLength (length : Nat) (expected : String)
  | unknownField (name : String) (known : List String)
  | duplicateField (name : String)
  | missingField (name : String)
  | noVariant (type : String)
deriving Inhabited

def Cause.message : Cause → String
  | eofInValue => "EOF while parsing a value"
  | eofInString => "EOF while parsing a string"
  | eofInList => "EOF while parsing a list"
  | eofInObject => "EOF while parsing an object"
  | expectedValue => "expected value"
  | expectedIdent => "expected ident"
  | expectedColon => "expected `:`"
  | expectedCommaInList => "expected `,` or `]`"
  | expectedCommaInObject => "expected `,` or `\x7d`"
  | keyNotString => "key must be a string"
  | trailingComma => "trailing comma"
  | trailingCharacters => "trailing characters"
  | invalidNumber => "invalid number"
  | numberOutOfRange => "number out of range"
  | invalidEscape => "invalid escape"
  | controlCharacter => "control character (\\u0000-\\u001F) found while parsing a string"
  | loneSurrogate => "lone leading surrogate in hex escape"
  | unfinishedSurrogatePair => "unexpected end of hex escape"
  | tooDeep => "recursion limit exceeded"
  | invalidType found expected => s!"invalid type: {found.describe}, expected {expected}"
  | invalidLength length expected => s!"invalid length {length}, expected {expected}"
  | unknownField name known =>
    let quoted := ", ".intercalate (known.map fun k => s!"`{k}`")
    s!"unknown field `{name}`, expected one of {quoted}"
  | duplicateField name => s!"duplicate field `{name}`"
  | missingField name => s!"missing field `{name}`"
  | noVariant type => s!"data did not match any variant of untagged enum {type}"

/-- The line and column that are reached from those given after so many more bytes.  A place may
lie within a character. -/
def place : List Char → Nat → Nat × Nat → Nat × Nat
  | [], _, at_ => at_
  | c :: cs, n, (line, column) =>
    if n = 0 then (line, column)
    else if n < c.utf8Size then (line, column + n)
    else place cs (n - c.utf8Size) (if c = '\n' then (line + 1, 0) else (line, column + c.utf8Size))

structure Error where
  cause : Cause
  line : Nat
  column : Nat
deriving Inhabited

def Error.message (e : Error) : String := s!"{e.cause.message} at line {e.line} column {e.column}"

end Json
end AccountingPage
