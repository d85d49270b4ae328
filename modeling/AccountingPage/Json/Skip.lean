import AccountingPage.Json.Collection
import AccountingPage.Text.Numeral

/-!
# Passing over a value

The value of a member that nobody asks for is passed over without being kept.  Its brackets must
still match and its words must still be well formed, but a number may be of any size, surrogates
need not come in pairs and there is no limit on the nesting.  A few faults are reported otherwise
than where the value is kept.

* `skipNumber`, `skipString` pass over scalars.
* `skipValue room` passes over any value with at most `room` open brackets, and `skip` over any
  value at all: a text has no more brackets than characters.
-/

set_option autoImplicit false

namespace AccountingPage
namespace Json

/-- Digits, at least one. -/
def someDigits (cs : List Char) : Except Fault (List Char) :=
  match cs with
  | [] => faultPast .invalidNumber []
  | c :: rest =>
    if c.isDigit then .ok (rest.dropWhile Char.isDigit) else faultPast .invalidNumber (c :: rest)

def skipExponent : List Char → Except Fault (List Char)
  | [] => .ok []
  | c :: cs =>
    if c = 'e' ∨ c = 'E' then someDigits (Text.splitSign cs).2 else .ok (c :: cs)

def skipFraction : List Char → Except Fault (List Char)
  | '.' :: cs =>
    match someDigits cs with
    | .error f => .error f
    | .ok rest => skipExponent rest
  | cs => skipExponent cs

/-- A number after its minus sign. -/
def skipNumber : List Char → Except Fault (List Char)
  | [] => faultPast .invalidNumber []
  | c :: cs =>
    if c = '0' then
      match cs with
      | [] => .ok []
      | d :: rest =>
        if d.isDigit then faultPast .invalidNumber (d :: rest) else skipFraction (d :: rest)
    else if c.isDigit then skipFraction (cs.dropWhile Char.isDigit)
    else faultPast .invalidNumber (c :: cs)

def skipEscape : List Char → Except Fault (List Char)
  | [] => fault .eofInString []
  | c :: cs =>
    if c = 'u' then
      match hexFour cs with
      | .error f => .error f
      | .ok (_, rest) => .ok rest
    else if (shortEscape? c).isSome then .ok cs
    else faultPast .invalidEscape (c :: cs)

def skipStringStep (_ : Unit) : Reader (Turn Unit Unit)
  | [] => fault .eofInString []
  | c :: cs =>
    if c = '"' then .ok (.leave (), cs)
    else if c = '\\' then
      match skipEscape cs with
      | .error f => .error f
      | .ok rest => .ok (.again (), rest)
    else if c.toNat < 0x20 then fault .controlCharacter (c :: cs)
    else .ok (.again (), cs)

/-- A string after its opening quote. -/
def skipString (cs : List Char) : Except Fault (List Char) :=
  match iterate skipStringStep () cs with
  | .error f => .error f
  | .ok (_, rest) => .ok rest

/-- Whether another piece follows before the closing bracket; the comma before it is passed.
Unlike in a value that is kept, nothing is said here about what comes after the comma. -/
def skipComma (close : Char) (eof noComma : Cause) (first : Bool) : Reader Bool := fun cs =>
  match skipSpace cs with
  | [] => faultPast eof []
  | c :: rest =>
    if c = close then .ok (false, rest)
    else if first then .ok (true, c :: rest)
    else if c = ',' then .ok (true, rest)
    else faultPast noComma (c :: rest)

def skipItemStep (skip : List Char → Except Fault (List Char)) (first : Bool) :
    Reader (Turn Bool Unit) := fun cs =>
  match skipComma ']' .eofInList .expectedCommaInList first cs with
  | .error f => .error f
  | .ok (false, rest) => .ok (.leave (), rest)
  | .ok (true, rest) =>
    match skip rest with
    | .error f => .error f
    | .ok rest => .ok (.again false, rest)

/-- A name and its colon. -/
def skipName (cs : List Char) : Except Fault (List Char) :=
  match skipSpace cs with
  | [] => faultPast .eofInObject []
  | c :: rest =>
    if c = '"' then
      match skipString rest with
      | .error f => .error f
      | .ok rest => colon rest
    else faultPast .keyNotString (c :: rest)

def skipMemberStep (skip : List Char → Except Fault (List Char)) (first : Bool) :
    Reader (Turn Bool Unit) := fun cs =>
  match skipComma '\x7d' .eofInObject .expectedCommaInObject first cs with
  | .error f => .error f
  | .ok (false, rest) => .ok (.leave (), rest)
  | .ok (true, rest) =>
    match skipName rest with
    | .error f => .error f
    | .ok rest =>
      match skip rest with
      | .error f => .error f
      | .ok rest => .ok (.again false, rest)

def skipScalar : List Char → Except Fault (List Char)
  | [] => faultPast .eofInValue []
  | c :: cs =>
    if c = '"' then skipString cs
    else if c = '-' then skipNumber cs
    else if c.isDigit then skipNumber (c :: cs)
    else if c = 't' then word ['r', 'u', 'e'] cs
    else if c = 'f' then word ['a', 'l', 's', 'e'] cs
    else if c = 'n' then word ['u', 'l', 'l'] cs
    else faultPast .expectedValue (c :: cs)

def skipValue : Nat → List Char → Except Fault (List Char)
  | 0, cs => skipScalar (skipSpace cs)
  | room + 1, cs =>
    match skipSpace cs with
    | [] => skipScalar []
    | c :: rest =>
      if c = '[' then
        match iterate (skipItemStep (skipValue room)) true rest with
        | .error f => .error f
        | .ok (_, rest) => .ok rest
      else if c = '\x7b' then
        match iterate (skipMemberStep (skipValue room)) true rest with
        | .error f => .error f
        | .ok (_, rest) => .ok rest
      else skipScalar (c :: rest)

def skip (cs : List Char) : Except Fault (List Char) := skipValue cs.length cs

end Json
end AccountingPage
