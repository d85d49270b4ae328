import AccountingPage.Json.Collection
import AccountingPage.Json.Numeral

/-!
# Reading a value

A value that is kept is read with a limit on its nesting: at most 127 brackets may be open at once.
A value of a wanted kind that turns out to be of another kind is reported with what was found: a
scalar after it has been read, so that a fault inside it wins, a list or an object before its
bracket.

* `scalar` reads a value that is neither a list nor an object.
* `value room` reads any value that fits under the limit with `room` more brackets.
* `wanted` reads a scalar of one kind, `record` a record with named fields.
* `parse` reads a whole text as one value.
-/

set_option autoImplicit false

namespace AccountingPage
namespace Json

variable {α : Type}

/-- How many brackets may be open at once. -/
def maxDepth : Nat := 127

def literal (letters : List Char) (v : Value) : Reader Value := fun cs =>
  match word letters cs with
  | .error f => .error f
  | .ok rest => .ok (v, rest)

def numberValue (negative : Bool) : Reader Value := fun cs =>
  match numeral negative cs with
  | .error f => .error f
  | .ok (n, rest) => .ok (.number n, rest)

/-- A value that starts with none of the brackets; nothing is left before it. -/
def scalar : Reader Value
  | [] => faultPast .eofInValue []
  | c :: cs =>
    if c = '"' then
      match quotation cs with
      | .error f => .error f
      | .ok (s, rest) => .ok (.string s, rest)
    else if c = '-' then numberValue true cs
    else if c.isDigit then numberValue false (c :: cs)
    else if c = 't' then literal ['r', 'u', 'e'] (.boolean true) cs
    else if c = 'f' then literal ['a', 'l', 's', 'e'] (.boolean false) cs
    else if c = 'n' then literal ['u', 'l', 'l'] .null cs
    else faultPast .expectedValue (c :: cs)

/-- What a value starts with. -/
inductive Opening where
  | list (rest : List Char)
  | object (rest : List Char)
  | other (cs : List Char)

/-- Passes the blanks before a value, and its bracket. -/
def opening (cs : List Char) : Opening :=
  match skipSpace cs with
  | [] => .other []
  | c :: rest =>
    if c = '[' then .list rest else if c = '\x7b' then .object rest else .other (c :: rest)

def value : Nat → Reader Value
  | 0, cs =>
    match opening cs with
    | .other cs => scalar cs
    | _ => faultPast .tooDeep (skipSpace cs)
  | room + 1, cs =>
    match opening cs with
    | .list rest =>
      match items (value room) rest with
      | .error f => .error f
      | .ok (vs, rest) => .ok (.array vs, rest)
    | .object rest =>
      match members (value room) rest with
      | .error f => .error f
      | .ok (ms, rest) => .ok (.object ms, rest)
    | .other cs => scalar cs

/-- A whole text as one value. -/
def parse (text : String) : Except Error Value := document (value maxDepth) text

/-! ## Values of a wanted kind -/

/-- A scalar that `select` takes; `expected` names the kind. -/
def wanted (expected : String) (select : Value → Option α) : Reader α := fun cs =>
  match opening cs with
  | .list _ => fault (.invalidType (.array []) expected) (skipSpace cs)
  | .object _ => fault (.invalidType (.object []) expected) (skipSpace cs)
  | .other cs =>
    match scalar cs with
    | .error f => .error f
    | .ok (v, rest) =>
      match select v with
      | some a => .ok (a, rest)
      | none => fault (.invalidType v expected) rest

def stringField : Reader String := wanted "a string" Value.text?

def boolean : Reader Bool := wanted "a boolean" Value.boolean?

/-- A record: an object of its fields, or a list of them in their order. -/
def record (type : String) (named listed : Reader α) : Reader α := fun cs =>
  match opening cs with
  | .object rest => inObject named rest
  | .list rest => inList listed rest
  | .other cs => wanted s!"struct {type}" (fun _ => none) cs

end Json
end AccountingPage
