import AccountingPage.Json.Quotation

/-!
# Between the items of a list, between the members of an object

What stands between the brackets is read piece by piece.  Here are the pieces that do not depend on
what is read: finding the next item or the next name, the colon, and the closing bracket of a
record, which is found also when a fault has been met inside.

* `nextItem` and `nextName` say whether there is another one, and stop before it or before the
  closing bracket.
* `members` and `items` read the inside of an object or a list whose pieces are all alike.
* `inObject` and `inList` put the brackets around a reader of a record's fields.
-/

set_option autoImplicit false

namespace AccountingPage
namespace Json

variable {α : Type}

/-- Whether another item follows; a comma before it is passed. -/
def nextItem (first : Bool) : Reader Bool := fun cs =>
  match skipSpace cs with
  | [] => faultPast .eofInList []
  | c :: rest =>
    if c = ']' then .ok (false, c :: rest)
    else if first then .ok (true, c :: rest)
    else if c = ',' then
      match skipSpace rest with
      | [] => faultPast .eofInValue []
      | d :: rest => if d = ']' then faultPast .trailingComma (d :: rest) else .ok (true, d :: rest)
    else faultPast .expectedCommaInList (c :: rest)

/-- A name after the comma that comes before it. -/
def nameAfterComma : Reader (Option String) := fun cs =>
  match skipSpace cs with
  | [] => faultPast .eofInValue []
  | c :: rest =>
    if c = '"' then
      match quotation rest with
      | .error f => .error f
      | .ok (name, rest) => .ok (some name, rest)
    else if c = '\x7d' then faultPast .trailingComma (c :: rest)
    else faultPast .keyNotString (c :: rest)

/-- The name of another member, if one follows. -/
def nextName (first : Bool) : Reader (Option String) := fun cs =>
  match skipSpace cs with
  | [] => faultPast .eofInObject []
  | c :: rest =>
    if c = '\x7d' then .ok (none, c :: rest)
    else if first then
      if c = '"' then nameAfterComma (c :: rest) else faultPast .keyNotString (c :: rest)
    else if c = ',' then nameAfterComma rest
    else faultPast .expectedCommaInObject (c :: rest)

def colon (cs : List Char) : Except Fault (List Char) :=
  match skipSpace cs with
  | [] => faultPast .eofInObject []
  | c :: rest => if c = ':' then .ok rest else faultPast .expectedColon (c :: rest)

/-! ## Pieces that are all alike -/

def itemStep (read : Reader α) (sofar : List α) : Reader (Turn (List α) (List α)) := fun cs =>
  match nextItem sofar.isEmpty cs with
  | .error f => .error f
  | .ok (false, rest) => .ok (.leave sofar.reverse, rest.drop 1)
  | .ok (true, rest) =>
    match read rest with
    | .error f => .error f
    | .ok (a, rest) => .ok (.again (a :: sofar), rest)

/-- The items of a list, after its opening bracket. -/
def items (read : Reader α) : Reader (List α) := iterate (itemStep read) []

def memberStep (read : Reader α) (sofar : List (String × α)) :
    Reader (Turn (List (String × α)) (List (String × α))) := fun cs =>
  match nextName sofar.isEmpty cs with
  | .error f => .error f
  | .ok (none, rest) => .ok (.leave sofar.reverse, rest.drop 1)
  | .ok (some name, rest) =>
    match colon rest with
    | .error f => .error f
    | .ok rest =>
      match read rest with
      | .error f => .error f
      | .ok (a, rest) => .ok (.again ((name, a) :: sofar), rest)

/-- The members of an object, after its opening bracket. -/
def members (read : Reader α) : Reader (List (String × α)) := iterate (memberStep read) []

/-! ## The brackets of a record -/

/-- Settles the place of a floating fault, after the closing bracket if that is what comes next. -/
def Fault.settle (close : List Char → List Char) (f : Fault) : Fault :=
  if f.floating then ⟨f.cause, close f.rest, 0, false⟩ else f

def closeObject (cs : List Char) : List Char :=
  match skipSpace cs with
  | [] => []
  | c :: rest => if c = '\x7d' then rest else c :: rest

/-- A comma is passed as well. -/
def closeList (cs : List Char) : List Char :=
  match skipSpace cs with
  | [] => []
  | c :: rest => if c = ']' then rest else if c = ',' then skipSpace rest else c :: rest

/-- A record that is written as an object: `fields` starts after the opening bracket and stops
before the closing one. -/
def inObject (fields : Reader α) : Reader α := fun cs =>
  match fields cs with
  | .error f => .error (f.settle closeObject)
  | .ok (a, rest) => .ok (a, closeObject rest)

/-- A record that is written as the list of its fields.  No item may be left over. -/
def inList (fields : Reader α) : Reader α := fun cs =>
  match fields cs with
  | .error f => .error (f.settle closeList)
  | .ok (a, rest) =>
    match skipSpace rest with
    | [] => faultPast .eofInList []
    | c :: rest =>
      if c = ']' then .ok (a, rest)
      else if c = ',' then
        match skipSpace rest with
        | ']' :: rest => faultPast .trailingComma (']' :: rest)
        | rest => faultPast .trailingCharacters rest
      else faultPast .trailingCharacters (c :: rest)

end Json
end AccountingPage
