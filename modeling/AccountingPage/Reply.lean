import AccountingPage.Json.Reader
import AccountingPage.Json.Skip

/-!
# Replies

The server answers a posted draft with a status and a text.  A status from 200 to 299 is a success,
and then the text must carry the id of the new transaction, a number or a string; whatever else it
carries is passed over.

* `TransactionId` is the id, `TransactionId.display` its form in a path.
* `TransactionId.ofJson` reads it from the text of a reply.
* `Failure` lists the ways in which posting a draft can fail.
* `Reply.created` is what a reply says about the new transaction.
-/

set_option autoImplicit false

namespace AccountingPage

inductive TransactionId where
  | number (n : Json.Number)
  | text (s : String)
deriving Inhabited

namespace TransactionId

/-- In a path a number has no exponent and no empty fraction; of two nearest decimals the one
further from zero is taken. -/
def pathStyle : Decimal.Style := ⟨.away, fun _ => true, false⟩

def display : TransactionId → String
  | number (.integer n) => toString n
  | number (.double x) => Decimal.write pathStyle x
  | text s => s

/-! ## Reading the id -/

def ofValue? : Json.Value → Option TransactionId
  | .number n => some (number n)
  | .string s => some (text s)
  | _ => none

/-- The value of the id is read in full, inside one bracket, before it is looked at. -/
def idField : Json.Reader TransactionId := fun cs =>
  match Json.value (Json.maxDepth - 1) cs with
  | .error f => .error f
  | .ok (v, rest) =>
    match ofValue? v with
    | some id => .ok (id, rest)
    | none => Json.floatingFault (.noVariant "TransactionId") rest

/-- How far the members have been read: whether any has been, and the id. -/
structure Progress where
  first : Bool
  id? : Option TransactionId

def memberStep (p : Progress) : Json.Reader (Json.Turn Progress TransactionId) := fun cs =>
  match Json.nextName p.first cs with
  | .error f => .error f
  | .ok (none, rest) =>
    match p.id? with
    | some id => .ok (.leave id, rest)
    | none => Json.floatingFault (.missingField "id") rest
  | .ok (some name, rest) =>
    if name = "id" then
      if p.id?.isSome then Json.floatingFault (.duplicateField "id") rest
      else
        match Json.colon rest with
        | .error f => .error f
        | .ok rest =>
          match idField rest with
          | .error f => .error f
          | .ok (id, rest) => .ok (.again ⟨false, some id⟩, rest)
    else
      match Json.colon rest with
      | .error f => .error f
      | .ok rest =>
        match Json.skip rest with
        | .error f => .error f
        | .ok rest => .ok (.again ⟨false, p.id?⟩, rest)

def named : Json.Reader TransactionId := Json.iterate memberStep ⟨true, none⟩

def listed : Json.Reader TransactionId := fun cs =>
  match Json.nextItem true cs with
  | .error f => .error f
  | .ok (false, rest) =>
    Json.floatingFault (.invalidLength 0 "struct CreatedTransaction with 1 element") rest
  | .ok (true, rest) => idField rest

def ofJson (text : String) : Except Json.Error TransactionId :=
  Json.document (Json.record "CreatedTransaction" named listed) text

end TransactionId

/-! ## Replies and failures -/

structure Reply where
  status : Nat
  body : String
deriving DecidableEq, Repr

def Reply.succeeded (r : Reply) : Bool := 200 ≤ r.status && r.status < 300

/-- Why a draft was not made. -/
inductive Failure where
  /-- The form could not be read. -/
  | form (reason : String)
  /-- There was no reply. -/
  | transport (reason : String)
  | rejected (status : Nat) (body : String)
  /-- The reply carries no id. -/
  | decode (e : Json.Error)

def Failure.message : Failure → String
  | form reason => reason
  | transport reason => reason
  | rejected _ body => body
  | decode e => e.message

/-- The id of the transaction that a reply reports. -/
def Reply.created (r : Reply) : Except Failure TransactionId :=
  if r.succeeded then
    match TransactionId.ofJson r.body with
    | .ok id => .ok id
    | .error e => .error (.decode e)
  else .error (.rejected r.status r.body)

end AccountingPage
