import AccountingPage.Amount
import AccountingPage.Fields
import AccountingPage.Json.Printer
import AccountingPage.TextMap

/-!
# Draft transactions

The quick form asks the server to make a draft transaction.  What it asks for is read off the
form's entries: six entries by name, of which the first one of a name counts, and two families of
entries whose names carry a name of their own, of which the last one counts.

* `accountName?` finds the line's name in `accountMapping[…]`, behind the first opening that has
  one; `Fields.accountMappings` gathers the chosen accounts.
* `variableText?` reads a formula variable; `Fields.formulaVariables` gathers them, and
  `Fields.oversizedVariables` lists the ones that are left out because they are too large.
* `Draft.ofFields` puts a draft together, `Draft.body` is its text for the server.
-/

set_option autoImplicit false

namespace AccountingPage

/-! ## Accounts of template lines -/

def accountMappingOpen : List Char := "accountMapping[".toList

/-- The texts behind the openings in a text, after its first `skip` characters.  The search for the
next opening goes on behind the one that has been found. -/
def behindOpenings : Nat → List Char → List (List Char)
  | _, [] => []
  | skip + 1, _ :: cs => behindOpenings skip cs
  | 0, c :: cs =>
    match accountMappingOpen.isPrefixOf? (c :: cs) with
    | some rest => rest :: behindOpenings (accountMappingOpen.length - 1) cs
    | none => behindOpenings 0 cs

/-- What stands before the first closing bracket, if there is one and it is not right at the
front. -/
def closedName? (rest : List Char) : Option (List Char) :=
  let name := rest.takeWhile (· ≠ ']')
  if name = [] ∨ ']' ∉ rest then none else some name

/-- The name behind the first opening that has one. -/
def accountNameIn? (cs : List Char) : Option (List Char) :=
  (behindOpenings 0 cs).findSome? closedName?

def accountName? (key : String) : Option String := (accountNameIn? key.toList).map String.ofList

/-- The line and the account of an entry, if an account has been chosen. -/
def chosenAccount? (e : String × String) : Option (String × String) :=
  if e.2 = "" then none else (accountName? e.1).map (·, e.2)

def Fields.accountMappings (f : Fields) : TextMap String :=
  .ofList (f.entries.filterMap chosenAccount?)

/-! ## Formula variables -/

def variableStart : List Char := "var_".toList

/-- Name and digits of a variable's entry, if there are digits. -/
def variableText? (e : String × String) : Option (String × String) :=
  match variableStart.isPrefixOf? e.1.toList with
  | none => none
  | some name =>
    let digits := digitsOf e.2
    if digits = "" then none else some (String.ofList name, digits)

def variableValue? (e : String × String) : Option (String × Amount) :=
  (variableText? e).bind fun (name, digits) => (Amount.ofDigits? digits).map (name, ·)

def oversizedVariable? (e : String × String) : Option String :=
  (variableText? e).bind fun (name, digits) =>
    match Amount.ofDigits? digits with
    | some _ => none
    | none => some name

def Fields.formulaVariables (f : Fields) : TextMap Amount :=
  .ofList (f.entries.filterMap variableValue?)

/-- The names of the variables that do not fit, one for each entry and in their order. -/
def Fields.oversizedVariables (f : Fields) : List String :=
  f.entries.filterMap oversizedVariable?

/-! ## The draft -/

structure Draft where
  templateId : Option String
  amount : Amount
  description : Option String
  transactionDate : Option String
  referenceNumber : String
  notes : String
  accountMappings : TextMap String
  formulaVariables : Option (TextMap Amount)
deriving DecidableEq

namespace Draft

/-- The amount is read as a leading integer.  Without variables there is no map of them. -/
def ofFields (f : Fields) : Draft where
  templateId := f.get? "templateId"
  amount := ((f.get? "amount").map Amount.leading).getD 0
  description := f.get? "description"
  transactionDate := f.get? "transactionDate"
  referenceNumber := (f.get? "referenceNumber").getD ""
  notes := (f.get? "notes").getD ""
  accountMappings := f.accountMappings
  formulaVariables := if f.formulaVariables.size = 0 then none else some f.formulaVariables

/-! ## Its text -/

def optionalText : Option String → Json.Value
  | some s => .string s
  | none => .null

def amountValue (a : Amount) : Json.Value := .number (.integer a.toNat)

/-- The members in their fixed order; the variables are left out if there is no map of them. -/
def toJson (d : Draft) : Json.Value :=
  .object <|
    [("templateId", optionalText d.templateId),
      ("amount", amountValue d.amount),
      ("description", optionalText d.description),
      ("transactionDate", optionalText d.transactionDate),
      ("referenceNumber", .string d.referenceNumber),
      ("notes", .string d.notes),
      ("accountMappings", .object (d.accountMappings.map Json.Value.string).entries)] ++
    match d.formulaVariables with
    | some vs => [("variables", .object (vs.map amountValue).entries)]
    | none => []

def body (d : Draft) : String := d.toJson.render

end Draft

end AccountingPage
