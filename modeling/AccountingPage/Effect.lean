import AccountingPage.Reply
import AccountingPage.Request

/-!
# Effects

Nothing in this library touches a store, a page or a network itself.  What an operation does to
them is part of its result, as a list of effects in the order in which they happen.

* `Event` lists the events that a record sends to other regions of the page.
* `Notice` lists what is logged, with `Notice.level` and `Notice.text`.
* `Effect` is one step of what happens, `Effect.saved?` the write to the store in it.
-/

set_option autoImplicit false

namespace AccountingPage

inductive Event where
  | amountChanged
  | varChanged
  | accountChanged
deriving DecidableEq, Repr

def Event.name : Event → String
  | amountChanged => "amount-changed"
  | varChanged => "var-changed"
  | accountChanged => "account-changed"

inductive Notice where
  /-- A text in the store is not a flag. -/
  | ignoredFlag (key : String) (e : Json.Error)
  /-- A name is taken in the registry. -/
  | alreadyRegistered (name : String)
  | registered (count : Nat)
  | unknownComponent (name region : String)
  | dropped (count : Nat) (region : String)
  /-- A variable is too large. -/
  | skippedVariable (name : String)
  | alreadySubmitting
  | submitting (endpoint : String)
  | responseStatus (status : Nat)
  | created (id : TransactionId)
  | failed (e : Failure)

namespace Notice

def level : Notice → Level
  | ignoredFlag _ _ => .warn
  | alreadyRegistered _ => .warn
  | registered _ => .debug
  | unknownComponent _ _ => .warn
  | dropped _ _ => .debug
  | skippedVariable _ => .warn
  | alreadySubmitting => .debug
  | submitting _ => .debug
  | responseStatus _ => .debug
  | created _ => .debug
  | failed _ => .error

def text : Notice → String
  | ignoredFlag key e => s!"ignoring stored value for {key}: {e.message}"
  | alreadyRegistered name => s!"component {name} already registered"
  | registered count => s!"registered {count} components"
  | unknownComponent name region => s!"unknown component {name} under {region}"
  | dropped count region => s!"destroyed {count} bindings under {region}"
  | skippedVariable name => s!"skipping variable {name}: number too large to fit in target type"
  | alreadySubmitting => "quick transaction submit ignored: already submitting"
  | submitting endpoint => s!"quick transaction submit to {endpoint}"
  | responseStatus status => s!"quick transaction response status {status}"
  | created id => s!"transaction created: {id.display}"
  | failed (.rejected status body) => s!"quick transaction rejected: {status} {body}"
  | failed e => s!"quick transaction failed: {e.message}"

end Notice

inductive Effect where
  /-- The store is asked for a text. -/
  | load (key : String)
  /-- A text is written to the store. -/
  | save (key text : String)
  | dispatch (event : Event)
  | alert (text : String)
  | navigate (path : String)
  /-- A dialog is closed, if the page has it. -/
  | closeDialog (id : String) (found : Bool)
  /-- The form's entries are read. -/
  | readFields
  /-- The markup is drawn again, with this text on the submit button. -/
  | redraw (label : String)
  | post (request : Request)
  | log (notice : Notice)

namespace Effect

def saved? : Effect → Option (String × String)
  | save key text => some (key, text)
  | _ => none

end Effect

/-- The warnings about variables that are left out of a draft. -/
def Fields.variableWarnings (f : Fields) : List Effect :=
  f.oversizedVariables.map fun name => .log (.skippedVariable name)

end AccountingPage
