import AccountingPage.Record.TransactionForm

/-!
# The quick form

The form for a quick transaction keeps its amount and whether it is being submitted.  A formula
variable is not kept in the record: what is typed goes back into the page as digits, plain into a
hidden field and grouped into the visible one.

* `QuickForm` is the record, idle at first.
* `variableDigits` and `variableDisplay` are the two texts of a formula variable.
-/

set_option autoImplicit false

namespace AccountingPage

/-- The record of a quick form.  From the start of a submit to its end it is marked. -/
structure QuickForm where
  amount : Amount
  submitting : Bool
deriving DecidableEq, Repr, Inhabited

namespace QuickForm

def idle : QuickForm := ⟨0, false⟩

def formattedAmount (f : QuickForm) : String := f.amount.format

/-- What the submit button says. -/
def label (f : QuickForm) : String := draftLabel f.submitting

def enterAmount (f : QuickForm) (text : String) : QuickForm := { f with amount := .parse text }

end QuickForm

/-- What the hidden field of a formula variable holds. -/
def variableDigits (typed : String) : String := digitsOf typed

/-- What the visible field of a formula variable shows. -/
def variableDisplay (typed : String) : String := groupThousands (digitsOf typed)

end AccountingPage
