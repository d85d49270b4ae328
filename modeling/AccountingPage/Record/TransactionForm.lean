import AccountingPage.Effect
import AccountingPage.Element

/-!
# The transaction form

The form for a full transaction keeps the amount as a number, while its field shows the grouped
text.  Each edit of the field is read, and the field is then written anew.

* `draftLabel` and `postLabel` are the texts on the submit buttons.
* `TransactionForm` is the record, `TransactionForm.ofElement` its state when it is bound.
* `TransactionForm.enterAmount` reads the field; `formattedAmount` is what the field shows then.
* `TransactionForm.updateAmount` is the whole edit, one thing after the other: the record, the
  field, and the event that tells of both.
-/

set_option autoImplicit false

namespace AccountingPage

/-- The button that saves a draft. -/
def draftLabel (submitting : Bool) : String := if submitting then "Menyimpan..." else "Simpan Draft"

/-- The button that saves and posts. -/
def postLabel (submitting : Bool) : String :=
  if submitting then "Memproses..." else "Simpan & Posting"

structure TransactionForm where
  amount : Amount
  description : String
  submitting : Bool
deriving DecidableEq, Repr, Inhabited

namespace TransactionForm

/-- The element's `amount`, read as a leading integer, and its `description`. -/
def ofElement (e : Element) : TransactionForm where
  amount := ((e.data? "amount").map Amount.leading).getD 0
  description := (e.data? "description").getD ""
  submitting := false

def formattedAmount (f : TransactionForm) : String := f.amount.format

/-- What is written into the amount field when the form is bound; nothing for zero. -/
def initialAmount? (f : TransactionForm) : Option String :=
  if f.amount = 0 then none else some f.formattedAmount

/-- What is written into the description field when the form is bound; nothing if it is empty. -/
def initialDescription? (f : TransactionForm) : Option String :=
  if f.description = "" then none else some f.description

def enterAmount (f : TransactionForm) (text : String) : TransactionForm :=
  { f with amount := .parse text }

def enterDescription (f : TransactionForm) (text : String) : TransactionForm :=
  { f with description := text }

end TransactionForm

/-! ## Edits of the amount -/

/-- An event, with the record and the text in its field as they are when it is sent. -/
structure AmountEvent where
  event : Event
  form : TransactionForm
  text : String
deriving DecidableEq, Repr

/-- An edit on its way: the record, the text in its field, and the events so far. -/
structure AmountEdit where
  form : TransactionForm
  text : String
  sent : List AmountEvent
deriving DecidableEq, Repr

namespace AmountEdit

/-- The field is read into the record. -/
def read (e : AmountEdit) : AmountEdit := { e with form := e.form.enterAmount e.text }

/-- The field is written anew. -/
def rewrite (e : AmountEdit) : AmountEdit := { e with text := e.form.formattedAmount }

def send (event : Event) (e : AmountEdit) : AmountEdit :=
  { e with sent := e.sent ++ [⟨event, e.form, e.text⟩] }

end AmountEdit

/-- The edit that follows when a text has been typed into the amount field. -/
def TransactionForm.updateAmount (f : TransactionForm) (text : String) : AmountEdit :=
  let typed : AmountEdit := ⟨f, text, []⟩
  typed.read.rewrite.send .amountChanged

theorem TransactionForm.updateAmount_eq (f : TransactionForm) (text : String) :
    f.updateAmount text =
      ⟨f.enterAmount text, (f.enterAmount text).formattedAmount,
        [⟨.amountChanged, f.enterAmount text, (f.enterAmount text).formattedAmount⟩]⟩ := by
  simp only [updateAmount, AmountEdit.read, AmountEdit.rewrite, AmountEdit.send, List.nil_append]

theorem TransactionForm.amount_updateAmount (f : TransactionForm) (text : String) :
    (f.updateAmount text).form.amount = .parse text := by
  rw [updateAmount_eq, enterAmount]

end AccountingPage
