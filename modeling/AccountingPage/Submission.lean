import AccountingPage.Record.QuickForm
import AccountingPage.Effect

/-!
# Submitting a quick form

A submit has two halves with the network between them.  The first half marks the record, reads the
form and posts the request; the second half deals with the answer and frees the record.  While a
record is marked, another submit of it is ignored, so that a second click posts nothing.

* `Submission.start` is the first half, `Submission.resume` the second.
* `Submission.conclude` is how every submit ends that was not ignored: with the new transaction's
  page, or with an alert.
* `Progress` is what a half leaves behind.
-/

set_option autoImplicit false

namespace AccountingPage
namespace Submission

inductive Outcome where
  /-- Another submit of the same record is under way. -/
  | ignored
  | created (id : TransactionId)
  | failed (e : Failure)

/-- Where a submit stands. -/
inductive Status where
  | awaiting (request : Request)
  | finished (outcome : Outcome)

/-- What one half of a submit leaves behind. -/
structure Progress where
  form : QuickForm
  effects : List Effect
  status : Status

/-- What a submit sees of its surroundings. -/
structure Surroundings where
  page : Page
  config : Config
  /-- Whether the markup follows the submit: then the form is read from the page when its turn
  comes, and the markup is drawn again whenever the record is marked or freed. -/
  watched : Bool

/-- Drawing the markup again, if it follows. -/
def Surroundings.redraw (s : Surroundings) (f : QuickForm) : List Effect :=
  if s.watched then [.redraw f.label] else []

/-- The end of a submit.  The record is free again, whatever the result. -/
def conclude (s : Surroundings) (form : QuickForm) (result : Except Failure TransactionId) :
    Progress :=
  let form := { form with submitting := false }
  match result with
  | .ok id =>
    let modal := s.config.quickModalId
    ⟨form,
      [.log (.created id), .closeDialog modal (s.page.hasDialog modal),
        .navigate (s.config.detailPath id.display)] ++ s.redraw form,
      .finished (.created id)⟩
  | .error e =>
    ⟨form, [.log (.failed e), .alert (s.config.alertPrefix ++ e.message)] ++ s.redraw form,
      .finished (.failed e)⟩

def Progress.after (p : Progress) (effects : List Effect) : Progress :=
  { p with effects := effects ++ p.effects }

/-- The first half.  `source` is what reading the form gives, its entries or a reason why it cannot
be read. -/
def start (s : Surroundings) (form : QuickForm) (source : Except String Fields) : Progress :=
  if form.submitting then ⟨form, [.log .alreadySubmitting], .finished .ignored⟩
  else
    let form := { form with submitting := true }
    let opening := s.redraw form ++ [.log (.submitting s.config.transactionEndpoint)] ++
      if s.watched then [.readFields] else []
    match source with
    | .ok fields =>
      let request := Request.ofFields fields s.page s.config
      ⟨form, opening ++ fields.variableWarnings ++ [.post request], .awaiting request⟩
    | .error reason => (conclude s form (.error (.form reason))).after opening

/-- The second half.  `answer` is the reply, or a reason why there is none. -/
def resume (s : Surroundings) (form : QuickForm) (answer : Except String Reply) : Progress :=
  match answer with
  | .ok reply => (conclude s form reply.created).after [.log (.responseStatus reply.status)]
  | .error reason => conclude s form (.error (.transport reason))

end Submission
end AccountingPage
