import AccountingPage.Draft
import AccountingPage.Page

/-!
# Requests

A draft goes to the configured endpoint as one JSON text, with the page's header against forged
requests if the page describes one.

* `Request.ofFields` is the request for a form's entries.  Of the page it depends on the header
  alone.
-/

set_option autoImplicit false

namespace AccountingPage

/-- What is posted.  There is no header but the one against forged requests. -/
structure Request where
  path : String
  headers : List (String × String)
  body : String
deriving DecidableEq, Repr

def Request.ofFields (f : Fields) (p : Page) (c : Config) : Request :=
  ⟨c.transactionEndpoint, (p.csrfHeader? c).toList, (Draft.ofFields f).body⟩

end AccountingPage
