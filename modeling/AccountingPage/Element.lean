import AccountingPage.TextMap

/-!
# Elements

What a record sees of the element that it is bound to: the element's data attributes and, if it is
an input, its value, both as they are when the record is made.

* `Element.data?` reads an attribute.
-/

set_option autoImplicit false

namespace AccountingPage

structure Element where
  dataset : TextMap String
  value : Option String
deriving DecidableEq

namespace Element

/-- An element without attributes, and no input. -/
def bare : Element := ⟨.empty, none⟩

instance : Inhabited Element := ⟨bare⟩

def data? (e : Element) (name : String) : Option String := e.dataset.get? name

end Element

end AccountingPage
