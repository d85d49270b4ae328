/-!
# Form entries

What a form holds when it is submitted: its entries in the order of the document.  A name may occur
more than once.

* `Fields` is the list of entries, `Fields.get?` the value of the first entry of a name.
-/

set_option autoImplicit false

namespace AccountingPage

structure Fields where
  entries : List (String × String)
deriving DecidableEq, Repr, Inhabited

namespace Fields

theorem eq_of_entries_eq {f : Fields} {entries : List (String × String)} (h : f.entries = entries) :
    f = ⟨entries⟩ := by
  subst h
  rfl

/-- The first entry of that name counts. -/
def get? (f : Fields) (name : String) : Option String :=
  (f.entries.find? fun e => e.1 == name).map (·.2)

def push (f : Fields) (name value : String) : Fields := ⟨f.entries ++ [(name, value)]⟩

def size (f : Fields) : Nat := f.entries.length

end Fields

end AccountingPage
