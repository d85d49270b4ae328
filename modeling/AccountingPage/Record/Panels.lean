/-!
# Panels that open and close

The records behind dropdowns, drawers and disclosures.  Each keeps whether its panel is open; the
search filter also keeps whether its query box holds any text.

* `Toggle`, `SearchFilter`, `Sidebar`, `Expandable` and `Disclosure` are the records, all closed at
  first.
-/

set_option autoImplicit false

namespace AccountingPage

/-- A dropdown or popover. -/
structure Toggle where
  isOpen : Bool
deriving DecidableEq, Repr, Inhabited

namespace Toggle

def closed : Toggle := ⟨false⟩

def flip (t : Toggle) : Toggle := ⟨!t.isOpen⟩

end Toggle

/-- A dropdown with a query box.  Of the query only whether there is one is kept. -/
structure SearchFilter where
  isOpen : Bool
  hasQuery : Bool
deriving DecidableEq, Repr, Inhabited

namespace SearchFilter

def closed : SearchFilter := ⟨false, false⟩

/-- Opens or closes the dropdown and leaves the query alone. -/
def setOpen (s : SearchFilter) (b : Bool) : SearchFilter := { s with isOpen := b }

def flip (s : SearchFilter) : SearchFilter := s.setOpen !s.isOpen

/-- The query box holds this text now.  Blanks count as text. -/
def enterQuery (s : SearchFilter) (text : String) : SearchFilter :=
  { s with hasQuery := text ≠ "" }

end SearchFilter

/-- The sidebar as a drawer, on small screens. -/
structure Sidebar where
  isOpen : Bool
deriving DecidableEq, Repr, Inhabited

namespace Sidebar

def closed : Sidebar := ⟨false⟩

def flip (s : Sidebar) : Sidebar := ⟨!s.isOpen⟩

end Sidebar

/-- A part of the page that can be expanded. -/
structure Expandable where
  expanded : Bool
deriving DecidableEq, Repr, Inhabited

namespace Expandable

def collapsed : Expandable := ⟨false⟩

def flip (e : Expandable) : Expandable := ⟨!e.expanded⟩

end Expandable

/-- A part of the page that is shown on demand. -/
structure Disclosure where
  isShown : Bool
deriving DecidableEq, Repr, Inhabited

namespace Disclosure

def hidden : Disclosure := ⟨false⟩

def flip (d : Disclosure) : Disclosure := ⟨!d.isShown⟩

end Disclosure

end AccountingPage
