import AccountingPage.Config.Basic
import AccountingPage.TextMap

/-!
# The page

What the page itself offers to its records: meta tags, by name, and dialogs that can be closed.

* `Page.hasDialog` says whether a dialog can be found.
* `Page.csrfHeader?` is the header against forged requests that the page's meta tags describe.
-/

set_option autoImplicit false

namespace AccountingPage

structure Page where
  tags : TextMap String
  dialogs : List String
deriving DecidableEq

namespace Page

def hasDialog (p : Page) (id : String) : Bool := p.dialogs.contains id

/-- A meta tag with some content. -/
def filledTag? (p : Page) (name : String) : Option String :=
  (p.tags.get? name).filter fun content => content ≠ ""

/-- Name and value of the header: the one is in the header tag, the other in the token tag.  Without
either there is no header. -/
def csrfHeader? (p : Page) (c : Config) : Option (String × String) :=
  match p.filledTag? c.csrfTokenMeta, p.filledTag? c.csrfHeaderMeta with
  | some token, some header => some (header, token)
  | _, _ => none

/-- Sets a meta tag, or takes it away. -/
def setTag (p : Page) (name : String) : Option String → Page
  | some content => { p with tags := p.tags.insert name content }
  | none => { p with tags := p.tags.erase name }

end Page

end AccountingPage
