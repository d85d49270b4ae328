import AccountingPage.Record.Choices
import AccountingPage.Record.Nav
import AccountingPage.Record.Panels
import AccountingPage.Record.QuickForm

/-!
# Components

A component is the record behind one bound element, of one of eleven kinds.  The quick form is
special: its record is shared by everything that refers to it, so what a component holds of it is
left open.  On its own a component holds the record (`Component QuickForm`); on a page it holds a
reference to it.

* `Kind` names the kinds, `Component.kind` tells them.
* `Component.props` lists the properties that markup sees, `Component.takeBack` takes back the few
  that markup may write.
-/

set_option autoImplicit false

namespace AccountingPage

inductive Kind where
  | toggle
  | searchFilter
  | sidebar
  | expandable
  | disclosure
  | idTypePicker
  | voidConfirmation
  | percentageSwitch
  | nav
  | transactionForm
  | quickForm
deriving DecidableEq, Repr

def Kind.name : Kind → String
  | toggle => "toggle"
  | searchFilter => "searchFilter"
  | sidebar => "sidebar"
  | expandable => "expandable"
  | disclosure => "show"
  | idTypePicker => "idTypeSelector"
  | voidConfirmation => "voidForm"
  | percentageSwitch => "percentageToggle"
  | nav => "nav"
  | transactionForm => "transactionForm"
  | quickForm => "quickTransactionForm"

/-- A component of any kind; `φ` is what is held of a quick form. -/
inductive Component (φ : Type) where
  | toggle (t : Toggle)
  | searchFilter (s : SearchFilter)
  | sidebar (s : Sidebar)
  | expandable (e : Expandable)
  | disclosure (d : Disclosure)
  | idTypePicker (s : IdTypePicker)
  | voidConfirmation (v : VoidConfirmation)
  | percentageSwitch (p : PercentageSwitch)
  | nav (n : Nav)
  | transactionForm (f : TransactionForm)
  | quickForm (f : φ)
deriving DecidableEq

namespace Component

variable {φ ψ : Type}

def kind : Component φ → Kind
  | toggle _ => .toggle
  | searchFilter _ => .searchFilter
  | sidebar _ => .sidebar
  | expandable _ => .expandable
  | disclosure _ => .disclosure
  | idTypePicker _ => .idTypePicker
  | voidConfirmation _ => .voidConfirmation
  | percentageSwitch _ => .percentageSwitch
  | nav _ => .nav
  | transactionForm _ => .transactionForm
  | quickForm _ => .quickForm

/-- Replaces what is held of the quick form. -/
def map (g : φ → ψ) : Component φ → Component ψ
  | toggle t => toggle t
  | searchFilter s => searchFilter s
  | sidebar s => sidebar s
  | expandable e => expandable e
  | disclosure d => disclosure d
  | idTypePicker s => idTypePicker s
  | voidConfirmation v => voidConfirmation v
  | percentageSwitch p => percentageSwitch p
  | nav n => nav n
  | transactionForm f => transactionForm f
  | quickForm f => quickForm (g f)

@[simp] theorem kind_map (g : φ → ψ) (c : Component φ) : (c.map g).kind = c.kind := by
  cases c <;> rfl

/-- What is held of the quick form, if the component is one. -/
def quickForm? : Component φ → Option φ
  | quickForm f => some f
  | _ => none

/-! ## Properties -/

abbrev Props := TextMap Json.Value

/-- The properties that markup sees, derived ones included, by name. -/
def properties : Component QuickForm → List (String × Json.Value)
  | toggle t => [("open", .boolean t.isOpen)]
  | searchFilter s => [("open", .boolean s.isOpen), ("hasQuery", .boolean s.hasQuery)]
  | sidebar s => [("sidebarOpen", .boolean s.isOpen)]
  | expandable e => [("expanded", .boolean e.expanded)]
  | disclosure d => [("show", .boolean d.isShown)]
  | idTypePicker s => [("idType", .string s.idType)]
  | voidConfirmation v => [("voidReason", .string v.reason), ("confirmVoid", .boolean v.confirmed)]
  | percentageSwitch p => [("isPercentage", .boolean p.isPercentage)]
  | nav n => [("open", .boolean n.isOpen)]
  | transactionForm f =>
    [("amount", Draft.amountValue f.amount), ("description", .string f.description),
      ("submitting", .boolean f.submitting), ("notSubmitting", .boolean !f.submitting),
      ("formattedAmount", .string f.formattedAmount)]
  | quickForm f =>
    [("amount", Draft.amountValue f.amount), ("submitting", .boolean f.submitting),
      ("formattedAmount", .string f.formattedAmount), ("submitButtonText", .string f.label)]

/-- What markup sees of a component. -/
def props (c : Component QuickForm) : Props := .ofList c.properties

/-- Takes back the properties that markup may write.  One of the wrong type is passed over. -/
def takeBack (props : Props) : Component φ → Component φ
  | idTypePicker s =>
    idTypePicker ⟨((props.get? "idType").bind Json.Value.text?).getD s.idType⟩
  | voidConfirmation v =>
    voidConfirmation ⟨((props.get? "voidReason").bind Json.Value.text?).getD v.reason,
      ((props.get? "confirmVoid").bind Json.Value.boolean?).getD v.confirmed⟩
  | transactionForm f =>
    transactionForm
      (f.enterDescription (((props.get? "description").bind Json.Value.text?).getD f.description))
  | c => c

@[simp] theorem kind_takeBack (props : Props) (c : Component φ) :
    (c.takeBack props).kind = c.kind := by
  cases c <;> rfl

end Component

end AccountingPage
