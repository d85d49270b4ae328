import AccountingPage.Component.Basic

/-!
# Methods

Markup runs the methods of a component by name.  A method may read and change the field that the
markup points at and the hidden field beside it, and it may have effects.

* `Method` lists the methods of all kinds, `Kind.methods` those that a kind offers.
* `submitName` is the name by which a quick form is submitted; it is not among them, because a
  submit does not end at once.
* `Called` is what a call leaves behind, whether it was carried out or refused.
* `Component.invoke` is a call.  Each kind tells its names apart by itself, and does not look at the
  list of what it offers; that the two agree is proved, not built in.
-/

set_option autoImplicit false

namespace AccountingPage

inductive Method where
  | toggle
  | close
  | openDropdown
  | closeDropdown
  | updateHasQuery
  | toggleSidebar
  | openSidebar
  | closeSidebar
  | toggleExpanded
  | toggleShow
  | closeShow
  | initFromElement
  | updateFromEvent
  | setFixed
  | setPercentage
  | openSection
  | closeSection
  | getSubmitButtonText
  | getSubmitPostButtonText
  | updateAmount
  | updateDescription
  | dispatchVarChanged
  | dispatchAccountChanged
  | updateVariable
  | closeModal
deriving DecidableEq, Repr

namespace Method

def name : Method → String
  | toggle => "toggle"
  | close => "close"
  | openDropdown => "openDropdown"
  | closeDropdown => "closeDropdown"
  | updateHasQuery => "updateHasQuery"
  | toggleSidebar => "toggleSidebar"
  | openSidebar => "openSidebar"
  | closeSidebar => "closeSidebar"
  | toggleExpanded => "toggleExpanded"
  | toggleShow => "toggleShow"
  | closeShow => "closeShow"
  | initFromElement => "initFromElement"
  | updateFromEvent => "updateFromEvent"
  | setFixed => "setFixed"
  | setPercentage => "setPercentage"
  | openSection => "openSection"
  | closeSection => "closeSection"
  | getSubmitButtonText => "getSubmitButtonText"
  | getSubmitPostButtonText => "getSubmitPostButtonText"
  | updateAmount => "updateAmount"
  | updateDescription => "updateDescription"
  | dispatchVarChanged => "dispatchVarChanged"
  | dispatchAccountChanged => "dispatchAccountChanged"
  | updateVariable => "updateVariable"
  | closeModal => "closeModal"

end Method

/-- The name by which markup submits a quick form. -/
def submitName : String := "submitForm"

/-- The methods of a kind, in the order in which they are offered. -/
def Kind.methods : Kind → List Method
  | toggle => [.toggle, .close]
  | searchFilter => [.toggle, .openDropdown, .closeDropdown, .updateHasQuery]
  | sidebar => [.toggleSidebar, .openSidebar, .closeSidebar]
  | expandable => [.toggleExpanded]
  | disclosure => [.toggleShow, .closeShow]
  | idTypePicker => [.initFromElement, .updateFromEvent]
  | voidConfirmation => []
  | percentageSwitch => [.setFixed, .setPercentage]
  | nav => [.toggle, .openSection, .closeSection]
  | transactionForm =>
    [.getSubmitButtonText, .getSubmitPostButtonText, .updateAmount, .updateDescription,
      .dispatchVarChanged, .dispatchAccountChanged]
  | quickForm => [.updateAmount, .updateVariable, .closeModal, .dispatchAccountChanged]

/-- The texts of the fields that a method may read and change. -/
structure Inputs where
  field : Option String
  hidden : Option String
deriving DecidableEq, Repr

inductive CallError where
  | unknownMethod (kind : Kind) (method : String)
  | missingInput (method : Method)
deriving DecidableEq, Repr

def CallError.message : CallError → String
  | unknownMethod kind method => s!"{kind.name} has no method {method}"
  | missingInput method => s!"{method.name} needs an input element"

/-- What a call leaves behind, and its result: the text that a method gives back if it is one that
does, or else why the call was refused. -/
structure Called where
  component : Component QuickForm
  inputs : Inputs
  effects : List Effect
  result : Except CallError (Option String)

namespace Component

/-- A method that changes its record alone. -/
def plain (c : Component QuickForm) (inputs : Inputs) : Called := ⟨c, inputs, [], .ok none⟩

/-- A call that ends here, with all as it stands. -/
def refused (c : Component QuickForm) (inputs : Inputs) (e : CallError) : Called :=
  ⟨c, inputs, [], .error e⟩

/-- Goes on with the text of the field.  Where there is no field the call ends here. -/
def reading (m : Method) (c : Component QuickForm) (inputs : Inputs) (f : String → Called) :
    Called :=
  match inputs.field with
  | some text => f text
  | none => refused c inputs (.missingInput m)

/-- A change of a section, with what is written to the store. -/
def ofNav (change : Nav × List Effect) (inputs : Inputs) : Called :=
  ⟨nav change.1, inputs, change.2, .ok none⟩

/-- Calls a component by a name, which may be any text. -/
def invoke (page : Page) (config : Config) (name : String) (inputs : Inputs)
    (c : Component QuickForm) : Called :=
  let unknown := refused c inputs (.unknownMethod c.kind name)
  match c with
  | toggle t =>
    match name with
    | "toggle" => plain (toggle t.flip) inputs
    | "close" => plain (toggle .closed) inputs
    | _ => unknown
  | searchFilter s =>
    match name with
    | "toggle" => plain (searchFilter s.flip) inputs
    | "openDropdown" => plain (searchFilter (s.setOpen true)) inputs
    | "closeDropdown" => plain (searchFilter (s.setOpen false)) inputs
    | "updateHasQuery" =>
      reading .updateHasQuery c inputs fun text => plain (searchFilter (s.enterQuery text)) inputs
    | _ => unknown
  | sidebar s =>
    match name with
    | "toggleSidebar" => plain (sidebar s.flip) inputs
    | "openSidebar" => plain (sidebar ⟨true⟩) inputs
    | "closeSidebar" => plain (sidebar ⟨false⟩) inputs
    | _ => unknown
  | expandable e =>
    match name with
    | "toggleExpanded" => plain (expandable e.flip) inputs
    | _ => unknown
  | disclosure d =>
    match name with
    | "toggleShow" => plain (disclosure d.flip) inputs
    | "closeShow" => plain (disclosure .hidden) inputs
    | _ => unknown
  | idTypePicker _ =>
    match name with
    | "initFromElement" => plain (idTypePicker ⟨inputs.field.getD ""⟩) inputs
    | "updateFromEvent" =>
      reading .updateFromEvent c inputs fun text => plain (idTypePicker ⟨text⟩) inputs
    | _ => unknown
  | voidConfirmation _ => unknown
  | percentageSwitch _ =>
    match name with
    | "setFixed" => plain (percentageSwitch ⟨false⟩) inputs
    | "setPercentage" => plain (percentageSwitch ⟨true⟩) inputs
    | _ => unknown
  | nav n =>
    match name with
    | "toggle" => ofNav n.flip inputs
    | "openSection" => ofNav (n.setOpen true) inputs
    | "closeSection" => ofNav (n.setOpen false) inputs
    | _ => unknown
  | transactionForm f =>
    match name with
    | "getSubmitButtonText" => ⟨c, inputs, [], .ok (some (draftLabel f.submitting))⟩
    | "getSubmitPostButtonText" => ⟨c, inputs, [], .ok (some (postLabel f.submitting))⟩
    | "updateAmount" =>
      reading .updateAmount c inputs fun text =>
        let edit := f.updateAmount text
        ⟨transactionForm edit.form, { inputs with field := some edit.text },
          edit.sent.map (.dispatch ·.event), .ok none⟩
    | "updateDescription" =>
      reading .updateDescription c inputs fun text =>
        plain (transactionForm (f.enterDescription text)) inputs
    | "dispatchVarChanged" => ⟨c, inputs, [.dispatch .varChanged], .ok none⟩
    | "dispatchAccountChanged" => ⟨c, inputs, [.dispatch .accountChanged], .ok none⟩
    | _ => unknown
  | quickForm f =>
    match name with
    | "updateAmount" =>
      reading .updateAmount c inputs fun text =>
        let f := f.enterAmount text
        plain (quickForm f) { inputs with field := some f.formattedAmount }
    | "updateVariable" =>
      -- the hidden field is written only if there is one
      reading .updateVariable c inputs fun text =>
        plain c ⟨some (variableDisplay text), inputs.hidden.map fun _ => variableDigits text⟩
    | "closeModal" =>
      let id := config.quickModalId
      ⟨c, inputs, [.closeDialog id (page.hasDialog id)], .ok none⟩
    | "dispatchAccountChanged" => ⟨c, inputs, [.dispatch .accountChanged], .ok none⟩
    | _ => unknown

end Component

end AccountingPage
