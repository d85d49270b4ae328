import AccountingPage.Element

/-!
# Choices in a form

The records behind the picker of an identity document, the confirmation of a voided transaction and
the switch between a fixed amount and a percentage.

* `IdTypePicker`, `VoidConfirmation` and `PercentageSwitch` are the records.
* `IdTypePicker.ofElement` and `PercentageSwitch.ofElement` take over what the element says.
-/

set_option autoImplicit false

namespace AccountingPage

/-- The kind of identity document that is chosen, as the option's value. -/
structure IdTypePicker where
  idType : String
deriving DecidableEq, Repr, Inhabited

/-- The element's value, empty if it has none. -/
def IdTypePicker.ofElement (e : Element) : IdTypePicker := ⟨e.value.getD ""⟩

/-- Why a transaction is to be voided, and whether the box is ticked. -/
structure VoidConfirmation where
  reason : String
  confirmed : Bool
deriving DecidableEq, Repr, Inhabited

def VoidConfirmation.blank : VoidConfirmation := ⟨"", false⟩

structure PercentageSwitch where
  isPercentage : Bool
deriving DecidableEq, Repr, Inhabited

/-- Only the text `true` selects the percentage. -/
def PercentageSwitch.ofElement (e : Element) : PercentageSwitch :=
  ⟨e.data? "initialPercentage" == some "true"⟩

end AccountingPage
