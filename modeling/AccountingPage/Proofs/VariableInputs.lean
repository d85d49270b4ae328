import AccountingPage.Proofs.Grouping
import AccountingPage.Proofs.Settling
import AccountingPage.Proofs.Stability

/-!
# The two inputs of a formula variable

What is typed for a variable goes back into the page twice, as digits into a hidden field and with
its points into the visible one.  The form's entries are read off the page again, and they may come
from either field, or from a page where nothing has been cleaned.  That makes no difference, because
dropping all but the digits takes out again what grouping has put in.

* `digitsOf_variableDisplay` says this of what is typed, with `digitsOf_groupThousands`.
* `Fields.SameDigits` relates entries that differ in other characters only;
  `Fields.formulaVariables_of_sameDigits` and `oversizedVariables_of_sameDigits` say that they are
  read alike.
* `Session.VariableCleaned` is what is promised of a text that is typed for a variable, and
  `variable_cleaned` proves it.
-/

set_option autoImplicit false

namespace AccountingPage

/-! ## What the two fields show -/

theorem digitsOf_variableDigits (t : String) : digitsOf (variableDigits t) = digitsOf t :=
  digitsOf_eq_self isDigit_of_mem_digitsOf

theorem digitsOf_variableDisplay (t : String) : digitsOf (variableDisplay t) = digitsOf t :=
  digitsOf_groupThousands isDigit_of_mem_digitsOf

/-- The text that is shown has the digits that were typed. -/
theorem variableDigits_variableDisplay (t : String) :
    variableDigits (variableDisplay t) = variableDigits t := digitsOf_variableDisplay t

/-- The text that is shown is shown as it is. -/
theorem variableDisplay_variableDisplay (t : String) :
    variableDisplay (variableDisplay t) = variableDisplay t :=
  congrArg groupThousands (digitsOf_variableDisplay t)

/-! ## Entries that are read alike -/

namespace Fields

/-- The entries have one key, and their values have the same digits in them. -/
def SameDigits (e e' : String × String) : Prop := e.1 = e'.1 ∧ digitsOf e.2 = digitsOf e'.2

/-- Only the digits of an entry count. -/
theorem SameDigits.variableText?_eq {e e' : String × String} (h : SameDigits e e') :
    variableText? e = variableText? e' := by
  rw [variableText?, variableText?, h.1, h.2]

variable {f f' : Fields}

theorem formulaVariables_of_sameDigits (h : List.Forall₂ SameDigits f.entries f'.entries) :
    f.formulaVariables = f'.formulaVariables :=
  TextMap.gather_congr <| h.imp fun e e' hee => by
    rw [variableValue?, variableValue?, hee.variableText?_eq]

theorem oversizedVariables_of_sameDigits (h : List.Forall₂ SameDigits f.entries f'.entries) :
    f.oversizedVariables = f'.oversizedVariables :=
  TextMap.filterMap_congr <| h.imp fun e e' hee => by
    rw [oversizedVariable?, oversizedVariable?, hee.variableText?_eq]

/-- One entry is exchanged for another. -/
theorem forall₂_sameDigits {e e' : String × String} (h : SameDigits e e')
    (before after : List (String × String)) :
    List.Forall₂ SameDigits (before ++ e :: after) (before ++ e' :: after) := by
  have hrefl : ∀ l, List.Forall₂ SameDigits l l := fun l =>
    List.forall₂_same.2 fun e _ => ⟨rfl, rfl⟩
  exact List.rel_append (hrefl before) (.cons h (hrefl after))

end Fields

/-! ## Typing for a variable -/

/-- A text that is typed for a variable goes into both fields, and the form stays as it is. -/
theorem Component.invoke_updateVariable (page : Page) (config : Config) (text : String)
    (hidden : Option String) (q : QuickForm) :
    (quickForm q).invoke page config Method.updateVariable.name ⟨some text, hidden⟩ =
      ⟨quickForm q, ⟨some (variableDisplay text), hidden.map fun _ => variableDigits text⟩, [],
        .ok none⟩ := by
  simp only [Method.name, invoke, reading, plain]

namespace Session

variable {s : Session} {a : Address}

/-- What is promised when a text is typed for a variable at the form `q`, with a hidden field or
without: there are then these digits in the hidden field, and this text in the visible one. -/
structure VariableCleaned (s : Session) (a : Address) (q : QuickForm) (text : String)
    (hidden : Option String) (digits shown : String) : Prop where
  stripped : digits.toList = text.toList.filter Char.isDigit
  /-- The digits are shown as they are, zeros in front included, in groups of three from the
  right. -/
  grouped : digits = "" ∧ shown = "" ∨ ∃ g : Grouping, g.digits = digits.toList ∧ shown = g.text
  /-- To type what is shown changes neither field. -/
  settles : s.Settles a Method.updateVariable.name ⟨some text, hidden⟩
    ⟨.quickForm q, ⟨some shown, hidden.map fun _ => digits⟩, [], .ok none⟩
  /-- Nothing but the fields has changed. -/
  still : (s.step (.invoke a Method.updateVariable.name ⟨some text, hidden⟩)).session = s
  /-- In a form, either text sets the variables that the typed text sets, and skips those that it
  skips. -/
  collected : ∀ name value, value = digits ∨ value = shown →
    ∀ before after : List (String × String),
      let typed : Fields := ⟨before ++ ("var_" ++ name, text) :: after⟩
      let cleaned : Fields := ⟨before ++ ("var_" ++ name, value) :: after⟩
      cleaned.formulaVariables = typed.formulaVariables ∧
        cleaned.oversizedVariables = typed.oversizedVariables

/-- **A formula variable means the same in both fields**, whatever is typed for it. -/
theorem variable_cleaned {q : QuickForm} (hq : s.shownAt a = some (.quickForm q)) (text : String)
    (hidden : Option String) : ∃ digits shown, VariableCleaned s a q text hidden digits shown := by
  obtain ⟨c, hc, hresolve⟩ := Option.map_eq_some_iff.1 hq
  have hfirst := Component.invoke_updateVariable s.page s.config text hidden q
  have hagain := Component.invoke_updateVariable s.page s.config (variableDisplay text)
    (hidden.map fun _ => variableDigits text) q
  rw [variableDisplay_variableDisplay, variableDigits_variableDisplay, Option.map_map] at hagain
  rw [← hresolve] at hfirst hagain
  obtain ⟨hsettles, hstill⟩ := settles_of_still hc hfirst hagain
  refine ⟨variableDigits text, variableDisplay text, String.toList_ofList,
    groupThousands_cases isDigit_of_mem_digitsOf, hresolve ▸ hsettles, hstill, ?_⟩
  rintro name value hvalue before after
  have hsame : digitsOf value = digitsOf text := by
    rcases hvalue with rfl | rfl
    · exact digitsOf_variableDigits text
    · exact digitsOf_variableDisplay text
  have hentry : Fields.SameDigits ("var_" ++ name, value) ("var_" ++ name, text) := ⟨rfl, hsame⟩
  have halike := Fields.forall₂_sameDigits hentry before after
  exact ⟨Fields.formulaVariables_of_sameDigits halike,
    Fields.oversizedVariables_of_sameDigits halike⟩

theorem variable_cleaned_typedInto :
    typedInto.shownAt (.slot "form") = some (.quickForm ⟨25000, false⟩) ∧
      ∃ digits shown, VariableCleaned typedInto (.slot "form") ⟨25000, false⟩ "Rp 0012x500"
        (some "7") digits shown := by
  have hq : typedInto.shownAt (.slot "form") = some (.quickForm ⟨25000, false⟩) := by
    decide +kernel
  exact ⟨hq, variable_cleaned hq ..⟩

end Session

end AccountingPage
