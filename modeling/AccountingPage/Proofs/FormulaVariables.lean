import AccountingPage.Proofs.Numeral
import AccountingPage.Proofs.SubmitTrace
import AccountingPage.Proofs.TextMap

/-!
# The variables that a form sets

An entry sets a variable of the template's formula if its key starts with `var_`; the name of the
variable is the rest of the key, which may be empty.  Its number is what the digits of the value
spell, and all other characters are passed over.  Numbers that are no amounts set nothing: they are
left out with a warning.

* `Fields.Assigns` says which number an entry gives to which variable, however large it is.
* `variableValue?_eq_some_iff` and `Fields.isOversized_iff` say what becomes of it on either side of
  `2 ^ 64`.
* `Submission.Trace.warnings_eq` collects the warnings of a whole submit.
* `Fields.VariablesExact` is what is promised of the variables of a form, and
  `Fields.formulaVariables_exact` proves it of every form.
-/

set_option autoImplicit false

namespace AccountingPage

/-! ## One entry -/

namespace Fields

/-- The entry gives the number to the variable: its digits, whatever stands between them, spell the
number. -/
structure Assigns (name : String) (n : Nat) (e : String × String) : Prop where
  key : e.1 = "var_" ++ name
  numeral : IsNumeral n (e.2.toList.filter Char.isDigit)

/-- The entry sets the variable: the number is an amount. -/
def Sets (name : String) (n : Nat) (e : String × String) : Prop := Assigns name n e ∧ n < 2 ^ 64

end Fields

/-- An entry is a variable's by its name, if its value has a digit. -/
theorem variableText?_eq_some_iff {e : String × String} {name digits : String} :
    variableText? e = some (name, digits) ↔
      e.1 = "var_" ++ name ∧ digitsOf e.2 ≠ "" ∧ digitsOf e.2 = digits := by
  have hstart : "var_".toList = variableStart := rfl
  have hkey : e.1 = "var_" ++ name ↔ variableStart.isPrefixOf? e.1.toList = some name.toList := by
    rw [← String.toList_inj, String.toList_append, hstart, List.isPrefixOf?_eq_some_iff_append_eq,
      eq_comm]
  rw [variableText?, hkey]
  cases variableStart.isPrefixOf? e.1.toList with
  | none => simp
  | some rest =>
    have hname : String.ofList rest = name ↔ rest = name.toList := by
      rw [← String.toList_inj, String.toList_ofList]
    simp only [Option.ite_none_left_eq_some, Option.some.injEq, Prod.mk.injEq, hname]
    exact and_left_comm

namespace Fields

/-- An entry with a variable's key and some digits gives one number, the value of the digits. -/
theorem assigns_iff {name : String} {n : Nat} {e : String × String} :
    Assigns name n e ↔
      variableText? e = some (name, digitsOf e.2) ∧
        Text.decimalValue (e.2.toList.filter Char.isDigit) = n := by
  have hdigits : ∀ c ∈ e.2.toList.filter Char.isDigit, c.isDigit = true := fun c hc =>
    (List.mem_filter.1 hc).2
  have hempty : digitsOf e.2 ≠ "" ↔ e.2.toList.filter Char.isDigit ≠ [] :=
    not_congr String.ofList_eq_empty_iff
  rw [variableText?_eq_some_iff, hempty]
  constructor
  · rintro ⟨hkey, hnumeral⟩
    obtain ⟨hne, hvalue⟩ := (isNumeral_iff hdigits).1 hnumeral
    exact ⟨⟨hkey, hne, rfl⟩, hvalue⟩
  · rintro ⟨⟨hkey, hne, -⟩, hvalue⟩
    exact ⟨hkey, (isNumeral_iff hdigits).2 ⟨hne, hvalue⟩⟩

theorem Assigns.unique {name name' : String} {n n' : Nat} {e : String × String}
    (h : Assigns name n e) (h' : Assigns name' n' e) : name = name' ∧ n = n' := by
  obtain ⟨htext, hvalue⟩ := assigns_iff.1 h
  obtain ⟨htext', hvalue'⟩ := assigns_iff.1 h'
  exact ⟨(Prod.mk.inj (Option.some.inj (htext.symm.trans htext'))).1, hvalue.symm.trans hvalue'⟩

end Fields

theorem Amount.ofDigits?_digitsOf_eq_some_iff {raw : String} {a : Amount} (h : digitsOf raw ≠ "") :
    ofDigits? (digitsOf raw) = some a ↔
      Text.decimalValue (raw.toList.filter Char.isDigit) = a.toNat := by
  have hne : ¬(digitsOf raw).toList.isEmpty = true := fun hnil =>
    h (String.toList_eq_nil_iff.1 (List.isEmpty_iff.1 hnil))
  rw [ofDigits?, if_neg hne, ofNat?_eq_some_iff, digitsOf, String.toList_ofList]

/-- What is read off an entry is what it sets. -/
theorem variableValue?_eq_some_iff {e : String × String} {name : String} {a : Amount} :
    variableValue? e = some (name, a) ↔ Fields.Sets name a.toNat e := by
  rw [variableValue?, Option.bind_eq_some_iff, Fields.Sets, and_iff_left a.toNat_lt,
    Fields.assigns_iff]
  constructor
  · rintro ⟨⟨name', digits⟩, htext, hvalue⟩
    obtain ⟨-, hne, rfl⟩ := variableText?_eq_some_iff.1 htext
    obtain ⟨a', ha', heq⟩ := Option.map_eq_some_iff.1 hvalue
    obtain ⟨rfl, rfl⟩ := Prod.mk.inj heq
    exact ⟨htext, (Amount.ofDigits?_digitsOf_eq_some_iff hne).1 ha'⟩
  · rintro ⟨htext, hvalue⟩
    obtain ⟨-, hne, -⟩ := variableText?_eq_some_iff.1 htext
    exact ⟨_, htext, Option.map_eq_some_iff.2
      ⟨a, (Amount.ofDigits?_digitsOf_eq_some_iff hne).2 hvalue, rfl⟩⟩

namespace Fields

/-- An entry sets a variable just if it is read as one. -/
theorem sets_iff {name : String} {n : Nat} {e : String × String} :
    Sets name n e ↔ ∃ a : Amount, variableValue? e = some (name, a) ∧ a.toNat = n := by
  constructor
  · intro h
    obtain ⟨a, ha⟩ : ∃ a : Amount, a.toNat = n := ⟨.ofNat n, UInt64.toNat_ofNat_of_lt' h.2⟩
    exact ⟨a, variableValue?_eq_some_iff.2 (ha ▸ h), ha⟩
  · rintro ⟨a, ha, rfl⟩
    exact variableValue?_eq_some_iff.1 ha

theorem not_assigns_of_digitsOf_eq_empty {e : String × String} (h : digitsOf e.2 = "")
    (name : String) (n : Nat) : ¬Assigns name n e := fun hassigns =>
  (variableText?_eq_some_iff.1 (assigns_iff.1 hassigns).1).2.1 h

/-- An entry that assigns a number beyond the amounts is oversized, and no other is. -/
theorem isOversized_iff {e : String × String} {name : String} :
    IsOversized e ∧ variableName e = name ↔ ∃ n, Assigns name n e ∧ 2 ^ 64 ≤ n := by
  have hdrop : ∀ rest, ("var_".toList ++ rest).drop 4 = rest := fun rest => List.drop_left' rfl
  constructor
  · rintro ⟨⟨⟨rest, hkey⟩, hle⟩, rfl⟩
    have hdigits : digitsOf e.2 ≠ "" := fun hempty => by
      rw [String.ofList_eq_empty_iff.1 hempty] at hle
      exact absurd hle (by decide)
    have hname : (variableName e).toList = rest := by
      rw [variableName, ← hkey, hdrop, String.toList_ofList]
    refine ⟨_, assigns_iff.2 ⟨variableText?_eq_some_iff.2 ⟨?_, hdigits, rfl⟩, rfl⟩, hle⟩
    rw [← String.toList_inj, String.toList_append, hname, hkey]
  · rintro ⟨n, hassigns, hle⟩
    have hkey : "var_".toList ++ name.toList = e.1.toList := by
      rw [hassigns.key, String.toList_append]
    refine ⟨⟨⟨_, hkey⟩, (assigns_iff.1 hassigns).2 ▸ hle⟩, ?_⟩
    rw [variableName, ← hkey, hdrop, String.ofList_toList]

/-! ## All entries -/

/-- A variable is set by an entry, and by no entry after it. -/
theorem get?_formulaVariables_eq_some_iff {f : Fields} {name : String} {n : Nat} :
    (f.formulaVariables.get? name).map UInt64.toNat = some n ↔
      ∃ before e after, f.entries = before ++ e :: after ∧ Sets name n e ∧
        ∀ e' ∈ after, ∀ n', ¬Sets name n' e' := by
  have hnone : ∀ e, (∀ a, variableValue? e ≠ some (name, a)) ↔ ∀ n', ¬Sets name n' e := fun e => by
    simp only [sets_iff, not_exists, not_and, ne_eq]
    exact ⟨fun h n' a ha => absurd ha (h a), fun h a ha => h a.toNat a ha rfl⟩
  simp only [Option.map_eq_some_iff, formulaVariables, TextMap.get?_gather_eq_some_iff, hnone]
  constructor
  · rintro ⟨a, ⟨before, e, after, hf, he, hafter⟩, hn⟩
    exact ⟨before, e, after, hf, sets_iff.2 ⟨a, he, hn⟩, hafter⟩
  · rintro ⟨before, e, after, hf, he, hafter⟩
    obtain ⟨a, ha, hn⟩ := sets_iff.1 he
    exact ⟨a, ⟨before, e, after, hf, ha, hafter⟩, hn⟩

/-- The second entry sets nothing, and takes nothing away. -/
example :
    let f : Fields := ⟨[("var_x", "Rp 01.500"), ("var_x", "18446744073709551616")]⟩
    f.formulaVariables.get? "x" = some 1500 := by decide +kernel

/-- An entry may be taken away if its variable is set after it, or if it sets none. -/
theorem formulaVariables_erase {before after : List (String × String)} {e : String × String}
    (h : ∀ name n, Sets name n e → ∃ e' ∈ after, ∃ n', Sets name n' e') :
    formulaVariables ⟨before ++ e :: after⟩ = formulaVariables ⟨before ++ after⟩ := by
  refine TextMap.gather_erase fun name a ha => ?_
  obtain ⟨e', hmem, n', he'⟩ := h name a.toNat (sets_iff.2 ⟨a, ha, rfl⟩)
  obtain ⟨a', ha', -⟩ := sets_iff.1 he'
  exact ⟨e', hmem, a', ha'⟩

/-- There are no variables just if no entry sets one. -/
theorem formulaVariables_eq_empty_iff {f : Fields} :
    f.formulaVariables = .empty ↔ ∀ e ∈ f.entries, ∀ name n, ¬Sets name n e := by
  rw [formulaVariables, TextMap.gather_eq_empty_iff]
  refine forall₂_congr fun e _ => ?_
  rw [Option.eq_none_iff_forall_ne_some]
  constructor
  · intro h name n hsets
    obtain ⟨a, ha, -⟩ := sets_iff.1 hsets
    exact h (name, a) ha
  · intro h ⟨name, a⟩ ha
    exact h name a.toNat (sets_iff.2 ⟨a, ha, rfl⟩)

end Fields

theorem Draft.formulaVariables_ofFields_eq_none_iff {f : Fields} :
    (ofFields f).formulaVariables = none ↔ f.formulaVariables = .empty := by
  simp [ofFields, TextMap.size_eq_zero_iff]

theorem Draft.formulaVariables_ofFields_eq_some_iff {f : Fields} {vs : TextMap Amount} :
    (ofFields f).formulaVariables = some vs ↔ f.formulaVariables = vs ∧ vs ≠ .empty := by
  simp only [ofFields, TextMap.size_eq_zero_iff, Option.ite_none_left_eq_some, Option.some_inj]
  exact and_comm.trans (and_congr_right fun h => by rw [h])

/-! ## Warnings -/

namespace Submission

/-- The warnings among what happens. -/
def warnings (effects : List Effect) : List Notice :=
  effects.filterMap fun
    | .log notice => if notice.level = .warn then some notice else none
    | _ => none

theorem warnings_append (xs ys : List Effect) : warnings (xs ++ ys) = warnings xs ++ warnings ys :=
  List.filterMap_append

theorem warnings_redrawn (s : Surroundings) (b : Bool) : warnings (s.redrawn b) = [] :=
  filterMap_redrawn (fun _ => rfl) s b

theorem warnings_opening (s : Surroundings) : warnings (opening s) = [] :=
  filterMap_opening (fun _ => rfl) rfl s

/-- Each variable that is too large is warned about, in the order of the entries. -/
theorem warnings_sending (s : Surroundings) (fields : Fields) :
    warnings (sending s fields) = (fields.entries.filter Fields.IsOversized).map fun e =>
      .skippedVariable (Fields.variableName e) := by
  rw [warnings, filterMap_sending, ← List.filterMap_eq_map]
  exact List.append_nil _

/-- **Oversized variables are all that a submit warns about.** -/
theorem Trace.warnings_eq {s : Surroundings} {marked : Bool} {source : Except String Fields}
    {answer : NetworkAnswer} {effects : List Effect} {outcome : Outcome}
    (h : Trace s marked source answer effects outcome) :
    warnings effects =
      if marked then [] else
        source.toOption.toList.flatMap fun fields =>
          (fields.entries.filter Fields.IsOversized).map fun e =>
            .skippedVariable (Fields.variableName e) := by
  cases h with
  | ignored => rfl
  | _ =>
    simp only [warnings_append, warnings_opening, warnings_sending, warnings_redrawn]
    simp [warnings, alarm, Notice.level, Except.toOption]

end Submission

namespace Fields

/-- What is promised of the variables of a form. -/
structure VariablesExact (f : Fields) : Prop where
  /-- The number of a variable is the one that the last entry gives it that sets it. -/
  lastCounts : ∀ name n, (f.formulaVariables.get? name).map UInt64.toNat = some n ↔
    ∃ before e after, f.entries = before ++ e :: after ∧ Sets name n e ∧
      ∀ e' ∈ after, ∀ n', ¬Sets name n' e'
  /-- An entry without digits leaves all variables as they are. -/
  digitless : ∀ before e after, f.entries = before ++ e :: after →
    (∀ c ∈ e.2.toList, c.isDigit = false) →
    f.formulaVariables = formulaVariables ⟨before ++ after⟩
  /-- So does an entry with a number that is no amount. -/
  oversized : ∀ before e after, f.entries = before ++ e :: after → IsOversized e →
    f.formulaVariables = formulaVariables ⟨before ++ after⟩
  /-- In a submit of the form, there is one warning for each entry that assigns such a number, in
  the order of the entries, and no other warning. -/
  warnings : ∀ (s : Session) (a : Address) (id : FormId), s.records.WellFormed →
    s.formAt? a = some id → ∀ name watched answer,
    Submission.warnings (s.step (.submit name a (.ok f) watched (some answer))).effects =
      if s.marked id then [] else
        (f.entries.filter IsOversized).map fun e => .skippedVariable (variableName e)
  assigned : ∀ e ∈ f.entries, ∀ name, IsOversized e ∧ variableName e = name ↔
    ∃ n, Assigns name n e ∧ 2 ^ 64 ≤ n
  /-- The draft has no variables just if no entry sets one. -/
  noVariables : (Draft.ofFields f).formulaVariables = none ↔
    ∀ e ∈ f.entries, ∀ name n, ¬Sets name n e
  /-- Otherwise it has those of the form, of which there is one at least. -/
  someVariables : ∀ vs, (Draft.ofFields f).formulaVariables = some vs →
    vs = f.formulaVariables ∧ vs ≠ .empty

/-- **The variables of every form are exact.** -/
theorem formulaVariables_exact (f : Fields) : f.VariablesExact where
  lastCounts name n := get?_formulaVariables_eq_some_iff
  digitless before e after hf h := by
    obtain rfl := eq_of_entries_eq hf
    have hdigits : digitsOf e.2 = "" := by
      rw [digitsOf, String.ofList_eq_empty_iff, List.filter_eq_nil_iff]
      exact fun c hc => by simp [h c hc]
    exact formulaVariables_erase fun name n hsets =>
      absurd hsets.1 (not_assigns_of_digitsOf_eq_empty hdigits name n)
  oversized before e after hf h := by
    obtain rfl := eq_of_entries_eq hf
    obtain ⟨m, hassigns, hle⟩ := isOversized_iff.1 ⟨h, rfl⟩
    refine formulaVariables_erase fun name n hsets => absurd hsets.2 (Nat.not_lt_of_le ?_)
    rwa [(hsets.1.unique hassigns).2]
  warnings s a id hs hid name watched answer := by
    obtain ⟨effects, outcome, htrace, hstep⟩ :=
      Session.submit_trace hs hid name (.ok f) watched answer
    rw [hstep]
    simpa [Except.toOption] using htrace.warnings_eq
  assigned e _ name := isOversized_iff
  noVariables := Draft.formulaVariables_ofFields_eq_none_iff.trans formulaVariables_eq_empty_iff
  someVariables vs h := by
    obtain ⟨rfl, hne⟩ := Draft.formulaVariables_ofFields_eq_some_iff.1 h
    exact ⟨rfl, hne⟩

end Fields
end AccountingPage
