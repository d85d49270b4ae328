import AccountingPage.Proofs.FormEntries
import AccountingPage.Proofs.LeadingInteger

/-!
# Where amounts come from

An amount is typed into a form, or taken from the attribute of the element that a form is bound to,
or sent with a form's entries.  What is typed is read into 64 bits.  The other two are read as
leading integers, so the last of these bits is not theirs.

* `Amount.leading_eq_parse_iff` compares both ways of reading on a run of digits.
* `AmountsOf` is what becomes of a run of digits in each of the three places, and
  `exists_amountsOf` proves it of every run.
-/

set_option autoImplicit false

namespace AccountingPage

/-! ## A run of digits -/

namespace Amount

variable {d : String} {n : Nat}

theorem toNat_parse_numeral (h : ∀ c ∈ d.toList, c.isDigit = true) (hn : IsNumeral n d.toList) :
    (parse d).toNat = if n < 2 ^ 64 then n else 0 := by
  rw [← List.filter_eq_self.2 h] at hn
  exact toNat_parse_of_isNumeral hn

theorem toNat_leading_numeral (h : ∀ c ∈ d.toList, c.isDigit = true) (hn : IsNumeral n d.toList) :
    (leading d).toNat = if n < 2 ^ 63 then n else 0 := by
  obtain ⟨hne, rfl⟩ := (isNumeral_iff h).1 hn
  rw [(fallsInto_digits (List.append_nil _).symm hne h nofun).toNat_leading]
  simp only [reduceCtorEq, false_or, ← Nat.not_lt, ite_not]

/-- **Both ways of reading digits agree, except on numbers that take all 64 bits.** -/
theorem leading_eq_parse_iff (h : ∀ c ∈ d.toList, c.isDigit = true) (hn : IsNumeral n d.toList) :
    leading d = parse d ↔ n < 2 ^ 63 ∨ 2 ^ 64 ≤ n := by
  rw [← UInt64.toNat_inj, toNat_leading_numeral h hn, toNat_parse_numeral h hn]
  split <;> split <;> omega

end Amount

/-! ## From digits to amounts -/

/-- What becomes of a run of digits that spells the number `n`. -/
structure AmountsOf (d : String) (n : Nat) : Prop where
  numeral : ∀ m, IsNumeral m d.toList ↔ m = n
  typed : ∀ f : TransactionForm,
    (f.updateAmount d).form.amount.toNat = if n < 2 ^ 64 then n else 0
  typedQuick : ∀ f : QuickForm, (f.enterAmount d).amount.toNat = if n < 2 ^ 64 then n else 0
  mounted : ∀ e : Element, e.data? "amount" = some d →
    (TransactionForm.ofElement e).amount.toNat = if n < 2 ^ 63 then n else 0
  /-- The amount that the server reads in the request. -/
  sent : ∀ (fields : Fields) (p : Page) (c : Config), fields.get? "amount" = some d →
    ∃ draft, (Request.ofFields fields p c).draft? = some draft ∧
      draft.amount.toNat = if n < 2 ^ 63 then n else 0
  /-- What is typed is the same as what is mounted, or sent, if it is a number below `2 ^ 63`, or
  one that is too large in any case. -/
  agree : ∀ (f : TransactionForm) (e : Element) (fields : Fields), e.data? "amount" = some d →
    fields.get? "amount" = some d →
    (TransactionForm.ofElement e).amount = (Draft.ofFields fields).amount ∧
      ((TransactionForm.ofElement e).amount = (f.updateAmount d).form.amount ↔
        n < 2 ^ 63 ∨ 2 ^ 64 ≤ n)

theorem amount_ofElement {e : Element} {d : String} (h : e.data? "amount" = some d) :
    (TransactionForm.ofElement e).amount = .leading d := by
  rw [TransactionForm.ofElement, h]
  rfl

theorem amount_ofFields {f : Fields} {d : String} (h : f.get? "amount" = some d) :
    (Draft.ofFields f).amount = .leading d := by
  rw [Draft.ofFields, h]
  rfl

theorem amountsOf_numeral {d : String} {n : Nat} (hdigits : ∀ c ∈ d.toList, c.isDigit = true)
    (hn : IsNumeral n d.toList) : AmountsOf d n where
  numeral m := by
    obtain ⟨hne, rfl⟩ := (isNumeral_iff hdigits).1 hn
    rw [isNumeral_iff hdigits, and_iff_right hne, eq_comm]
  typed f := by rw [f.amount_updateAmount, Amount.toNat_parse_numeral hdigits hn]
  typedQuick f := by rw [QuickForm.enterAmount, Amount.toNat_parse_numeral hdigits hn]
  mounted e he := by rw [amount_ofElement he, Amount.toNat_leading_numeral hdigits hn]
  sent fields p c hf := by
    refine ⟨_, Request.draft?_ofFields .., ?_⟩
    rw [amount_ofFields hf, Amount.toNat_leading_numeral hdigits hn]
  agree f e fields he hf := by
    rw [amount_ofElement he, amount_ofFields hf, f.amount_updateAmount]
    exact ⟨rfl, Amount.leading_eq_parse_iff hdigits hn⟩

/-- **Every run of digits is one amount when it is typed, and one when it is mounted or sent.**  The
two differ just for the numbers that take the last of 64 bits. -/
theorem exists_amountsOf {d : String} (hne : d ≠ "") (hdigits : ∀ c ∈ d.toList, c.isDigit = true) :
    ∃ n, AmountsOf d n := by
  have hne' : d.toList ≠ [] := fun h => hne (String.toList_eq_nil_iff.1 h)
  exact ⟨_, amountsOf_numeral hdigits ((isNumeral_iff hdigits).2 ⟨hne', rfl⟩)⟩

theorem exists_amountsOf_greatest :
    "18446744073709551615" ≠ "" ∧ (∀ c ∈ "18446744073709551615".toList, c.isDigit = true) ∧
      ∃ n, AmountsOf "18446744073709551615" n := by
  have hne : "18446744073709551615" ≠ "" := by simp
  have hdigits : ∀ c ∈ "18446744073709551615".toList, c.isDigit = true := by simp
  exact ⟨hne, hdigits, exists_amountsOf hne hdigits⟩

/-- The number `2 ^ 63` can be typed, but neither mounted nor sent. -/
theorem amounts_differ_beyond_leading :
    let d := "9223372036854775808"
    d ≠ "" ∧ (∀ c ∈ d.toList, c.isDigit = true) ∧ Text.decimalValue d.toList = 2 ^ 63 ∧
      (TransactionForm.updateAmount default d).form.amount.toNat = 2 ^ 63 ∧
      (TransactionForm.ofElement ⟨.ofList [("amount", d)], none⟩).amount = 0 ∧
      (Draft.ofFields ⟨[("amount", d)]⟩).amount = 0 := by
  intro d
  have hne : d ≠ "" := by simp [d]
  have hdigits : ∀ c ∈ d.toList, c.isDigit = true := by simp [d]
  have hvalue : Text.decimalValue d.toList = 2 ^ 63 := by
    simp [d, Text.decimalValue, Nat.ofDigitChars]
  have hn : IsNumeral (2 ^ 63) d.toList :=
    (isNumeral_iff hdigits).2 ⟨fun h => hne (String.toList_eq_nil_iff.1 h), hvalue⟩
  have htyped : (Amount.parse d).toNat = 2 ^ 63 := Amount.toNat_parse_numeral hdigits hn
  have hleading : Amount.leading d = 0 :=
    UInt64.toNat_inj.1 (Amount.toNat_leading_numeral hdigits hn)
  refine ⟨hne, hdigits, hvalue, ?_, ?_, ?_⟩
  · rw [TransactionForm.amount_updateAmount, htyped]
  · rw [amount_ofElement (rfl : Element.data? _ "amount" = some d), hleading]
  · rw [amount_ofFields (rfl : Fields.get? _ "amount" = some d), hleading]

end AccountingPage
