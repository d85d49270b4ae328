import Mathlib.Algebra.Ring.Nat
import AccountingPage.Text.Numeral

/-!
# Numbers and their digits

A number has one text without a needless zero in front.  `Nat.toDigits` writes it, and
`Text.decimalValue` reads it and every other run of digits.

* `head?_toDigits_ne` says that only zero is written with a zero in front.
* `toDigits_decimalValue` says that digits without a zero in front are those of their value;
  `isNumeral_iff` is about the digits with zeros in front.
* `decimalValue_append` and `decimalValue_lt` are about the places that a run of digits takes.
-/

set_option autoImplicit false

namespace AccountingPage

theorem ne_of_isDigit {c d : Char} (hc : c.isDigit = true) (hd : d.isDigit = false) : c ≠ d :=
  fun h => absurd (hc.symm.trans (h ▸ hd)) (by simp)

theorem isDigit_of_mem_toDigits {n : Nat} {c : Char} (hc : c ∈ Nat.toDigits 10 n) :
    c.isDigit = true :=
  Nat.isDigit_of_mem_toDigits (by decide) (by decide) hc

/-- A number starts with a zero only if it is zero. -/
theorem head?_toDigits_ne {n : Nat} (hn : 0 < n) : (Nat.toDigits 10 n).head? ≠ some '0' := by
  induction n using Nat.strongRecOn with
  | ind n ih =>
    by_cases hlt : n < 10
    · have hdigit : ∀ m < 10, 0 < m → Nat.digitChar m ≠ '0' := by decide
      rw [Nat.toDigits_of_lt_base hlt]
      simpa using hdigit n hlt hn
    · have hle : 10 ≤ n := Nat.le_of_not_lt hlt
      have hhead := ih (n / 10) (Nat.div_lt_self hn (by decide)) (Nat.div_pos hle (by decide))
      rw [Nat.toDigits_of_base_le (by decide) hle, List.head?_append]
      cases h : (Nat.toDigits 10 (n / 10)).head? with
      | none => exact absurd (List.head?_eq_none_iff.1 h) Nat.toDigits_ne_nil
      | some c => simpa [h] using hhead

/-! ## From the digits to the number and back

Read from the left, the digits so far are those of a number that is not zero, once the first digit
is not.  So the next digit stands behind them. -/

/-- The digit of a digit's value is the digit. -/
theorem exists_digitChar {c : Char} (h : c.isDigit = true) :
    ∃ d < 10, c.toNat - '0'.toNat = d ∧ Nat.digitChar d = c := by
  have hc : 48 ≤ c.toNat ∧ c.toNat ≤ 57 := by
    simpa [Char.isDigit, UInt32.le_iff_toNat_le] using h
  have hlt : c.toNat - 48 < 10 := by omega
  refine ⟨c.toNat - 48, hlt, rfl, Char.toNat_inj.1 ?_⟩
  rw [Nat.toNat_digitChar_of_lt_ten hlt]
  omega

theorem toDigits_append {m : Nat} (hm : 0 < m) {digits : List Char}
    (hdigits : ∀ c ∈ digits, c.isDigit = true) :
    Nat.toDigits 10 m ++ digits = Nat.toDigits 10 (Nat.ofDigitChars 10 digits m) := by
  induction digits generalizing m with
  | nil => rw [List.append_nil, Nat.ofDigitChars_nil]
  | cons c digits ih =>
    obtain ⟨hc, htail⟩ := List.forall_mem_cons.1 hdigits
    obtain ⟨d, hd, hvalue, rfl⟩ := exists_digitChar hc
    have hnext : Nat.toDigits 10 m ++ [Nat.digitChar d] = Nat.toDigits 10 (10 * m + d) := by
      rw [← Nat.toDigits_append_toDigits (by decide) hm hd, Nat.toDigits_of_lt_base hd]
    rw [Nat.ofDigitChars_cons, hvalue, ← ih (by omega) htail, ← hnext, List.append_assoc,
      List.singleton_append]

/-- **Digits without a zero in front are those of their value.** -/
theorem toDigits_decimalValue {digits : List Char} (hne : digits ≠ [])
    (hdigits : ∀ c ∈ digits, c.isDigit = true) (hzero : digits.head? ≠ some '0') :
    Nat.toDigits 10 (Text.decimalValue digits) = digits := by
  cases digits with
  | nil => exact absurd rfl hne
  | cons c digits =>
    obtain ⟨hc, htail⟩ := List.forall_mem_cons.1 hdigits
    obtain ⟨d, hd, hvalue, rfl⟩ := exists_digitChar hc
    have hpos : 0 < d := Nat.pos_of_ne_zero fun h => hzero (by rw [h]; rfl)
    rw [Text.decimalValue, Nat.ofDigitChars_cons, hvalue, Nat.mul_zero, Nat.zero_add,
      ← toDigits_append hpos htail, Nat.toDigits_of_lt_base hd, List.singleton_append]

theorem decimalValue_toDigits (n : Nat) : Text.decimalValue (Nat.toDigits 10 n) = n :=
  Nat.ofDigitChars_ten_toDigits

theorem decimalValue_append (xs ys : List Char) :
    Text.decimalValue (xs ++ ys) =
      10 ^ ys.length * Text.decimalValue xs + Text.decimalValue ys := by
  rw [Text.decimalValue, Nat.ofDigitChars_append, Nat.ofDigitChars_eq_ofDigitChars_zero]
  rfl

theorem decimalValue_lt {digits : List Char} (h : ∀ c ∈ digits, c.isDigit = true) :
    Text.decimalValue digits < 10 ^ digits.length := by
  induction digits with
  | nil => exact Nat.one_pos
  | cons c digits ih =>
    obtain ⟨hc, hdigits⟩ := List.forall_mem_cons.1 h
    obtain ⟨d, hd, hvalue, -⟩ := exists_digitChar hc
    have hone : Text.decimalValue [c] = d := by
      rw [Text.decimalValue, Nat.ofDigitChars_cons, Nat.ofDigitChars_nil, hvalue]
      omega
    have hlt := ih hdigits
    rw [← List.singleton_append, decimalValue_append, hone, List.length_append,
      List.length_singleton, Nat.pow_add]
    calc 10 ^ digits.length * d + Text.decimalValue digits
        < 10 ^ digits.length * d + 10 ^ digits.length := Nat.add_lt_add_left hlt _
      _ = 10 ^ digits.length * (d + 1) := (Nat.mul_succ ..).symm
      _ ≤ 10 ^ digits.length * 10 := Nat.mul_le_mul_left _ hd
      _ = 10 ^ 1 * 10 ^ digits.length := Nat.mul_comm ..

/-- The digits are those of the number, with any zeros in front. -/
def IsNumeral (n : Nat) (digits : List Char) : Prop :=
  ∃ zeros, digits = List.replicate zeros '0' ++ Nat.toDigits 10 n

/-- Every run of digits spells one number, its value. -/
theorem isNumeral_iff {n : Nat} {digits : List Char} (hdigits : ∀ c ∈ digits, c.isDigit = true) :
    IsNumeral n digits ↔ digits ≠ [] ∧ Text.decimalValue digits = n := by
  have hzero : ∀ ds, Text.decimalValue ('0' :: ds) = Text.decimalValue ds := fun ds =>
    Nat.ofDigitChars_cons
  constructor
  · rintro ⟨zeros, rfl⟩
    refine ⟨fun h => Nat.toDigits_ne_nil (List.append_eq_nil_iff.1 h).2, ?_⟩
    clear hdigits
    induction zeros with
    | zero => exact decimalValue_toDigits n
    | succ zeros ih => rw [List.replicate_succ, List.cons_append, hzero, ih]
  · rintro ⟨hne, rfl⟩
    induction digits with
    | nil => exact absurd rfl hne
    | cons c digits ih =>
      by_cases hc : c = '0'
      · subst hc
        cases digits with
        | nil => exact ⟨0, rfl⟩
        | cons d digits =>
          obtain ⟨zeros, h⟩ := ih (List.forall_mem_cons.1 hdigits).2 (List.cons_ne_nil d digits)
          refine ⟨zeros + 1, ?_⟩
          rw [hzero, List.replicate_succ, List.cons_append, ← h]
      · exact ⟨0, (toDigits_decimalValue hne hdigits (by simpa using hc)).symm⟩

theorem decimalValue_pos {digits : List Char} (hne : digits ≠ [])
    (hdigits : ∀ c ∈ digits, c.isDigit = true) (hzero : digits.head? ≠ some '0') :
    0 < Text.decimalValue digits := by
  refine Nat.pos_of_ne_zero fun h => hzero ?_
  rw [← toDigits_decimalValue hne hdigits hzero, h]
  rfl

end AccountingPage
