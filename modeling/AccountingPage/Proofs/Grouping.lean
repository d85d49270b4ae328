import Mathlib.Algebra.Ring.Nat
import AccountingPage.Amount
import AccountingPage.Proofs.Numeral

/-!
# Groups of thousands

The points of a grouped number are counted from the right, but they are put in from the left, by
the number of bytes that are left.  Here both ways of looking at it are brought together.

* `Grouping` is a run of digits in groups: one to three digits, and then three at a time.
  `Grouping.digits` are its digits, `Grouping.text` shows it with its points.
* `toList_groupThousands` says what `groupThousands` does with any text, and
  `groupThousands_digits` that it shows the digits of a grouping as that grouping.
  `digitsOf_groupThousands` takes the points out again.
* `Amount.format_exact` says that amounts and the texts that show them correspond one to one.
-/

set_option autoImplicit false

namespace AccountingPage

/-- Digits in groups, from the left. -/
structure Grouping where
  first : List Char
  others : List (List Char)
  first_ne_nil : first ≠ []
  length_first : first.length ≤ 3
  length_others : ∀ group ∈ others, group.length = 3
  isDigit : ∀ c ∈ first ++ others.flatten, c.isDigit = true

namespace Grouping

/-- The digits without the points. -/
def digits (g : Grouping) : List Char := g.first ++ g.others.flatten

/-- The groups with a point before each but the first. -/
def text (g : Grouping) : String := String.ofList (g.first ++ g.others.flatMap ('.' :: ·))

/-- The number that is spelled. -/
def value (g : Grouping) : Nat := Text.decimalValue g.digits

/-- It has no zero in front. -/
def Plain (g : Grouping) : Prop := g.first.head? ≠ some '0'

theorem digits_ne_nil (g : Grouping) : g.digits ≠ [] :=
  List.append_ne_nil_of_left_ne_nil g.first_ne_nil _

theorem isDigit_of_mem_digits (g : Grouping) : ∀ c ∈ g.digits, c.isDigit = true := g.isDigit

theorem head?_digits (g : Grouping) : g.digits.head? = g.first.head? := by
  rw [digits, List.head?_append]
  cases h : g.first with
  | nil => exact absurd h g.first_ne_nil
  | cons c cs => rfl

theorem length_flatten {groups : List (List Char)} (h : ∀ group ∈ groups, group.length = 3) :
    groups.flatten.length = 3 * groups.length := by
  induction groups with
  | nil => rfl
  | cons group groups ih =>
    obtain ⟨hgroup, hgroups⟩ := List.forall_mem_cons.1 h
    rw [List.flatten_cons, List.length_append, hgroup, ih hgroups, List.length_cons]
    omega

/-! ## Every run of digits is one -/

/-- A list whose length is a multiple of three falls into groups of three. -/
theorem exists_flatten {n : Nat} {cs : List Char} (h : cs.length = 3 * n) :
    ∃ groups : List (List Char), (∀ group ∈ groups, group.length = 3) ∧ groups.flatten = cs := by
  induction n generalizing cs with
  | zero => exact ⟨[], nofun, (List.length_eq_zero_iff.1 h).symm⟩
  | succ n ih =>
    have htake : (cs.take 3).length = 3 := by
      rw [List.length_take]
      omega
    have hdrop : (cs.drop 3).length = 3 * n := by
      rw [List.length_drop]
      omega
    obtain ⟨groups, hgroups, hflatten⟩ := ih hdrop
    refine ⟨cs.take 3 :: groups, List.forall_mem_cons.2 ⟨htake, hgroups⟩, ?_⟩
    rw [List.flatten_cons, hflatten, List.take_append_drop]

/-- The first group takes what is left of the others. -/
theorem exists_digits_eq {cs : List Char} (hne : cs ≠ []) (hdigit : ∀ c ∈ cs, c.isDigit = true) :
    ∃ g : Grouping, g.digits = cs := by
  have hpos : 0 < cs.length := List.length_pos_iff.2 hne
  have hlength : ((cs.length - 1) % 3 + 1) + 3 * ((cs.length - 1) / 3) = cs.length := by omega
  generalize hn : (cs.length - 1) % 3 + 1 = n at hlength
  have hdrop : (cs.drop n).length = 3 * ((cs.length - 1) / 3) := by
    rw [List.length_drop]
    omega
  obtain ⟨groups, hgroups, hflatten⟩ := exists_flatten hdrop
  have hcs : cs.take n ++ groups.flatten = cs := by rw [hflatten, List.take_append_drop]
  refine ⟨⟨cs.take n, groups, ?_, ?_, hgroups, by rwa [hcs]⟩, hcs⟩
  · rw [Ne, List.take_eq_nil_iff]
    rintro (h | h)
    · omega
    · exact hne h
  · rw [List.length_take]
    omega

end Grouping

/-! ## Points from the left -/

/-- Puts in the points, by how many bytes are left. -/
def pointed : Nat → List Char → List Char
  | _, [] => []
  | left, c :: cs => (if left % 3 = 0 then ['.', c] else [c]) ++ pointed (left - 1) cs

/-- The loop puts a point in front of every third digit, counted from the right. -/
theorem flatMap_zipIdx_eq_pointed (bytes : Nat) (cs : List Char) {i : Nat} (hi : 0 < i) :
    ((cs.zipIdx i).flatMap fun (c, i) =>
      if 0 < i ∧ (bytes - i) % 3 = 0 then ['.', c] else [c]) = pointed (bytes - i) cs := by
  induction cs generalizing i with
  | nil => rfl
  | cons c cs ih =>
    rw [List.zipIdx_cons, List.flatMap_cons, ih (Nat.succ_pos i), pointed, Nat.sub_succ']
    simp only [hi, true_and]

/-- The first character has no point before it. -/
theorem toList_groupThousands (s : String) :
    (groupThousands s).toList =
      s.toList.take 1 ++ pointed (s.utf8ByteSize - 1) (s.toList.drop 1) := by
  rw [groupThousands, String.toList_ofList]
  cases s.toList with
  | nil => rfl
  | cons c cs =>
    rw [List.zipIdx_cons, List.flatMap_cons, flatMap_zipIdx_eq_pointed _ _ (Nat.succ_pos 0)]
    simp

/-- Within the first group there is no point. -/
theorem pointed_first {cs : List Char} (h : cs.length < 3) (n : Nat) (rest : List Char) :
    pointed (cs.length + 3 * n) (cs ++ rest) = cs ++ pointed (3 * n) rest := by
  induction cs with
  | nil => rw [List.length_nil, Nat.zero_add, List.nil_append, List.nil_append]
  | cons c cs ih =>
    have hlength : cs.length + 1 < 3 := h
    have hleft : (c :: cs).length + 3 * n - 1 = cs.length + 3 * n := by
      rw [List.length_cons]
      omega
    have hmod : ¬((c :: cs).length + 3 * n) % 3 = 0 := by
      rw [List.length_cons]
      omega
    rw [List.cons_append, pointed, if_neg hmod, hleft, ih (by omega)]
    rfl

/-- Each of the other groups has one point, before it. -/
theorem pointed_others {groups : List (List Char)} (h : ∀ group ∈ groups, group.length = 3) :
    pointed (3 * groups.length) groups.flatten = groups.flatMap ('.' :: ·) := by
  induction groups with
  | nil => rfl
  | cons group groups ih =>
    obtain ⟨hgroup, hgroups⟩ := List.forall_mem_cons.1 h
    cases group with
    | nil => exact absurd hgroup (by simp)
    | cons c cs =>
      have hcs : cs.length = 2 := Nat.succ.inj hgroup
      have hleft : 3 * ((c :: cs) :: groups).length - 1 = cs.length + 3 * groups.length := by
        rw [hcs, List.length_cons]
        omega
      have hmod : 3 * ((c :: cs) :: groups).length % 3 = 0 := Nat.mul_mod_right ..
      rw [List.flatten_cons, List.cons_append, pointed, if_pos hmod, hleft,
        pointed_first (by omega), ih hgroups]
      rfl

/-! ## Grouped digits -/

theorem utf8ByteSize_ofList_digits {cs : List Char} (h : ∀ c ∈ cs, c.isDigit = true) :
    (String.ofList cs).utf8ByteSize = cs.length := by
  induction cs with
  | nil => rfl
  | cons c cs ih =>
    obtain ⟨hc, hcs⟩ := List.forall_mem_cons.1 h
    have hsize : c.utf8Size = 1 := by
      rw [Char.utf8Size_eq_one_iff]
      have hle : c.toNat ≤ 57 := by
        simp [Char.isDigit, UInt32.le_iff_toNat_le] at hc
        exact hc.2
      exact UInt32.le_iff_toNat_le.2 (Nat.le_trans hle (by decide))
    rw [String.ofList_cons, String.utf8ByteSize_append, String.utf8ByteSize_singleton, hsize,
      ih hcs, List.length_cons, Nat.add_comm]

/-- **Points from the left are points from the right.** -/
theorem groupThousands_digits (g : Grouping) : groupThousands (String.ofList g.digits) = g.text := by
  have hbytes : (String.ofList g.digits).utf8ByteSize = g.first.length + 3 * g.others.length := by
    rw [utf8ByteSize_ofList_digits g.isDigit_of_mem_digits, Grouping.digits, List.length_append,
      Grouping.length_flatten g.length_others]
  apply String.toList_inj.1
  rw [toList_groupThousands, hbytes, String.toList_ofList, Grouping.text, String.toList_ofList,
    Grouping.digits]
  have hlength := g.length_first
  cases hfirst : g.first with
  | nil => exact absurd hfirst g.first_ne_nil
  | cons c cs =>
    rw [hfirst] at hlength
    have hleft : (c :: cs).length + 3 * g.others.length - 1 = cs.length + 3 * g.others.length := by
      rw [List.length_cons]
      omega
    have hcs : cs.length < 3 := hlength
    rw [hleft, List.cons_append, List.drop_one, List.tail_cons, pointed_first hcs,
      pointed_others g.length_others]
    rfl

/-- The points are no digits, so dropping all but the digits leaves the digits. -/
theorem digitsOf_text (g : Grouping) : digitsOf g.text = String.ofList g.digits := by
  have hothers : ∀ groups : List (List Char),
      (groups.flatMap ('.' :: ·)).filter Char.isDigit = groups.flatten.filter Char.isDigit := by
    intro groups
    rw [List.filter_flatMap, List.filter_flatten, List.flatMap_def]
    rfl
  have hfilter : (g.first ++ g.others.flatMap ('.' :: ·)).filter Char.isDigit = g.digits := by
    rw [List.filter_append, hothers, ← List.filter_append]
    exact List.filter_eq_self.2 g.isDigit_of_mem_digits
  rw [digitsOf, Grouping.text, String.toList_ofList, hfilter]

theorem isDigit_of_mem_digitsOf {t : String} : ∀ c ∈ (digitsOf t).toList, c.isDigit = true := by
  intro c hc
  rw [digitsOf, String.toList_ofList] at hc
  exact (List.mem_filter.1 hc).2

/-- Where there is nothing but digits, nothing is taken away. -/
theorem digitsOf_eq_self {d : String} (h : ∀ c ∈ d.toList, c.isDigit = true) : digitsOf d = d := by
  rw [digitsOf, List.filter_eq_self.2 h, String.ofList_toList]

/-- A run of digits, as it is shown: in groups, unless it is empty. -/
theorem groupThousands_cases {d : String} (h : ∀ c ∈ d.toList, c.isDigit = true) :
    d = "" ∧ groupThousands d = "" ∨
      ∃ g : Grouping, g.digits = d.toList ∧ groupThousands d = g.text := by
  by_cases hd : d = ""
  · subst hd
    exact .inl ⟨rfl, rfl⟩
  · have hne : d.toList ≠ [] := fun hnil => hd (String.toList_eq_nil_iff.1 hnil)
    obtain ⟨g, hg⟩ := Grouping.exists_digits_eq hne h
    refine .inr ⟨g, hg, ?_⟩
    rw [← groupThousands_digits, hg, String.ofList_toList]

/-- **Dropping all but the digits undoes the grouping.** -/
theorem digitsOf_groupThousands {d : String} (h : ∀ c ∈ d.toList, c.isDigit = true) :
    digitsOf (groupThousands d) = d := by
  rcases groupThousands_cases h with ⟨rfl, -⟩ | ⟨g, hg, htext⟩
  · rfl
  · rw [htext, digitsOf_text, hg, String.ofList_toList]

/-! ## Amounts -/

namespace Amount

theorem ofDigits?_digits (g : Grouping) :
    ofDigits? (String.ofList g.digits) = ofNat? g.value := by
  rw [ofDigits?, String.toList_ofList, if_neg (by simpa using g.digits_ne_nil)]
  rfl

theorem toNat_getD_ofNat? (n : Nat) : ((ofNat? n).getD 0).toNat = if n < 2 ^ 64 then n else 0 := by
  by_cases h : n < 2 ^ 64
  · have hsome : ofNat? n = some (UInt64.ofNat n) := if_pos h
    rw [hsome, if_pos h, Option.getD_some, UInt64.toNat_ofNat_of_lt' h]
  · have hnone : ofNat? n = none := if_neg h
    rw [hnone, if_neg h]
    rfl

/-- A typed text is worth what its digits spell; without digits that is zero as well. -/
theorem toNat_parse (raw : String) :
    (parse raw).toNat =
      if Text.decimalValue (raw.toList.filter Char.isDigit) < 2 ^ 64
      then Text.decimalValue (raw.toList.filter Char.isDigit) else 0 := by
  rw [parse, ofDigits?, digitsOf, String.toList_ofList]
  by_cases hempty : raw.toList.filter Char.isDigit = []
  · rw [hempty]
    rfl
  · rw [if_neg (by simpa using hempty), toNat_getD_ofNat?]

/-- An amount is what the digits of a text spell, or zero from 2 ^ 64 on. -/
theorem toNat_parse_of_isNumeral {raw : String} {n : Nat}
    (h : IsNumeral n (raw.toList.filter Char.isDigit)) :
    (parse raw).toNat = if n < 2 ^ 64 then n else 0 := by
  obtain ⟨-, rfl⟩ := (isNumeral_iff fun c hc => (List.mem_filter.1 hc).2).1 h
  exact toNat_parse raw

theorem parse_eq_zero {raw : String} (h : ∀ c ∈ raw.toList, c.isDigit = false) : parse raw = 0 := by
  have hempty : raw.toList.filter Char.isDigit = [] :=
    List.filter_eq_nil_iff.2 fun c hc => by simp [h c hc]
  rw [← UInt64.toNat_inj, toNat_parse, hempty]
  rfl

theorem toNat_parse_text {g : Grouping} (h : g.value < 2 ^ 64) :
    (parse g.text).toNat = g.value := by
  have hvalue : ofNat? g.value = some (UInt64.ofNat g.value) := if_pos h
  rw [parse, digitsOf_text, ofDigits?_digits, hvalue, Option.getD_some, UInt64.toNat_ofNat',
    Nat.mod_eq_of_lt h]

theorem format_zero : format 0 = "" := if_pos rfl

theorem format_eq_text {g : Grouping} (hg : g.Plain) {a : Amount} (h : a.toNat = g.value) :
    a.format = g.text := by
  have hzero : g.digits.head? ≠ some '0' := g.head?_digits ▸ hg
  have hdigits : Nat.toDigits 10 a.toNat = g.digits := by
    rw [h, Grouping.value, toDigits_decimalValue g.digits_ne_nil g.isDigit_of_mem_digits hzero]
  have hpos : 0 < a.toNat := h ▸ decimalValue_pos g.digits_ne_nil g.isDigit_of_mem_digits hzero
  have hne : a ≠ 0 := by
    rintro rfl
    exact Nat.lt_irrefl _ hpos
  rw [format, if_neg hne, hdigits, groupThousands_digits]

/-- An amount that is not zero is shown as the grouping of its digits. -/
theorem exists_format_eq_text {a : Amount} (ha : a ≠ 0) :
    ∃ g : Grouping, g.Plain ∧ g.value = a.toNat ∧ a.format = g.text := by
  have hpos : 0 < a.toNat := Nat.pos_of_ne_zero fun h => ha (UInt64.toNat_inj.1 h)
  obtain ⟨g, hg⟩ :=
    Grouping.exists_digits_eq Nat.toDigits_ne_nil fun c => isDigit_of_mem_toDigits (n := a.toNat)
  have hplain : g.Plain := by
    rw [Grouping.Plain, ← g.head?_digits, hg]
    exact head?_toDigits_ne hpos
  have hvalue : g.value = a.toNat := by rw [Grouping.value, hg, decimalValue_toDigits]
  exact ⟨g, hplain, hvalue, format_eq_text hplain hvalue.symm⟩

/-- **A formatted amount is read back**, zero included. -/
theorem parse_format (a : Amount) : parse a.format = a := by
  by_cases ha : a = 0
  · rw [ha, format_zero]
    rfl
  · obtain ⟨g, -, hvalue, htext⟩ := exists_format_eq_text ha
    have hlt : g.value < 2 ^ 64 := hvalue ▸ a.toNat_lt
    exact UInt64.toNat_inj.1 (by rw [htext, toNat_parse_text hlt, hvalue])

/-- The texts that formatting gives back are the empty one and the plain groupings of amounts. -/
theorem format_parse_eq_iff (s : String) :
    (parse s).format = s ↔ s = "" ∨ ∃ g : Grouping, s = g.text ∧ g.Plain ∧ g.value < 2 ^ 64 := by
  constructor
  · intro h
    by_cases ha : parse s = 0
    · rw [ha, format_zero] at h
      exact .inl h.symm
    · obtain ⟨g, hplain, hvalue, htext⟩ := exists_format_eq_text ha
      exact .inr ⟨g, h.symm.trans htext, hplain, hvalue ▸ (parse s).toNat_lt⟩
  · rintro (rfl | ⟨g, rfl, hplain, hlt⟩)
    · rfl
    · exact format_eq_text hplain (toNat_parse_text hlt)

/-- **Amounts and the texts that show them correspond one to one.**  A text that an amount is shown
as is read as that amount.  Zero is shown as the empty text, any other amount as a group of one to
three digits that does not start with a zero, and then three digits at a time, each time after a
point.  All these texts are shown, as long as their value is an amount, and no others are. -/
theorem format_exact :
    (∀ a : Amount, parse a.format = a) ∧
      (∀ a : Amount, if a = 0 then a.format = "" else
        ∃ g : Grouping, g.Plain ∧ g.value = a.toNat ∧ a.format = g.text) ∧
      (∀ s : String, (parse s).format = s ↔
        s = "" ∨ ∃ g : Grouping, s = g.text ∧ g.Plain ∧ g.value < 2 ^ 64) ∧
      Function.Injective format := by
  refine ⟨parse_format, fun a => ?_, format_parse_eq_iff, ?_⟩
  · split
    · rename_i ha
      rw [ha, format_zero]
    · rename_i ha
      exact exists_format_eq_text ha
  · intro a b h
    rw [← parse_format a, h, parse_format]

end Amount

end AccountingPage
