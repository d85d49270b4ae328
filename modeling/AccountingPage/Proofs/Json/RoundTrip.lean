import Mathlib.Algebra.Ring.Int.Defs
import Mathlib.Algebra.Ring.Nat
import Mathlib.Tactic.SplitIfs
import AccountingPage.Json.Printer
import AccountingPage.Json.Reader
import AccountingPage.Proofs.Numeral

/-!
# Reading what has been written

A value that is written in the compact form and read again is the value that it was.  Each reader
is shown to take exactly what the writer of its kind has written, whatever follows, so that the
readers fit together as the writers do.

* `quotation_write` and `numeral_write` are about strings and whole numbers.
* `iterate_commaSeparated` is about the pieces between two brackets, of a list or of an object.
* `Value.Fits` is what can be written without loss: no doubles, whole numbers in the range that is
  kept whole, and brackets within the limit on nesting.
* `value_write` puts it together, and `parse_render` is about a whole text.
-/

set_option autoImplicit false

namespace AccountingPage
namespace Json

/-! ## Strings -/

theorem hexValue?_digitChar : ∀ n < 16, hexValue? (Nat.digitChar n) = some n := by decide

/-- The escape of a control character by its code point. -/
theorem escaped_codePoint {c : Char} (h : c.toNat < 0x20) (rest : List Char) :
    escaped ('u' :: '0' :: '0' :: Nat.digitChar (c.toNat / 16) :: Nat.digitChar (c.toNat % 16) ::
      rest) = .ok (c, rest) := by
  have hhigh := hexValue?_digitChar (c.toNat / 16) (by omega)
  have hlow := hexValue?_digitChar (c.toNat % 16) (by omega)
  have hzero : hexValue? '0' = some 0 := by decide
  have hsum : ((16 * 0 + 0) * 16 + c.toNat / 16) * 16 + c.toNat % 16 = c.toNat := by omega
  rw [escaped, if_pos rfl, codePoint, hexFour, hzero, hhigh, hlow]
  simp only [hsum, Char.ofNat_toNat]
  rw [if_neg (by simp [isLowSurrogate]; omega), if_neg (by simp [isHighSurrogate]; omega)]

/-- **A character that is written is read back**, in one turn. -/
theorem quotationStep_escape (c : Char) (sofar rest : List Char) :
    quotationStep sofar (escape c ++ rest) = .ok (.again (c :: sofar), rest) := by
  rw [escape]
  split_ifs with hquote hslash h8 h9 h10 h12 h13 hcontrol
  -- the seven escapes of one letter
  iterate 7
    · subst_vars
      rfl
  · simp [quotationStep, escaped_codePoint hcontrol]
  · simp [quotationStep, hquote, hslash, hcontrol]

/-- A string is read back after its opening quote. -/
theorem quotation_write (s : String) (rest : List Char) :
    quotation (s.toList.flatMap escape ++ '"' :: rest) = .ok (s, rest) := by
  have hloop : ∀ (cs sofar : List Char),
      iterate quotationStep sofar (cs.flatMap escape ++ '"' :: rest) =
        .ok (String.ofList (sofar.reverse ++ cs), rest) := by
    intro cs
    induction cs with
    | nil =>
      intro sofar
      rw [iterate_eq advances_quotationStep, List.append_nil]
      rfl
    | cons c cs ih =>
      intro sofar
      rw [iterate_eq advances_quotationStep, List.flatMap_cons, List.append_assoc,
        quotationStep_escape]
      simpa using ih (c :: sofar)
  rw [quotation, hloop]
  simp

/-! ## Whole numbers -/

/-- What follows is not taken for a part of a number. -/
structure EndsNumber (rest : List Char) : Prop where
  head? : ∀ c ∈ rest.head?, c.isDigit = false
  startsFraction : startsFraction rest = false

theorem le_ofDigitChars (digits : List Char) (m : Nat) : m ≤ Nat.ofDigitChars 10 digits m := by
  rw [Nat.ofDigitChars_eq_ofDigitChars_zero]
  exact Nat.le_add_right_of_le (Nat.le_mul_of_pos_left _ (Nat.pow_pos (by decide)))

/-- Digits that stay within the limit are all gathered. -/
theorem gather_eq {limit : Nat} {digits : List Char} {m : Nat}
    (h : Nat.ofDigitChars 10 digits m ≤ limit) :
    gather limit m digits = (Nat.ofDigitChars 10 digits m, []) := by
  induction digits generalizing m with
  | nil => rfl
  | cons c digits ih =>
    rw [Nat.ofDigitChars_cons] at h ⊢
    rw [gather, if_pos (Nat.le_trans (le_ofDigitChars digits _) h)]
    exact ih h

theorem EndsNumber.span {rest : List Char} (h : EndsNumber rest) :
    rest.takeWhile Char.isDigit = [] ∧ rest.dropWhile Char.isDigit = rest := by
  cases rest with
  | nil => exact ⟨rfl, rfl⟩
  | cons c cs =>
    have hc : c.isDigit = false := h.head? c rfl
    simp [hc]

/-- A whole number is read back from its digits. -/
theorem numeral_write {n : Nat} (hn : n < 2 ^ 64) (negative : Bool) {rest : List Char}
    (hrest : EndsNumber rest) :
    numeral negative (Nat.toDigits 10 n ++ rest) = .ok (wholeNumber negative n, rest) := by
  have hdigits : ∀ c ∈ Nat.toDigits 10 n, c.isDigit = true := fun c hc =>
    Nat.isDigit_of_mem_toDigits (by decide) (by decide) hc
  have htake : (Nat.toDigits 10 n ++ rest).takeWhile Char.isDigit = Nat.toDigits 10 n := by
    rw [List.takeWhile_append_of_pos hdigits, hrest.span.1, List.append_nil]
  have hdrop : (Nat.toDigits 10 n ++ rest).dropWhile Char.isDigit = rest := by
    rw [List.dropWhile_append_of_pos hdigits, hrest.span.2]
  have hgather : gather (Nat.pow 2 64 - 1) 0 (Nat.toDigits 10 n) = (n, []) := by
    rw [gather_eq] <;> rw [Nat.ofDigitChars_ten_toDigits]
    exact Nat.le_sub_one_of_lt hn
  rw [numeral, htake, hdrop]
  split
  · rename_i hnil
    exact absurd hnil Nat.toDigits_ne_nil
  · rename_i hnil _
    exact absurd hnil Nat.toDigits_ne_nil
  · rename_i hzero
    cases n with
    | zero => exact absurd hzero (by simp)
    | succ n => exact absurd (congrArg List.head? hzero) (head?_toDigits_ne (Nat.succ_pos n))
  · rw [hgather]
    simp [hrest.startsFraction]

/-! ## What stands between two brackets -/

variable {α : Type}

theorem commaSeparated_cons (piece : List Char) (pieces : List (List Char)) :
    commaSeparated (piece :: pieces) = piece ++ pieces.flatMap (',' :: ·) := by
  induction pieces generalizing piece with
  | nil => simp [commaSeparated]
  | cons next pieces ih =>
    have hnext : [','].intercalate (next :: pieces) = next ++ pieces.flatMap (',' :: ·) := ih next
    rw [commaSeparated, List.intercalate_cons_cons, hnext, List.flatMap_cons]
    simp

theorem length_le_length_flatMap (pieces : List (List Char)) :
    pieces.length ≤ (pieces.flatMap (',' :: ·)).length := by
  induction pieces with
  | nil => exact Nat.le_refl _
  | cons piece pieces ih =>
    rw [List.flatMap_cons, List.length_append, List.length_cons, List.length_cons]
    omega

/-- What a loop has to do with written pieces, for it to read them between two brackets: to read the
first one, to read another one after a comma, and to stop at the closing bracket. -/
structure ReadsPieces (step : List α → Reader (Turn (List α) (List α))) (write : α → List Char)
    (close : Char) (as : List α) : Prop where
  first : ∀ a ∈ as, ∀ rest, EndsNumber rest →
    step [] (write a ++ rest) = .ok (.again [a], rest)
  next : ∀ a ∈ as, ∀ sofar rest, sofar ≠ [] → EndsNumber rest →
    step sofar (',' :: write a ++ rest) = .ok (.again (a :: sofar), rest)
  last : ∀ sofar rest, step sofar (close :: rest) = .ok (.leave sofar.reverse, rest)
  close : ∀ rest, EndsNumber (close :: rest)

variable {step : List α → Reader (Turn (List α) (List α))} {write : α → List Char} {close : Char}
  {as : List α}

theorem ReadsPieces.endsNumber (h : ReadsPieces step write close as) (pieces : List (List Char))
    (rest : List Char) : EndsNumber (pieces.flatMap (',' :: ·) ++ close :: rest) := by
  cases pieces with
  | nil => exact h.close rest
  | cons piece pieces => exact ⟨by simp, rfl⟩

theorem iterateFor_pieces (h : ReadsPieces step write close as) (rest : List Char) {bs : List α}
    (hbs : bs ⊆ as) {turns : Nat} (hturns : bs.length < turns) {sofar : List α}
    (hsofar : sofar ≠ []) :
    iterateFor step turns sofar ((bs.map write).flatMap (',' :: ·) ++ close :: rest) =
      .ok (sofar.reverse ++ bs, rest) := by
  induction bs generalizing turns sofar with
  | nil =>
    cases turns with
    | zero => exact absurd hturns (Nat.not_lt_zero _)
    | succ turns =>
      rw [iterateFor, List.map_nil, List.flatMap_nil, List.nil_append, h.last, List.append_nil]
  | cons b bs ih =>
    obtain ⟨hb, hbs⟩ := List.cons_subset.1 hbs
    cases turns with
    | zero => exact absurd hturns (Nat.not_lt_zero _)
    | succ turns =>
      rw [iterateFor, List.map_cons, List.flatMap_cons, List.append_assoc,
        h.next b hb sofar _ hsofar (h.endsNumber _ rest)]
      simpa using ih hbs (Nat.lt_of_succ_lt_succ hturns) (List.cons_ne_nil b sofar)

/-- **Written pieces are read back**, in one turn each and one more for the bracket. -/
theorem iterate_commaSeparated (h : ReadsPieces step write close as) (rest : List Char) :
    iterate step [] (commaSeparated (as.map write) ++ close :: rest) = .ok (as, rest) := by
  cases as with
  | nil =>
    rw [iterate, iterateFor]
    exact (by simp [commaSeparated, h.last])
  | cons a as =>
    have hturns : as.length <
        (commaSeparated ((a :: as).map write) ++ close :: rest).length := by
      have hle := length_le_length_flatMap (as.map write)
      rw [List.map_cons, commaSeparated_cons, List.length_append, List.length_append,
        List.length_cons]
      rw [List.length_map] at hle
      omega
    rw [iterate, iterateFor]
    rw [List.map_cons, commaSeparated_cons, List.append_assoc] at hturns ⊢
    rw [h.first a List.mem_cons_self _ (h.endsNumber _ rest)]
    exact iterateFor_pieces h rest (List.subset_cons_self a as) hturns (List.cons_ne_nil a [])

/-! ## Values -/

/-- The value can be written without loss, and read with that much room for brackets. -/
inductive Value.Fits : Nat → Value → Prop where
  | null {room : Nat} : Fits room .null
  | boolean {room : Nat} (b : Bool) : Fits room (.boolean b)
  | integer {room : Nat} {n : Int} (hlow : -2 ^ 63 ≤ n) (hhigh : n < 2 ^ 64) :
    Fits room (.number (.integer n))
  | string {room : Nat} (s : String) : Fits room (.string s)
  | array {room : Nat} {items : List Value} (h : ∀ v ∈ items, Fits room v) :
    Fits (room + 1) (.array items)
  | object {room : Nat} {members : List (String × Value)} (h : ∀ m ∈ members, Fits room m.2) :
    Fits (room + 1) (.object members)

/-- How one member of an object is written. -/
def writeMember (m : String × Value) : List Char := writeString m.1 ++ ':' :: m.2.write

theorem writeItems_eq (vs : List Value) : writeItems vs = vs.map Value.write := by
  induction vs with
  | nil => rfl
  | cons v vs ih => rw [writeItems, ih, List.map_cons]

theorem writeMembers_eq (ms : List (String × Value)) : writeMembers ms = ms.map writeMember := by
  induction ms with
  | nil => rfl
  | cons m ms ih => rw [writeMembers, ih, List.map_cons, writeMember]

theorem skipSpace_cons {c : Char} (h : isSpace c = false) (cs : List Char) :
    skipSpace (c :: cs) = c :: cs :=
  List.dropWhile_cons_of_neg (by simp [h])

theorem isSpace_of_isDigit {c : Char} (h : c.isDigit = true) : isSpace c = false := by
  simp [isSpace, ne_of_isDigit h]

/-- A whole number is written as its digits, after a minus sign if it is negative. -/
theorem write_integer (n : Int) :
    (Value.number (.integer n)).write =
      if 0 ≤ n then Nat.toDigits 10 n.toNat else '-' :: Nat.toDigits 10 (-n).toNat := by
  rw [Value.write, Number.write, Int.toString_eq_repr, Int.repr_eq_if]
  split
  · exact Nat.toList_repr
  · rw [String.toList_append, Nat.toList_repr]
    rfl

theorem toDigits_eq_cons (n : Nat) : ∃ c cs, Nat.toDigits 10 n = c :: cs ∧ c.isDigit = true := by
  cases h : Nat.toDigits 10 n with
  | nil => exact absurd h Nat.toDigits_ne_nil
  | cons c cs =>
    have hc : c ∈ Nat.toDigits 10 n := h ▸ List.mem_cons_self
    exact ⟨c, cs, rfl, Nat.isDigit_of_mem_toDigits (by decide) (by decide) hc⟩

/-- A written value starts with what is neither a blank nor the end of a list. -/
theorem write_eq_cons {room : Nat} {v : Value} (h : v.Fits room) :
    ∃ c cs, v.write = c :: cs ∧ isSpace c = false ∧ c ≠ ']' := by
  cases h with
  | null => exact ⟨_, _, rfl, rfl, by decide⟩
  | boolean b => cases b <;> exact ⟨_, _, rfl, rfl, by decide⟩
  | string s => exact ⟨_, _, rfl, rfl, by decide⟩
  | array | object => exact ⟨_, _, rfl, rfl, by decide⟩
  | @integer _ n _ _ =>
    rw [write_integer]
    split
    · obtain ⟨c, cs, hcs, hc⟩ := toDigits_eq_cons n.toNat
      exact ⟨c, cs, hcs, isSpace_of_isDigit hc, ne_of_isDigit hc rfl⟩
    · exact ⟨_, _, rfl, rfl, by decide⟩

theorem value_of_other {cs rest : List Char} (h : opening cs = .other rest) (room : Nat) :
    value room cs = scalar rest := by
  cases room <;> rw [value, h]

theorem value_toDigits {n : Nat} (hn : n < 2 ^ 64) {rest : List Char} (hrest : EndsNumber rest)
    (room : Nat) :
    value room (Nat.toDigits 10 n ++ rest) = .ok (.number (.integer n), rest) := by
  obtain ⟨c, cs, hcs, hc⟩ := toDigits_eq_cons n
  have hopening : opening (Nat.toDigits 10 n ++ rest) = .other (Nat.toDigits 10 n ++ rest) := by
    rw [hcs, List.cons_append, opening, skipSpace_cons (isSpace_of_isDigit hc)]
    simp [ne_of_isDigit hc]
  have hscalar : scalar (Nat.toDigits 10 n ++ rest) =
      numberValue false (Nat.toDigits 10 n ++ rest) := by
    rw [hcs, List.cons_append, scalar, if_neg (ne_of_isDigit hc rfl),
      if_neg (ne_of_isDigit hc rfl), if_pos hc]
  rw [value_of_other hopening, hscalar, numberValue, numeral_write hn false hrest]
  rfl

theorem value_minus {n : Nat} (hpos : 0 < n) (hn : n ≤ 2 ^ 63) {rest : List Char}
    (hrest : EndsNumber rest) (room : Nat) :
    value room ('-' :: Nat.toDigits 10 n ++ rest) = .ok (.number (.integer (-n)), rest) := by
  have hopening : opening ('-' :: Nat.toDigits 10 n ++ rest) =
      .other ('-' :: (Nat.toDigits 10 n ++ rest)) := rfl
  have hscalar : scalar ('-' :: (Nat.toDigits 10 n ++ rest)) =
      numberValue true (Nat.toDigits 10 n ++ rest) := rfl
  have hwhole : wholeNumber true n = .integer (-n) := by
    rw [wholeNumber, if_neg (by decide), if_pos ⟨hpos, hn⟩]
  rw [value_of_other hopening, hscalar, numberValue, numeral_write (by omega) true hrest, hwhole]

theorem writeString_append (s : String) (rest : List Char) :
    writeString s ++ rest = '"' :: (s.toList.flatMap escape ++ '"' :: rest) := by
  rw [writeString, List.append_assoc]
  rfl

theorem value_writeString (s : String) (rest : List Char) (room : Nat) :
    value room (writeString s ++ rest) = .ok (.string s, rest) := by
  rw [writeString_append, value_of_other rfl, scalar, if_pos rfl, quotation_write]

theorem nameAfterComma_write (name : String) (rest : List Char) :
    nameAfterComma (writeString name ++ rest) = .ok (some name, rest) := by
  rw [writeString_append, nameAfterComma, skipSpace_cons rfl]
  simp [quotation_write]

theorem nextName_write (name : String) (rest : List Char) :
    nextName true (writeString name ++ rest) = .ok (some name, rest) := by
  rw [← nameAfterComma_write name rest, writeString_append, nextName, skipSpace_cons rfl]
  rfl

/-- The items of a list are read as they are written, if each of them is. -/
theorem readsPieces_items {room : Nat} {vs : List Value} (hvs : ∀ v ∈ vs, v.Fits room)
    (hread : ∀ v ∈ vs, ∀ rest, EndsNumber rest → value room (v.write ++ rest) = .ok (v, rest)) :
    ReadsPieces (itemStep (value room)) Value.write ']' vs where
  first v hv rest hrest := by
    obtain ⟨c, cs, hcs, hspace, hclose⟩ := write_eq_cons (hvs v hv)
    have hnext : nextItem true (v.write ++ rest) = .ok (true, v.write ++ rest) := by
      rw [hcs, List.cons_append, nextItem, skipSpace_cons hspace]
      simp [hclose]
    rw [itemStep, List.isEmpty_nil, hnext]
    simp [hread v hv rest hrest]
  next v hv sofar rest hsofar hrest := by
    obtain ⟨c, cs, hcs, hspace, hclose⟩ := write_eq_cons (hvs v hv)
    have hnext : nextItem sofar.isEmpty (',' :: v.write ++ rest) = .ok (true, v.write ++ rest) := by
      rw [hcs, nextItem, List.cons_append, skipSpace_cons rfl]
      simp [skipSpace_cons hspace, hclose, hsofar]
    rw [itemStep, hnext]
    simp [hread v hv rest hrest]
  last sofar rest := by
    rw [itemStep]
    rfl
  close rest := ⟨by simp, rfl⟩

/-- The members of an object are read as they are written, if the value of each of them is. -/
theorem readsPieces_members {room : Nat} {ms : List (String × Value)}
    (hread : ∀ m ∈ ms, ∀ rest, EndsNumber rest →
      value room (m.2.write ++ rest) = .ok (m.2, rest)) :
    ReadsPieces (memberStep (value room)) writeMember '\x7d' ms where
  first m hm rest hrest := by
    rw [memberStep, writeMember, List.append_assoc, List.isEmpty_nil, nextName_write]
    simp [colon, skipSpace_cons, isSpace, hread m hm rest hrest]
  next m hm sofar rest hsofar hrest := by
    have hname : nextName sofar.isEmpty (',' :: writeMember m ++ rest) =
        .ok (some m.1, ':' :: m.2.write ++ rest) := by
      rw [← nameAfterComma_write m.1, writeMember, nextName, List.cons_append, skipSpace_cons rfl]
      simp [hsofar]
    rw [memberStep, hname]
    simp [colon, skipSpace_cons, isSpace, hread m hm rest hrest]
  last sofar rest := by
    rw [memberStep]
    rfl
  close rest := ⟨by simp, rfl⟩

/-- **A value is read back from what was written**, whatever follows it, as long as that does not
look like more of a number. -/
theorem value_write {room : Nat} {v : Value} (h : v.Fits room) :
    ∀ rest, EndsNumber rest → value room (v.write ++ rest) = .ok (v, rest) := by
  induction h with
  | null =>
    intro rest _
    rw [value_of_other rfl]
    rfl
  | boolean b =>
    intro rest _
    cases b <;> rw [value_of_other rfl] <;> rfl
  | string s => exact fun rest _ => value_writeString s rest _
  | @integer _ n hlow hhigh =>
    intro rest hrest
    rw [write_integer]
    split
    · rename_i hn
      rw [value_toDigits (by omega) hrest, Int.toNat_of_nonneg hn]
    · rw [value_minus (by omega) (by omega) hrest, Int.toNat_of_nonneg (by omega), Int.neg_neg]
  | @array room items h ih =>
    intro rest _
    have hitems : Json.items (value room) (commaSeparated (items.map Value.write) ++ ']' :: rest) =
        .ok (items, rest) := iterate_commaSeparated (readsPieces_items h ih) rest
    rw [Value.write, writeItems_eq, value, opening]
    simp [skipSpace_cons, isSpace, hitems]
  | @object room members h ih =>
    intro rest _
    have hmembers : Json.members (value room)
        (commaSeparated (members.map writeMember) ++ '\x7d' :: rest) = .ok (members, rest) :=
      iterate_commaSeparated (readsPieces_members ih) rest
    rw [Value.write, writeMembers_eq, value, opening]
    simp [skipSpace_cons, isSpace, hmembers]

/-- **A text is read back as the value that it was rendered from.** -/
theorem parse_render {v : Value} (h : v.Fits maxDepth) : parse v.render = .ok v := by
  have hvalue := value_write h [] ⟨by simp, rfl⟩
  rw [List.append_nil] at hvalue
  rw [parse, document, Value.render, String.toList_ofList, hvalue]
  rfl

end Json
end AccountingPage
