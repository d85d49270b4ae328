import Mathlib.Data.List.TakeWhile
import AccountingPage.Proofs.Grouping

/-!
# Leading integers

An amount in an attribute or in a form is read off the front of a text: blanks are passed over,
then there may be a sign, then come the digits, and whatever follows them is left alone.  Here it
is said what that comes to for every text, whatever characters it has.

* `FallsInto` takes a text apart; `exists_fallsInto` and `FallsInto.unique` say that this can be
  done in one way.  `FallsInto.leadingInt?_eq` and `FallsInto.toNat_leading` say what is read then.
* `ByteScan.scan` reads the same off the bytes of the text, in numbers of 64 bits.  It stops with a
  fault where a cut would go through a character or a number would leave its range;
  `ByteScan.scan_eq` says that neither happens.
* `Grouping.toNat_leading_text` says what is read off a grouped number: its first group.
* `LeadingExact` is what is promised of every text, and `leadingInteger_exact` proves it.
-/

set_option autoImplicit false

namespace AccountingPage

/-! ## The parts of a text -/

/-- What a leading integer is read from, part by part. -/
structure LeadingParts where
  blanks : List Char
  sign : Option Char
  digits : List Char
  rest : List Char

/-- The text falls into these parts, and each of them takes as much as it can. -/
structure FallsInto (raw : String) (p : LeadingParts) : Prop where
  text : raw.toList = p.blanks ++ (p.sign.toList ++ (p.digits ++ p.rest))
  blanks : ∀ c ∈ p.blanks, Text.isBlank c = true
  blanks_longest : ∀ c ∈ (p.sign.toList ++ (p.digits ++ p.rest)).head?, Text.isBlank c = false
  sign : ∀ c ∈ p.sign, c = '+' ∨ c = '-'
  sign_taken : p.sign = none → ∀ c ∈ (p.digits ++ p.rest).head?, ¬(c = '+' ∨ c = '-')
  digits : ∀ c ∈ p.digits, c.isDigit = true
  digits_longest : ∀ c ∈ p.rest.head?, c.isDigit = false

/-- A run of characters of a class ends where the next one is not of it. -/
theorem takeWhile_append_of_head? {p : Char → Bool} {xs ys : List Char}
    (hxs : ∀ c ∈ xs, p c = true) (hys : ∀ c ∈ ys.head?, p c = false) :
    (xs ++ ys).takeWhile p = xs := by
  rw [List.takeWhile_append_of_pos hxs]
  cases ys with
  | nil => rw [List.takeWhile_nil, List.append_nil]
  | cons c ys => rw [List.takeWhile_cons_of_neg (by simpa using hys c rfl), List.append_nil]

theorem dropWhile_append_of_head? {p : Char → Bool} {xs ys : List Char}
    (hxs : ∀ c ∈ xs, p c = true) (hys : ∀ c ∈ ys.head?, p c = false) :
    (xs ++ ys).dropWhile p = ys := by
  have hall := List.takeWhile_append_dropWhile (p := p) (l := xs ++ ys)
  rw [takeWhile_append_of_head? hxs hys] at hall
  exact List.append_cancel_left hall

theorem eq_false_of_mem_head?_dropWhile {p : Char → Bool} {cs : List Char} {c : Char}
    (h : c ∈ (cs.dropWhile p).head?) : p c = false := by
  have hnot := List.head?_dropWhile_not p cs
  rw [Option.mem_def] at h
  rw [h] at hnot
  simpa using hnot

/-- A sign is split off, and nothing that is none. -/
theorem splitSign_append {sign : Option Char} {cs : List Char}
    (hsign : ∀ c ∈ sign, c = '+' ∨ c = '-')
    (htaken : sign = none → ∀ c ∈ cs.head?, ¬(c = '+' ∨ c = '-')) :
    Text.splitSign (sign.toList ++ cs) = (decide (sign = some '-'), cs) := by
  cases sign with
  | some c => rcases hsign c rfl with rfl | rfl <;> rfl
  | none =>
    cases cs with
    | nil => rfl
    | cons c cs =>
      obtain ⟨hplus, hminus⟩ := not_or.1 (htaken rfl c rfl)
      exact Text.splitSign.eq_3 _ (by simpa using hminus) (by simpa using hplus)

/-- A sign is taken off if there is one, and only one. -/
theorem exists_sign (cs : List Char) : ∃ (sign : Option Char) (rest : List Char),
    cs = sign.toList ++ rest ∧ (∀ c ∈ sign, c = '+' ∨ c = '-') ∧
      (sign = none → ∀ c ∈ rest.head?, ¬(c = '+' ∨ c = '-')) := by
  cases cs with
  | nil => exact ⟨none, [], rfl, nofun, nofun⟩
  | cons c cs =>
    by_cases hc : c = '+' ∨ c = '-'
    · exact ⟨some c, cs, rfl, by rintro _ ⟨⟩; exact hc, nofun⟩
    · exact ⟨none, c :: cs, rfl, nofun, by rintro - _ ⟨⟩; exact hc⟩

/-- Every text can be taken apart. -/
theorem exists_fallsInto (raw : String) : ∃ p, FallsInto raw p := by
  obtain ⟨sign, rest, hsplit, hsign, htaken⟩ := exists_sign (Text.trimStart raw)
  have hrest := List.takeWhile_append_dropWhile (p := Char.isDigit) (l := rest)
  refine ⟨⟨raw.toList.takeWhile Text.isBlank, sign, rest.takeWhile Char.isDigit,
    rest.dropWhile Char.isDigit⟩, ?_, ?_, ?_, hsign, ?_, ?_, ?_⟩
  · rw [hrest, ← hsplit, Text.trimStart, List.takeWhile_append_dropWhile]
  · exact fun c hc => List.mem_takeWhile_imp hc
  · rw [hrest, ← hsplit]
    exact fun c hc => eq_false_of_mem_head?_dropWhile hc
  · rwa [hrest]
  · exact fun c hc => List.mem_takeWhile_imp hc
  · exact fun c hc => eq_false_of_mem_head?_dropWhile hc

/-! ## What is read -/

namespace FallsInto

variable {raw : String} {p q : LeadingParts}

theorem takeWhile_isBlank_eq (h : FallsInto raw p) :
    raw.toList.takeWhile Text.isBlank = p.blanks := by
  rw [h.text, takeWhile_append_of_head? h.blanks h.blanks_longest]

/-- What is left once the blanks are gone. -/
theorem trimStart_eq (h : FallsInto raw p) :
    Text.trimStart raw = p.sign.toList ++ (p.digits ++ p.rest) := by
  rw [Text.trimStart, h.text, dropWhile_append_of_head? h.blanks h.blanks_longest]

/-- What is left once the sign is gone. -/
theorem splitSign_eq (h : FallsInto raw p) :
    Text.splitSign (Text.trimStart raw) = (decide (p.sign = some '-'), p.digits ++ p.rest) := by
  rw [h.trimStart_eq, splitSign_append h.sign h.sign_taken]

theorem takeWhile_isDigit_eq (h : FallsInto raw p) :
    (p.digits ++ p.rest).takeWhile Char.isDigit = p.digits :=
  takeWhile_append_of_head? h.digits h.digits_longest

/-- There is no other way of taking a text apart: what is read part by part is what the part was. -/
theorem unique (hp : FallsInto raw p) (hq : FallsInto raw q) : p = q := by
  have hblanks : p.blanks = q.blanks := hp.takeWhile_isBlank_eq.symm.trans hq.takeWhile_isBlank_eq
  have hrest : p.digits ++ p.rest = q.digits ++ q.rest :=
    (Prod.mk.inj (hp.splitSign_eq.symm.trans hq.splitSign_eq)).2
  have hsign : p.sign = q.sign := by
    have htrim := hp.trimStart_eq.symm.trans hq.trimStart_eq
    rw [hrest] at htrim
    simpa using congrArg List.head? (List.append_cancel_right htrim)
  have hdigits : p.digits = q.digits := by
    rw [← hp.takeWhile_isDigit_eq, hrest, hq.takeWhile_isDigit_eq]
  have hrest' : p.rest = q.rest := by
    rw [hdigits] at hrest
    exact List.append_cancel_left hrest
  obtain ⟨⟩ := p
  obtain ⟨⟩ := q
  congr

/-- The number of a text that has been taken apart: none without digits, or with digits for 2 ^ 63
or more. -/
theorem leadingInt?_eq (h : FallsInto raw p) :
    leadingInt? raw =
      if p.digits = [] ∨ 2 ^ 63 ≤ Text.decimalValue p.digits then none
      else some (if p.sign = some '-' then -(Text.decimalValue p.digits : Int)
        else Text.decimalValue p.digits) := by
  rw [leadingInt?, h.splitSign_eq]
  simp only [h.takeWhile_isDigit_eq, List.isEmpty_iff, decide_eq_true_eq]
  rfl

/-- **A text has a leading integer** just if its digits spell a number below 2 ^ 63. -/
theorem leadingInt?_eq_some_iff (h : FallsInto raw p) {v : Int} :
    leadingInt? raw = some v ↔
      ∃ n : Nat, IsNumeral n p.digits ∧ n ≤ 2 ^ 63 - 1 ∧
        v = if p.sign = some '-' then -(n : Int) else n := by
  rw [h.leadingInt?_eq, Option.ite_none_left_eq_some, Option.some_inj, not_or]
  constructor
  · rintro ⟨⟨hne, hlt⟩, rfl⟩
    exact ⟨_, (isNumeral_iff h.digits).2 ⟨hne, rfl⟩, by omega, rfl⟩
  · rintro ⟨n, hnumeral, hle, rfl⟩
    obtain ⟨hne, rfl⟩ := (isNumeral_iff h.digits).1 hnumeral
    exact ⟨⟨hne, by omega⟩, rfl⟩

/-- It has none just if there are no digits, or digits for too large a number. -/
theorem leadingInt?_eq_none_iff (h : FallsInto raw p) :
    leadingInt? raw = none ↔ p.digits = [] ∨ ∃ n, IsNumeral n p.digits ∧ 2 ^ 63 ≤ n := by
  rw [h.leadingInt?_eq, ite_eq_left_iff]
  simp only [reduceCtorEq, imp_false, not_not, isNumeral_iff h.digits]
  constructor
  · rintro (hempty | hle)
    · exact .inl hempty
    · by_cases hempty : p.digits = []
      · exact .inl hempty
      · exact .inr ⟨_, ⟨hempty, rfl⟩, hle⟩
  · rintro (hempty | ⟨n, ⟨-, rfl⟩, hle⟩)
    · exact .inl hempty
    · exact .inr hle

/-- Without digits the number is zero as well. -/
theorem toNat_leading (h : FallsInto raw p) :
    (Amount.leading raw).toNat =
      if p.sign = some '-' ∨ 2 ^ 63 ≤ Text.decimalValue p.digits then 0
      else Text.decimalValue p.digits := by
  rw [Amount.leading, h.leadingInt?_eq]
  by_cases hnone : p.digits = [] ∨ 2 ^ 63 ≤ Text.decimalValue p.digits
  · rw [if_pos hnone]
    rcases hnone with hempty | hle
    · rw [hempty]
      exact (ite_self _).symm
    · rw [if_pos (Or.inr hle)]
      rfl
  · obtain ⟨-, hle⟩ := not_or.1 hnone
    have hlt : Text.decimalValue p.digits < 2 ^ 64 :=
      Nat.lt_trans (Nat.lt_of_not_le hle) (by decide)
    rw [if_neg hnone]
    by_cases hsign : p.sign = some '-'
    · rw [if_pos hsign, if_pos (Or.inl hsign)]
      simp only [Int.toNat_neg_natCast]
      rfl
    · rw [if_neg hsign, if_neg (not_or.2 ⟨hsign, hle⟩)]
      simp only [Int.toNat_natCast]
      exact UInt64.toNat_ofNat_of_lt' hlt

end FallsInto

/-! ## Byte by byte

A text may also be read without looking at its characters.  The sign and the digits are bytes of
their own, and no byte of another character is one of these; so the text can be cut behind the sign
and behind the digits.  The number is kept in 64 bits, and its opposite must be there as well. -/

namespace ByteScan

/-- What may go wrong on bytes but not on characters. -/
inductive Fault where
  /-- The byte is in the middle of a character. -/
  | cut (byte : Nat)
  /-- The number is too large. -/
  | range
deriving DecidableEq, Repr

def bytes (s : String) : List UInt8 := s.toByteArray.data.toList

def isDigit (b : UInt8) : Bool := 48 ≤ b && b ≤ 57

/-- The text before one of its bytes, and the text from there on. -/
def cutAt (s : String) (i : Nat) : Except Fault (String × String) :=
  if h : (String.Pos.Raw.mk i).IsValid s then
    let p := s.pos ⟨i⟩ h
    .ok ((s.sliceTo p).copy, (s.sliceFrom p).copy)
  else .error (.cut i)

/-- Whether there is a minus sign, and what follows the sign, if there is one. -/
def sign (s : String) : Except Fault (Bool × String) :=
  match (bytes s).head? with
  | some 45 => (cutAt s 1).map fun parts => (true, parts.2)
  | some 43 => (cutAt s 1).map fun parts => (false, parts.2)
  | _ => .ok (false, s)

/-- The digits at the front, if there are any. -/
def digits? (s : String) : Except Fault (Option String) :=
  let length := (bytes s).findIdx fun b => !isDigit b
  if length = 0 then .ok none else (cutAt s length).map fun parts => some parts.1

def magnitude? (digits : String) : Option Int64 :=
  let n := Text.decimalValue digits.toList
  if n < 2 ^ 63 then some (.ofNat n) else none

/-- The least number is the only one whose opposite is too large. -/
def opposite (m : Int64) : Except Fault Int64 :=
  if m = Int64.minValue then .error .range else .ok (-m)

def signed (negative : Bool) (digits : String) : Except Fault (Option Int64) :=
  match magnitude? digits with
  | none => .ok none
  | some m => if negative then (opposite m).map some else .ok (some m)

def scan (raw : String) : Except Fault (Option Int64) := do
  let (negative, rest) ← sign (String.ofList (Text.trimStart raw))
  match ← digits? rest with
  | none => .ok none
  | some digits => signed negative digits

/-- A cut at a boundary succeeds. -/
theorem cutAt_append (s t : String) : cutAt (s ++ t) s.utf8ByteSize = .ok (s, t) := by
  have hvalid : (String.Pos.Raw.mk s.utf8ByteSize).IsValid (s ++ t) :=
    String.Pos.Raw.isValid_iff_exists_append.2 ⟨s, t, rfl, rfl⟩
  have hsplits : ((s ++ t).pos ⟨s.utf8ByteSize⟩ hvalid).Splits s t := ⟨rfl, rfl⟩
  obtain ⟨hleft, hright⟩ := (String.Pos.splits _).eq hsplits
  rw [cutAt, dif_pos hvalid]
  simp only [hleft, hright]

/-- The bytes of a text are those of its characters, one after the other. -/
theorem bytes_cons (c : Char) (cs : List Char) :
    bytes (String.ofList (c :: cs)) = String.utf8EncodeChar c ++ bytes (String.ofList cs) := by
  simp only [bytes, String.toByteArray_ofList, List.utf8Encode, List.toList_data_toByteArray,
    List.flatMap_cons]

/-- A character below 128 is one byte, its number; any other begins with a byte from 128 on. -/
theorem utf8EncodeChar_cases (c : Char) :
    (c.toNat < 128 ∧ String.utf8EncodeChar c = [UInt8.ofNat c.toNat]) ∨
      128 ≤ c.toNat ∧ ∃ b bs, String.utf8EncodeChar c = b :: bs ∧ 128 ≤ b.toNat := by
  have hval : c.val.toNat = c.toNat := rfl
  rw [String.utf8EncodeChar]
  simp only [hval]
  split
  · exact .inl ⟨by omega, rfl⟩
  · refine .inr ⟨by omega, ?_⟩
    -- characters of two, three and four bytes
    split
    · refine ⟨_, _, rfl, ?_⟩
      rw [UInt8.toNat_ofNat']
      omega
    · split
      · refine ⟨_, _, rfl, ?_⟩
        rw [UInt8.toNat_ofNat']
        omega
      · refine ⟨_, _, rfl, ?_⟩
        rw [UInt8.toNat_ofNat']
        omega

theorem isDigit_iff {c : Char} : c.isDigit = true ↔ 48 ≤ c.toNat ∧ c.toNat ≤ 57 := by
  simp [Char.isDigit, UInt32.le_iff_toNat_le]

theorem isDigit_byte_iff {b : UInt8} : isDigit b = true ↔ 48 ≤ b.toNat ∧ b.toNat ≤ 57 := by
  simp [isDigit, UInt8.le_iff_toNat_le]

/-- The first byte that is no digit belongs to the first character that is none. -/
theorem findIdx_bytes (cs : List Char) :
    ((bytes (String.ofList cs)).findIdx fun b => !isDigit b) =
      (cs.takeWhile Char.isDigit).length := by
  induction cs with
  | nil => rfl
  | cons c cs ih =>
    rw [bytes_cons]
    rcases utf8EncodeChar_cases c with ⟨hlt, hbytes⟩ | ⟨hle, b, bs, hbytes, hb⟩
    · have hdigit : isDigit (.ofNat c.toNat) = c.isDigit := by
        rw [Bool.eq_iff_iff, isDigit_byte_iff, isDigit_iff, UInt8.toNat_ofNat',
          Nat.mod_eq_of_lt (by omega)]
      rw [hbytes, List.singleton_append, List.findIdx_cons, hdigit]
      cases hc : c.isDigit with
      | true =>
        rw [List.takeWhile_cons_of_pos hc, List.length_cons, ← ih]
        rfl
      | false =>
        rw [List.takeWhile_cons_of_neg (by simp [hc])]
        rfl
    · have hbyte : isDigit b = false := Bool.eq_false_iff.2 fun h => by
        have := isDigit_byte_iff.1 h
        omega
      have hc : ¬c.isDigit = true := fun h => by
        have := isDigit_iff.1 h
        omega
      rw [hbytes, List.cons_append, List.findIdx_cons, hbyte, List.takeWhile_cons_of_neg hc]
      rfl

/-- **The digits that are found among the bytes are those found among the characters**, and the cut
is at a boundary. -/
theorem digits?_eq (cs : List Char) :
    digits? (String.ofList cs) =
      .ok (if cs.takeWhile Char.isDigit = [] then none
        else some (String.ofList (cs.takeWhile Char.isDigit))) := by
  have hcut := cutAt_append (String.ofList (cs.takeWhile Char.isDigit))
    (String.ofList (cs.dropWhile Char.isDigit))
  rw [← String.ofList_append, List.takeWhile_append_dropWhile,
    utf8ByteSize_ofList_digits fun c hc => List.mem_takeWhile_imp hc] at hcut
  simp only [digits?, findIdx_bytes, List.length_eq_zero_iff, hcut]
  split <;> rfl

theorem head?_bytes_eq_iff {c : Char} {cs : List Char} {b : UInt8} (hb : b.toNat < 128) :
    (bytes (String.ofList (c :: cs))).head? = some b ↔ c.toNat = b.toNat := by
  rw [bytes_cons]
  rcases utf8EncodeChar_cases c with ⟨hlt, hbytes⟩ | ⟨hle, b', bs, hbytes, hb'⟩
  · rw [hbytes, List.singleton_append, List.head?_cons, Option.some_inj, ← UInt8.toNat_inj,
      UInt8.toNat_ofNat', Nat.mod_eq_of_lt (by omega)]
  · rw [hbytes, List.cons_append, List.head?_cons, Option.some_inj, ← UInt8.toNat_inj]
    omega

/-- The sign is cut off at a boundary, too. -/
theorem sign_eq (cs : List Char) :
    sign (String.ofList cs) =
      .ok ((Text.splitSign cs).1, String.ofList (Text.splitSign cs).2) := by
  cases cs with
  | nil => rfl
  | cons c cs =>
    have hcut : cutAt (String.ofList (c :: cs)) c.utf8Size =
        .ok (String.singleton c, String.ofList cs) := by
      have h := cutAt_append (String.singleton c) (String.ofList cs)
      rwa [← String.ofList_cons, String.utf8ByteSize_singleton] at h
    by_cases hminus : c = '-'
    · subst hminus
      have hhead : (bytes (String.ofList ('-' :: cs))).head? = some 45 :=
        (head?_bytes_eq_iff (by decide)).2 rfl
      simp only [sign, hhead, show cutAt _ 1 = _ from hcut]
      rfl
    · by_cases hplus : c = '+'
      · subst hplus
        have hhead : (bytes (String.ofList ('+' :: cs))).head? = some 43 :=
          (head?_bytes_eq_iff (by decide)).2 rfl
        simp only [sign, hhead, show cutAt _ 1 = _ from hcut]
        rfl
      · have hnone : Text.splitSign (c :: cs) = (false, c :: cs) :=
          Text.splitSign.eq_3 _ (by simpa using hminus) (by simpa using hplus)
        rw [hnone, sign]
        split
        · rename_i hhead
          exact absurd (Char.toNat_inj.1 ((head?_bytes_eq_iff (by decide)).1 hhead)) hminus
        · rename_i hhead
          exact absurd (Char.toNat_inj.1 ((head?_bytes_eq_iff (by decide)).1 hhead)) hplus
        · rfl

/-- No number below 2 ^ 63 overflows when its sign is changed. -/
theorem opposite_ofNat {n : Nat} (h : n < 2 ^ 63) :
    opposite (.ofNat n) = .ok (-.ofNat n) ∧ (-Int64.ofNat n).toInt = -(n : Int) := by
  have hne : Int64.ofNat n ≠ Int64.minValue := fun heq => by
    have hmin := congrArg Int64.toInt heq
    rw [Int64.toInt_ofNat_of_lt h, Int64.toInt_minValue] at hmin
    omega
  refine ⟨if_neg hne, ?_⟩
  rw [Int64.toInt_neg, Int64.toInt_ofNat_of_lt h]
  exact Int.bmod_eq_of_le (by omega) (by omega)

/-- The number of a sign and digits, in machine integers. -/
theorem signed_eq (negative : Bool) (digits : List Char) :
    (signed negative (String.ofList digits)).map (Option.map Int64.toInt) =
      .ok (if 2 ^ 63 ≤ Text.decimalValue digits then none
        else some (if negative then -(Text.decimalValue digits : Int)
          else Text.decimalValue digits)) := by
  rw [signed, magnitude?, String.toList_ofList]
  by_cases h : Text.decimalValue digits < 2 ^ 63
  · obtain ⟨hopposite, htoInt⟩ := opposite_ofNat h
    simp only [if_pos h, if_neg (Nat.not_le_of_lt h)]
    cases negative with
    | true =>
      simp only [if_true, hopposite]
      exact congrArg (fun v => Except.ok (some v)) htoInt
    | false => exact congrArg (fun v => Except.ok (some v)) (Int64.toInt_ofNat_of_lt h)
  · simp only [if_neg h, if_pos (Nat.le_of_not_lt h)]
    rfl

/-- **Bytes and characters are read alike**, and no text leads to a fault. -/
theorem scan_eq (raw : String) :
    (scan raw).map (Option.map Int64.toInt) = .ok (leadingInt? raw) := by
  rw [scan, sign_eq, leadingInt?]
  obtain ⟨negative, cs⟩ := Text.splitSign (Text.trimStart raw)
  simp only [bind, Except.bind, digits?_eq]
  by_cases hempty : cs.takeWhile Char.isDigit = []
  · simp only [hempty]
    rfl
  · simp only [hempty, if_false, List.isEmpty_iff, false_or]
    exact signed_eq ..

end ByteScan

/-! ## Grouped numbers

A point is no digit, so a grouped number is read as its first group.  To drop the other groups is
to divide by a thousand as often as there are others. -/

theorem isBlank_of_isDigit {c : Char} (h : c.isDigit = true) : Text.isBlank c = false := by
  have hc := ByteScan.isDigit_iff.1 h
  simp only [Text.isBlank, Bool.or_eq_false_iff, Bool.and_eq_false_imp, decide_eq_true_eq,
    decide_eq_false_iff_not, Nat.not_le, beq_eq_false_iff_ne, ne_eq]
  omega

/-- What begins with digits has nothing before them. -/
theorem fallsInto_digits {raw : String} {digits rest : List Char}
    (htext : raw.toList = digits ++ rest) (hne : digits ≠ [])
    (hdigits : ∀ c ∈ digits, c.isDigit = true) (hrest : ∀ c ∈ rest.head?, c.isDigit = false) :
    FallsInto raw ⟨[], none, digits, rest⟩ := by
  have hhead : ∀ c ∈ (digits ++ rest).head?, c.isDigit = true := by
    cases digits with
    | nil => exact absurd rfl hne
    | cons d digits =>
      rintro _ ⟨⟩
      exact hdigits d List.mem_cons_self
  exact
    { text := htext
      blanks := nofun
      blanks_longest := fun c hc => isBlank_of_isDigit (hhead c hc)
      sign := nofun
      sign_taken := fun _ c hc =>
        not_or.2 ⟨ne_of_isDigit (hhead c hc) rfl, ne_of_isDigit (hhead c hc) rfl⟩
      digits := hdigits
      digits_longest := hrest }

namespace Grouping

theorem fallsInto_text (g : Grouping) :
    FallsInto g.text ⟨[], none, g.first, g.others.flatMap ('.' :: ·)⟩ := by
  refine fallsInto_digits String.toList_ofList g.first_ne_nil
    (fun c hc => g.isDigit c (List.mem_append_left _ hc)) fun c hc => ?_
  cases h : g.others with
  | nil => exact absurd hc (by simp [h])
  | cons group groups =>
    rw [h] at hc
    obtain rfl : '.' = c := Option.some.inj hc
    rfl

/-- Without its last groups a number is that of its first group. -/
theorem value_div (g : Grouping) :
    g.value / 1000 ^ g.others.length = Text.decimalValue g.first := by
  have hothers : ∀ c ∈ g.others.flatten, c.isDigit = true := fun c hc =>
    g.isDigit c (List.mem_append_right _ hc)
  have hpow : 10 ^ g.others.flatten.length = 1000 ^ g.others.length := by
    rw [length_flatten g.length_others, Nat.pow_mul]
  have hlt := decimalValue_lt hothers
  rw [hpow] at hlt
  rw [value, digits, decimalValue_append, hpow, Nat.mul_add_div (Nat.pow_pos (by decide)),
    Nat.div_eq_of_lt hlt, Nat.add_zero]

theorem length_digits_div (g : Grouping) : (g.digits.length - 1) / 3 = g.others.length := by
  have hfirst := g.length_first
  have hpos := List.length_pos_iff.2 g.first_ne_nil
  rw [digits, List.length_append, length_flatten g.length_others]
  omega

/-- **A grouped number is read as its first group.** -/
theorem toNat_leading_text (g : Grouping) :
    (Amount.leading g.text).toNat = g.value / 1000 ^ ((g.digits.length - 1) / 3) := by
  have hlt : Text.decimalValue g.first < 10 ^ 3 :=
    Nat.lt_of_lt_of_le (decimalValue_lt fun c hc => g.isDigit c (List.mem_append_left _ hc))
      (Nat.pow_le_pow_right (by decide) g.length_first)
  rw [g.fallsInto_text.toNat_leading, g.length_digits_div, g.value_div]
  have hkept : ¬((none : Option Char) = some '-' ∨ 2 ^ 63 ≤ Text.decimalValue g.first) := by
    rintro (hsign | hle)
    · exact absurd hsign (by simp)
    · omega
  exact if_neg hkept

end Grouping

namespace Amount

/-- Read as a leading integer, a formatted amount is cut at its first point. -/
theorem toNat_leading_format (a : Amount) :
    (leading a.format).toNat = a.toNat / 1000 ^ (((Nat.toDigits 10 a.toNat).length - 1) / 3) := by
  by_cases ha : a = 0
  · rw [ha, format_zero]
    rfl
  · obtain ⟨g, hplain, hvalue, htext⟩ := exists_format_eq_text ha
    have hzero : g.digits.head? ≠ some '0' := g.head?_digits ▸ hplain
    have hdigits : Nat.toDigits 10 a.toNat = g.digits := by
      rw [← hvalue, Grouping.value,
        toDigits_decimalValue g.digits_ne_nil g.isDigit_of_mem_digits hzero]
    rw [htext, g.toNat_leading_text, hvalue, hdigits]

/-- Only a number of one group is read as it was. -/
theorem leading_format_eq_iff (a : Amount) : leading a.format = a ↔ a.toNat < 1000 := by
  have hlength : (Nat.toDigits 10 a.toNat).length ≤ 3 ↔ a.toNat < 10 ^ 3 :=
    Nat.length_toDigits_le_iff (by decide) (by decide)
  rw [← UInt64.toNat_inj, toNat_leading_format]
  constructor
  · intro h
    by_contra hle
    have hgroups : ((Nat.toDigits 10 a.toNat).length - 1) / 3 ≠ 0 := by omega
    have hlt := Nat.div_lt_self (show 0 < a.toNat by omega)
      (Nat.one_lt_pow hgroups (show 1 < 1000 by decide))
    exact Nat.ne_of_lt hlt h
  · intro h
    have hgroups : ((Nat.toDigits 10 a.toNat).length - 1) / 3 = 0 := by omega
    rw [hgroups, Nat.pow_zero, Nat.div_one]

end Amount

/-- What is promised of a text and the parts that it falls into. -/
structure LeadingExact (raw : String) (p : LeadingParts) : Prop where
  parts : FallsInto raw p
  unique : ∀ q, FallsInto raw q → q = p
  /-- The integer is what the digits spell, with any zeros in front, if that is at most
  `2 ^ 63 - 1`; a minus sign makes it negative. -/
  integer : ∀ v : Int, leadingInt? raw = some v ↔
    ∃ n : Nat, IsNumeral n p.digits ∧ n ≤ 2 ^ 63 - 1 ∧
      v = if p.sign = some '-' then -(n : Int) else n
  /-- Without digits, or with too many of them, there is none. -/
  noInteger : leadingInt? raw = none ↔
    p.digits = [] ∨ ∃ n, IsNumeral n p.digits ∧ 2 ^ 63 ≤ n
  /-- The amount is that integer if it is there and has no minus sign, and else zero. -/
  amount : ∀ n, IsNumeral n p.digits →
    (Amount.leading raw).toNat = if p.sign = some '-' ∨ 2 ^ 63 ≤ n then 0 else n
  noAmount : p.digits = [] → Amount.leading raw = 0
  /-- Read off the bytes it is the same integer.  No cut goes through a character on the way, and
  no number leaves its 64 bits. -/
  bytes : (ByteScan.scan raw).map (Option.map Int64.toInt) = .ok (leadingInt? raw)

theorem FallsInto.exact {raw : String} {p : LeadingParts} (h : FallsInto raw p) :
    LeadingExact raw p where
  parts := h
  unique q hq := hq.unique h
  integer v := h.leadingInt?_eq_some_iff
  noInteger := h.leadingInt?_eq_none_iff
  amount n hnumeral := by
    obtain ⟨-, rfl⟩ := (isNumeral_iff h.digits).1 hnumeral
    exact h.toNat_leading
  noAmount hempty := by
    rw [Amount.leading, h.leadingInt?_eq, if_pos (Or.inl hempty)]
  bytes := ByteScan.scan_eq raw

/-- **Leading integers are read exactly.**  Every text falls into blanks, a sign, digits and a rest
in just one way, and what is read depends on the sign and the digits alone.  Where an amount is
shown in groups, its first group is read: the amount itself only if it is below a thousand. -/
theorem leadingInteger_exact :
    (∀ raw, ∃ p, LeadingExact raw p) ∧
      ∀ a : Amount,
        (Amount.leading a.format).toNat =
            a.toNat / 1000 ^ (((Nat.toDigits 10 a.toNat).length - 1) / 3) ∧
          (Amount.leading a.format = a ↔ a.toNat < 1000) := by
  refine ⟨fun raw => ?_, fun a => ⟨a.toNat_leading_format, a.leading_format_eq_iff⟩⟩
  obtain ⟨p, hp⟩ := exists_fallsInto raw
  exact ⟨p, hp.exact⟩

/-- A blank of three bytes, zeros in front, and a letter of two bytes behind the digits. -/
example : leadingInt? "\u3000-0042é" = some (-42) := by decide +kernel

end AccountingPage
