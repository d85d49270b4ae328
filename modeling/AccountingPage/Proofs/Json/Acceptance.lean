import AccountingPage.Proofs.Json.RoundTrip
import AccountingPage.Proofs.Json.Soundness

/-!
# What the readers accept

The other direction, for as much of it as the fields of a record need: what the grammar allows is
accepted.  The text of a string is read just if it spells something, and the name of a member is
found behind whatever stands before it.

* `skipSpace_of_blanks` and `quotation_of_spells` are about blanks and strings.
* `nextName_of_quote` and `nextName_of_brace` are about the members of an object.
* `wanted_sound` is about values of a wanted kind.  `stringField_of_string` and
  `stringField_of_not_string` say that a field that must be a string accepts strings and nothing
  else.
* `record_of_object` and `document_of_blanks` are about what stands around the members.
-/

set_option autoImplicit false

namespace AccountingPage
namespace Json

open Grammar

/-! ## Blanks -/

theorem skipSpace_of_blanks {t u : List Char} (h : Blanks t u) : skipSpace t = skipSpace u := by
  induction h with
  | none => rfl
  | more hc _ ih => exact (List.dropWhile_cons_of_pos hc).trans ih

/-- The blanks before a character that is none are passed. -/
theorem skipSpace_eq_cons {c : Char} {t u : List Char} (h : Blanks t (c :: u))
    (hc : isSpace c = false) : skipSpace t = c :: u :=
  (skipSpace_of_blanks h).trans (skipSpace_cons hc u)

theorem value_of_blanks {t u : List Char} (h : Blanks t u) (room : Nat) :
    value room t = value room u := by
  have hopening : opening t = opening u := by rw [opening, opening, skipSpace_of_blanks h]
  cases room <;> rw [value, value, hopening]
  rw [skipSpace_of_blanks h]

/-! ## Strings -/

theorem hexValue?_of_hexDigit {c : Char} {v : Nat} (h : HexDigit v c) : hexValue? c = some v := by
  have hupper : ∀ n < 16, hexValue? (Nat.digitChar n).toUpper = some n := by decide
  obtain ⟨hv, rfl | rfl⟩ := h
  · exact hexValue?_digitChar v hv
  · exact hupper v hv

theorem hexFour_of_hexFour {n : Nat} {t r : List Char} (h : HexFour n t r) :
    hexFour t = .ok (n, r) := by
  cases h with
  | digits ha hb hc hd =>
    rw [hexFour, hexValue?_of_hexDigit ha, hexValue?_of_hexDigit hb, hexValue?_of_hexDigit hc,
      hexValue?_of_hexDigit hd]

theorem codePoint_of_code {n : Nat} {t r : List Char} (h : HexFour n t r)
    (hrange : n < 0xD800 ∨ 0xDFFF < n) : codePoint t = .ok (Char.ofNat n, r) := by
  have hlow : isLowSurrogate n = false := by
    simp only [isLowSurrogate, Bool.and_eq_false_iff, decide_eq_false_iff_not]
    omega
  have hhigh : isHighSurrogate n = false := by
    simp only [isHighSurrogate, Bool.and_eq_false_iff, decide_eq_false_iff_not]
    omega
  rw [codePoint, hexFour_of_hexFour h]
  simp [hlow, hhigh]

theorem codePoint_of_pair {high low : Nat} {t u r : List Char}
    (hhigh : HexFour high t ('\\' :: 'u' :: u)) (hlow : HexFour low u r)
    (hhighRange : 0xD800 ≤ high ∧ high ≤ 0xDBFF) (hlowRange : 0xDC00 ≤ low ∧ low ≤ 0xDFFF) :
    codePoint t = .ok (Char.ofNat (0x10000 + (high - 0xD800) * 0x400 + (low - 0xDC00)), r) := by
  have hfirst : isLowSurrogate high = false := by
    simp only [isLowSurrogate, Bool.and_eq_false_iff, decide_eq_false_iff_not]
    omega
  have hsecond : isLowSurrogate low = true := by
    simpa only [isLowSurrogate, Bool.and_eq_true, decide_eq_true_eq] using hlowRange
  have hpair : isHighSurrogate high = true := by
    simpa only [isHighSurrogate, Bool.and_eq_true, decide_eq_true_eq] using hhighRange
  rw [codePoint, hexFour_of_hexFour hhigh]
  simp [hfirst, hpair, lowSurrogate, hexFour_of_hexFour hlow, hsecond]

theorem quotationStep_backslash {c : Char} {cs rest : List Char} (h : escaped cs = .ok (c, rest))
    (sofar : List Char) : quotationStep sofar ('\\' :: cs) = .ok (.again (c :: sofar), rest) := by
  rw [quotationStep, if_neg (by decide), if_pos rfl, h]

/-- **A text that is spelled is read.** -/
theorem quotation_of_spells {s t r : List Char} (h : Spells s t r) :
    quotation t = .ok (String.ofList s, r) := by
  have hletter : ∀ c, ('u', c) ∉ shortEscapes := by simp [shortEscapes]
  have hloop : ∀ sofar,
      iterate quotationStep sofar t = .ok (String.ofList (sofar.reverse ++ s), r) := by
    induction h with
    | close =>
      intro sofar
      rw [iterate_eq advances_quotationStep, List.append_nil]
      rfl
    | plain hc _ ih =>
      intro sofar
      rw [iterate_eq advances_quotationStep, quotationStep, if_neg hc.1, if_neg hc.2.1,
        if_neg (Nat.not_lt.2 hc.2.2)]
      simpa using ih (_ :: sofar)
    | @escape e c s t r he _ ih =>
      intro sofar
      have hu : e ≠ 'u' := fun hu => hletter c (hu ▸ he)
      have hstep : escaped (e :: t) = .ok (c, t) := by
        rw [escaped, if_neg hu, mem_shortEscapes_iff.1 he]
      rw [iterate_eq advances_quotationStep, quotationStep_backslash hstep]
      simpa using ih (_ :: sofar)
    | code hn hrange _ ih =>
      intro sofar
      rw [iterate_eq advances_quotationStep,
        quotationStep_backslash (by rw [escaped, if_pos rfl, codePoint_of_code hn hrange])]
      simpa using ih (_ :: sofar)
    | pair hhigh hlow hhighRange hlowRange _ ih =>
      intro sofar
      rw [iterate_eq advances_quotationStep,
        quotationStep_backslash (by
          rw [escaped, if_pos rfl, codePoint_of_pair hhigh hlow hhighRange hlowRange])]
      simpa using ih (_ :: sofar)
  exact hloop []

/-- A string spells one text only. -/
theorem Grammar.Spells.unique {s s' t r r' : List Char} (h : Spells s t r) (h' : Spells s' t r') :
    s = s' ∧ r = r' := by
  have heq := (quotation_of_spells h).symm.trans (quotation_of_spells h')
  simpa [String.ofList_inj] using heq

/-! ## Members -/

theorem nameAfterComma_of_quote {s cs t r : List Char} (h : Blanks cs ('"' :: t))
    (hname : Spells s t r) : nameAfterComma cs = .ok (some (String.ofList s), r) := by
  rw [nameAfterComma, skipSpace_eq_cons h rfl]
  simp [quotation_of_spells hname]

/-- The name of a member is found. -/
theorem nextName_of_quote {first : Bool} {s cs t r : List Char} (h : Separator first cs ('"' :: t))
    (hname : Spells s t r) : nextName first cs = .ok (some (String.ofList s), r) := by
  cases h with
  | first h =>
    rw [nextName, skipSpace_eq_cons h rfl]
    simp [nameAfterComma_of_quote .none hname]
  | comma h h' =>
    rw [nextName, skipSpace_eq_cons h rfl]
    simp [nameAfterComma_of_quote h' hname]

/-- The closing bracket is found, and stays. -/
theorem nextName_of_brace {cs r : List Char} (h : Blanks cs ('\x7d' :: r)) (first : Bool) :
    nextName first cs = .ok (none, '\x7d' :: r) := by
  rw [nextName, skipSpace_eq_cons h rfl]
  simp

theorem colon_of_blanks {cs r : List Char} (h : Blanks cs (':' :: r)) : colon cs = .ok r := by
  rw [colon, skipSpace_eq_cons h rfl]
  simp

/-! ## Values of a wanted kind -/

/-- A value is a scalar, or begins with its bracket. -/
theorem Grammar.IsValue.scalar_or {shape : Shape} {t r : List Char} (h : IsValue shape t r) :
    Scalar shape t r ∨ (shape = .array ∧ ∃ u, t = '[' :: u) ∨
      (shape = .object ∧ ∃ u, t = '\x7b' :: u) := by
  obtain ⟨depth, h⟩ := h
  cases depth with
  | zero => exact .inl h
  | succ depth =>
    cases h with
    | scalar h => exact .inl h
    | array => exact .inr (.inl ⟨rfl, _, rfl⟩)
    | object => exact .inr (.inr ⟨rfl, _, rfl⟩)

/-- What a value begins with is no blank. -/
theorem Grammar.IsValue.head {shape : Shape} {t r : List Char} (h : IsValue shape t r) :
    ∃ c cs, t = c :: cs ∧ isSpace c = false := by
  rcases h.scalar_or with hscalar | ⟨-, u, rfl⟩ | ⟨-, u, rfl⟩
  · cases hscalar with
    | number hnumber =>
      obtain ⟨c, cs, rfl, hc⟩ := hnumber.head
      refine ⟨c, _, rfl, ?_⟩
      rcases hc with rfl | hc
      · rfl
      · exact isSpace_of_isDigit hc
    | null | yes | no | string | brokenString => exact ⟨_, _, rfl, rfl⟩
  · exact ⟨_, _, rfl, rfl⟩
  · exact ⟨_, _, rfl, rfl⟩

theorem Grammar.IsValue.of_string {s : String} {t r : List Char} (h : IsValue (.string s) t r) :
    ∃ u, t = '"' :: u ∧ Spells s.toList u r := by
  rcases h.scalar_or with hscalar | ⟨hshape, -⟩ | ⟨hshape, -⟩
  · cases hscalar with
    | string hs => exact ⟨_, rfl, hs⟩
  · exact absurd hshape (by simp)
  · exact absurd hshape (by simp)

/-- What is read as a value of a wanted kind is a scalar of that kind, after blanks. -/
theorem wanted_sound {α : Type} {expected : String} {select : Value → Option α}
    {cs rest : List Char} {a : α} (h : wanted expected select cs = .ok (a, rest)) :
    ∃ v shape t, Blanks cs t ∧ Scalar shape t rest ∧ HasShape v shape ∧ select v = some a := by
  have hopening := blanks_opening cs
  rw [wanted] at h
  split at h
  · exact absurd h (by simp [fault])
  · exact absurd h (by simp [fault])
  · rename_i other hother
    rw [hother] at hopening
    split at h
    · exact absurd h (by simp)
    · rename_i hscalar
      obtain ⟨shape, hshape, hsame⟩ := scalar_sound hscalar
      split at h
      · rename_i hselect
        cases h
        exact ⟨_, shape, _, hopening, hshape, hsame, hselect⟩
      · exact absurd h (by simp [fault])

/-- What begins with no bracket is left where it is. -/
theorem opening_of_other {c : Char} {cs t : List Char} (h : Blanks cs (c :: t))
    (hspace : isSpace c = false) (hlist : c ≠ '[') (hobject : c ≠ '\x7b') :
    opening cs = .other (c :: t) := by
  rw [opening, skipSpace_eq_cons h hspace]
  simp [hlist, hobject]

section Records

variable {α : Type} {type : String} {named listed : Reader α} {cs t : List Char}

theorem opening_of_brace (h : Blanks cs ('\x7b' :: t)) : opening cs = .object t := by
  rw [opening, skipSpace_eq_cons h rfl]
  simp

theorem record_of_object {a : α} {r : List Char} (h : Blanks cs ('\x7b' :: t))
    (hnamed : named t = .ok (a, '\x7d' :: r)) : record type named listed cs = .ok (a, r) := by
  have hclose : closeObject ('\x7d' :: r) = r := rfl
  rw [record, opening_of_brace h]
  simp [inObject, hnamed, hclose]

theorem document_of_blanks {read : Reader α} {text : String} {a : α} {r : List Char}
    (hread : read text.toList = .ok (a, r)) (hr : Blanks r []) : document read text = .ok a := by
  rw [document, hread]
  simp only [atEnd, skipSpace_of_blanks hr]
  rfl

end Records

/-! ## What is left is shorter -/

theorem Grammar.Blanks.length_le {t u : List Char} (h : Blanks t u) : u.length ≤ t.length := by
  induction h with
  | none => exact Nat.le_refl _
  | more _ _ ih => exact Nat.le_succ_of_le ih

theorem Grammar.Separator.length_le {first : Bool} {t u : List Char} (h : Separator first t u) :
    u.length ≤ t.length := by
  cases h with
  | first h => exact h.length_le
  | comma h h' => exact Nat.le_trans h'.length_le (Nat.le_trans (Nat.le_succ _) h.length_le)

theorem Grammar.HexFour.length_lt {n : Nat} {t u : List Char} (h : HexFour n t u) :
    u.length < t.length := by
  cases h
  simp only [List.length_cons]
  omega

theorem Grammar.Quoted.length_lt {t r : List Char} (h : Quoted t r) : r.length < t.length := by
  induction h with
  | close => exact Nat.lt_succ_self _
  | plain _ _ ih => exact Nat.lt_succ_of_lt ih
  | escape _ _ ih => exact Nat.lt_succ_of_lt (Nat.lt_succ_of_lt ih)
  | code hn _ ih =>
    have := hn.length_lt
    simp only [List.length_cons]
    omega

end Json
end AccountingPage
