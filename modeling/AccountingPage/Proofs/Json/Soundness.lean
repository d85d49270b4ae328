import Mathlib.Data.List.TakeWhile
import Mathlib.Tactic.SplitIfs
import AccountingPage.Json.Reader
import AccountingPage.Json.Skip
import AccountingPage.Proofs.Json.Grammar

/-!
# What the readers take

Whatever a reader takes is a text of the grammar.  Nothing is said about the faults: a reader may
refuse what the grammar allows, such as a number that is out of range or too many brackets.

* `iterate_induction` is how a loop is dealt with.
* `spells_quotation` and `numeral_sound` are about strings and numbers.
* `value_sound` is about values that are kept, `skipValue_sound` about those that are passed over.
* `record_sound` and `document_sound` are about the two forms of a record and about whole texts.
-/

set_option autoImplicit false

namespace AccountingPage
namespace Json

open Grammar

variable {α σ ρ : Type}

/-- What a loop has read, if it comes to an end: something that is true of a turn that leaves, and
goes over from the rest to the whole at any other turn. -/
theorem iterate_induction {step : σ → Reader (Turn σ ρ)}
    {P : σ → List Char → ρ → List Char → Prop}
    (leave : ∀ s cs a rest, step s cs = .ok (.leave a, rest) → P s cs a rest)
    (again : ∀ s cs s' mid a rest, step s cs = .ok (.again s', mid) → P s' mid a rest →
      P s cs a rest)
    {s : σ} {cs : List Char} {a : ρ} {rest : List Char}
    (h : iterate step s cs = .ok (a, rest)) : P s cs a rest := by
  rw [iterate] at h
  generalize cs.length + 1 = turns at h
  induction turns generalizing s cs with
  | zero => exact absurd h (by simp [iterateFor, fault])
  | succ turns ih =>
    rw [iterateFor] at h
    split at h
    · exact absurd h (by simp)
    · rename_i hstep
      cases h
      exact leave _ _ _ _ hstep
    · rename_i hstep
      exact again _ _ _ _ _ _ hstep (ih h)

/-! ## Blanks and words -/

theorem blanks_skipSpace (cs : List Char) : Blanks cs (skipSpace cs) := by
  induction cs with
  | nil => exact .none
  | cons c cs ih =>
    by_cases hc : isSpace c = true
    · rw [skipSpace, List.dropWhile_cons_of_pos hc]
      exact .more hc ih
    · rw [skipSpace, List.dropWhile_cons_of_neg hc]
      exact .none

theorem blanks_of_skipSpace {cs rest : List Char} (h : skipSpace cs = rest) : Blanks cs rest :=
  h ▸ blanks_skipSpace cs

theorem eq_append_of_word {ws cs rest : List Char} (h : word ws cs = .ok rest) :
    cs = ws ++ rest := by
  induction ws generalizing cs with
  | nil =>
    cases h
    rfl
  | cons w ws ih =>
    cases cs with
    | nil => exact absurd h (by simp [word, fault])
    | cons c cs =>
      rw [word] at h
      split at h
      · rename_i hc
        rw [hc, ih h, List.cons_append]
      · exact absurd h (by simp [faultPast])

/-! ## Strings -/

/-- The digits are among the first 103 characters, and these are looked at one by one. -/
theorem hexDigit_ofNat : ∀ n < 103, ∀ v, hexValue? (Char.ofNat n) = some v →
    HexDigit v (Char.ofNat n) := by
  have hall : ∀ n < 103, (hexValue? (Char.ofNat n)).all fun v =>
      v < 16 ∧ (Char.ofNat n = Nat.digitChar v ∨ Char.ofNat n = (Nat.digitChar v).toUpper) := by
    decide
  intro n hn v hv
  have := hall n hn
  rw [hv] at this
  simpa [HexDigit] using this

/-- No character after `f` is a digit. -/
theorem hexDigit_of_hexValue? {c : Char} {v : Nat} (h : hexValue? c = some v) : HexDigit v c := by
  have hsmall : c.toNat < 103 := by
    refine Nat.lt_of_not_le fun hge => ?_
    have hlast : ∀ d : Char, d.toNat < 103 → ¬c ≤ d := fun d hd hle => by
      have hle : c.toNat ≤ d.toNat := hle
      omega
    rw [hexValue?, if_neg fun hc => hlast '9' (by decide) hc.2,
      if_neg fun hc => hlast 'f' (by decide) hc.2,
      if_neg fun hc => hlast 'F' (by decide) hc.2] at h
    exact absurd h (by simp)
  have hdigit := hexDigit_ofNat c.toNat hsmall v
  rw [Char.ofNat_toNat] at hdigit
  exact hdigit h

theorem hexFour_sound {cs rest : List Char} {n : Nat} (h : hexFour cs = .ok (n, rest)) :
    HexFour n cs rest := by
  unfold hexFour at h
  split at h
  · split at h
    · rename_i ha hb hc hd
      cases h
      exact .digits (hexDigit_of_hexValue? ha) (hexDigit_of_hexValue? hb)
        (hexDigit_of_hexValue? hc) (hexDigit_of_hexValue? hd)
    · exact absurd h (by simp [hexFault])
  · exact absurd h (by simp [hexFault])

/-- The table of the grammar and the case distinction of the reader list the same escapes. -/
theorem mem_shortEscapes_iff {e c : Char} : (e, c) ∈ shortEscapes ↔ shortEscape? e = some c := by
  constructor
  · intro h
    simp only [shortEscapes, List.mem_cons, Prod.mk.injEq, List.not_mem_nil, or_false] at h
    rcases h with h | h | h | h | h | h | h | h <;> rw [h.1, h.2] <;> rfl
  · intro h
    unfold shortEscape? at h
    split at h
    all_goals first
      | cases h; decide
      | exact absurd h (by simp)

/-- The second half of a surrogate pair. -/
theorem lowSurrogate_sound {cs rest : List Char} {n : Nat} (h : lowSurrogate cs = .ok (n, rest)) :
    ∃ u, cs = '\\' :: 'u' :: u ∧ HexFour n u rest ∧ 0xDC00 ≤ n ∧ n ≤ 0xDFFF := by
  unfold lowSurrogate at h
  split at h
  · exact absurd h (by simp [fault])
  · exact absurd h (by simp [fault])
  · split at h
    · exact absurd h (by simp)
    · rename_i hx
      split at h
      · rename_i hlow
        cases h
        simp only [isLowSurrogate, Bool.and_eq_true, decide_eq_true_eq] at hlow
        exact ⟨_, rfl, hexFour_sound hx, hlow⟩
      · exact absurd h (by simp [fault])
  · exact absurd h (by simp [faultPast])
  · exact absurd h (by simp [faultPast])

/-- An escape by code point, in front of the rest of a string. -/
theorem codePoint_sound {cs rest s r : List Char} {c : Char} (h : codePoint cs = .ok (c, rest))
    (hs : Spells s rest r) : Spells (c :: s) ('\\' :: 'u' :: cs) r := by
  unfold codePoint at h
  split at h
  · exact absurd h (by simp)
  · rename_i n mid hn
    have hfour := hexFour_sound hn
    split at h
    · exact absurd h (by simp [fault])
    · rename_i hlow
      split at h
      · rename_i hhigh
        split at h
        · exact absurd h (by simp)
        · rename_i m rest' hm
          obtain ⟨rfl, rfl⟩ := Prod.mk.inj (Except.ok.inj h)
          obtain ⟨u, rfl, hsecond, hrange⟩ := lowSurrogate_sound hm
          simp only [isHighSurrogate, Bool.and_eq_true, decide_eq_true_eq] at hhigh
          exact .pair hfour hsecond hhigh hrange hs
      · rename_i hhigh
        cases h
        simp only [isHighSurrogate, isLowSurrogate, Bool.and_eq_true, decide_eq_true_eq] at hhigh hlow
        exact .code hfour (by omega) hs

/-- Any escape, in front of the rest of a string. -/
theorem escaped_sound {cs rest s r : List Char} {c : Char} (h : escaped cs = .ok (c, rest))
    (hs : Spells s rest r) : Spells (c :: s) ('\\' :: cs) r := by
  unfold escaped at h
  split at h
  · exact absurd h (by simp [fault])
  · split at h
    · rename_i hu
      subst hu
      exact codePoint_sound h hs
    · split at h
      · rename_i hd
        cases h
        exact .escape (mem_shortEscapes_iff.2 hd) hs
      · exact absurd h (by simp [faultPast])

/-- The loop over a string leaves at the closing quote. -/
theorem quotationStep_leave {sofar cs rest : List Char} {s : String}
    (h : quotationStep sofar cs = .ok (.leave s, rest)) :
    cs = '"' :: rest ∧ s.toList = sofar.reverse := by
  unfold quotationStep at h
  split at h
  · exact absurd h (by simp [fault])
  · split at h
    · rename_i hquote
      cases h
      exact ⟨by rw [hquote], String.toList_ofList⟩
    · split at h
      · split at h <;> exact absurd h (by simp)
      · split at h <;> exact absurd h (by simp [faultPast])

/-- Every other turn takes what spells one character. -/
theorem quotationStep_again {sofar sofar' cs rest : List Char}
    (h : quotationStep sofar cs = .ok (.again sofar', rest)) :
    ∃ c, sofar' = c :: sofar ∧ ∀ s r, Spells s rest r → Spells (c :: s) cs r := by
  unfold quotationStep at h
  split at h
  · exact absurd h (by simp [fault])
  · split at h
    · exact absurd h (by simp)
    · rename_i hquote
      split at h
      · rename_i hslash
        split at h
        · exact absurd h (by simp)
        · rename_i hd
          cases h
          exact ⟨_, rfl, fun s r hs => hslash ▸ escaped_sound hd hs⟩
      · rename_i hslash
        split at h
        · exact absurd h (by simp [faultPast])
        · rename_i hcontrol
          cases h
          exact ⟨_, rfl, fun s r hs => .plain ⟨hquote, hslash, Nat.le_of_not_lt hcontrol⟩ hs⟩

/-- **A string that is read is spelled by what was taken.** -/
theorem spells_quotation {cs rest : List Char} {s : String} (h : quotation cs = .ok (s, rest)) :
    Spells s.toList cs rest := by
  have hloop : ∃ tail, Spells tail cs rest ∧ s.toList = [].reverse ++ tail := by
    refine iterate_induction (P := fun sofar cs s rest =>
      ∃ tail, Spells tail cs rest ∧ s.toList = sofar.reverse ++ tail) ?_ ?_ h
    · intro sofar cs s rest hstep
      obtain ⟨rfl, hs⟩ := quotationStep_leave hstep
      exact ⟨[], .close, by simpa using hs⟩
    · intro sofar cs sofar' mid s rest hstep ⟨tail, htail, hs⟩
      obtain ⟨c, rfl, hc⟩ := quotationStep_again hstep
      exact ⟨c :: tail, hc tail rest htail, by simpa using hs⟩
  obtain ⟨tail, htail, hs⟩ := hloop
  rw [hs]
  exact htail

/-! ## Numbers -/

/-- The digits that a text begins with, if there are any. -/
theorem digits_of_takeWhile {cs ds : List Char} (h : cs.takeWhile Char.isDigit = ds)
    (hne : ds ≠ []) : Digits ds :=
  ⟨hne, fun _ hc => List.mem_takeWhile_imp (h ▸ hc)⟩

theorem eq_append_of_span {cs ds rest : List Char} (hds : cs.takeWhile Char.isDigit = ds)
    (hrest : cs.dropWhile Char.isDigit = rest) : cs = ds ++ rest := by
  rw [← hds, ← hrest, List.takeWhile_append_dropWhile]

/-- Scaling a number takes nothing from the text. -/
theorem toNumber_rest {s : Scaled} {negative : Bool} {cs rest : List Char} {n : Number}
    (h : s.toNumber negative cs = .ok (n, rest)) : cs = rest := by
  rw [Scaled.toNumber] at h
  split at h
  · cases h
    rfl
  · exact absurd h (by simp [fault])

theorem fraction_sound {s s' : Scaled} {cs rest : List Char}
    (h : fraction s cs = .ok (s', rest)) : ∃ f, Fraction f ∧ cs = f ++ rest := by
  unfold fraction at h
  split at h
  · rename_i cs
    dsimp only at h
    generalize hds : cs.takeWhile Char.isDigit = ds at h
    generalize hrest : cs.dropWhile Char.isDigit = r at h
    split at h
    · exact absurd h (by simp [faultPast])
    · exact absurd h (by simp [faultPast])
    · rename_i hnil _
      cases h
      exact ⟨'.' :: _, .some (digits_of_takeWhile hds hnil),
        by rw [eq_append_of_span hds hrest, List.cons_append]⟩
  · cases h
    exact ⟨[], .none, rfl⟩

/-- The digits of an exponent are taken even where the number counts as zero. -/
theorem exponentDigits_sound {s : Scaled} {negative down : Bool} {cs rest : List Char} {n : Number}
    (h : exponentDigits s negative down cs = .ok (n, rest)) :
    ∃ ds, Digits ds ∧ cs = ds ++ rest := by
  unfold exponentDigits at h
  generalize hds : cs.takeWhile Char.isDigit = ds at h
  generalize hrest : cs.dropWhile Char.isDigit = r at h
  split at h
  · exact absurd h (by simp [fault])
  · exact absurd h (by simp [faultPast])
  · rename_i hnil _
    refine ⟨_, digits_of_takeWhile hds hnil, ?_⟩
    rw [eq_append_of_span hds hrest]
    split at h
    · rw [toNumber_rest h]
    · split at h
      · exact absurd h (by simp [fault])
      · cases h
        rfl

/-- A sign, if there is one. -/
theorem splitSign_sound (cs : List Char) :
    ∃ sign, (sign = [] ∨ sign = ['+'] ∨ sign = ['-']) ∧ cs = sign ++ (Text.splitSign cs).2 := by
  unfold Text.splitSign
  split
  · exact ⟨['-'], .inr (.inr rfl), rfl⟩
  · exact ⟨['+'], .inr (.inl rfl), rfl⟩
  · exact ⟨[], .inl rfl, rfl⟩

theorem power_sound {s : Scaled} {negative : Bool} {cs rest : List Char} {n : Number}
    (h : power s negative cs = .ok (n, rest)) : ∃ e, Exponent e ∧ cs = e ++ rest := by
  have hexponent : ∀ {e : Char} {cs : List Char}, e = 'e' ∨ e = 'E' →
      exponentDigits s negative (Text.splitSign cs).1 (Text.splitSign cs).2 = .ok (n, rest) →
      ∃ t, Exponent t ∧ e :: cs = t ++ rest := by
    intro e cs he hdigits
    obtain ⟨sign, hsign, hcs⟩ := splitSign_sound cs
    obtain ⟨ds, hds, hrest⟩ := exponentDigits_sound hdigits
    refine ⟨e :: (sign ++ ds), .some he hsign hds, ?_⟩
    rw [hcs, hrest, List.cons_append, List.append_assoc]
  unfold power at h
  split at h
  · exact hexponent (.inl rfl) h
  · exact hexponent (.inr rfl) h
  · exact ⟨[], .none, toNumber_rest h⟩

/-- **A number that is read is one**, after its minus sign. -/
theorem numeral_sound {negative : Bool} {cs rest : List Char} {n : Number}
    (h : numeral negative cs = .ok (n, rest)) : ∃ t, Numeral t ∧ cs = t ++ rest := by
  unfold numeral at h
  generalize hds : cs.takeWhile Char.isDigit = ds at h
  generalize hrest : cs.dropWhile Char.isDigit = r at h
  have hcs := eq_append_of_span hds hrest
  split at h
  · exact absurd h (by simp [fault])
  · exact absurd h (by simp [faultPast])
  · exact absurd h (by simp [faultPast])
  · rename_i hnil hzero _
    have hwhole : Whole ds := by
      refine ⟨digits_of_takeWhile hds hnil, fun hhead => ?_⟩
      obtain ⟨digits, hdigits⟩ := List.head?_eq_some_iff.1 hhead
      cases digits with
      | nil => exact hdigits
      | cons d digits => exact absurd hdigits (hzero d digits)
    dsimp only at h
    split at h
    · cases h
      exact ⟨ds ++ [] ++ [], .parts hwhole .none .none, by simpa using hcs⟩
    · split at h
      · exact absurd h (by simp)
      · rename_i hfraction
        obtain ⟨f, hf, hr⟩ := fraction_sound hfraction
        obtain ⟨e, he, hmid⟩ := power_sound h
        exact ⟨ds ++ f ++ e, .parts hwhole hf he, by simp [hcs, hr, hmid]⟩

/-! ## Values without brackets -/

/-- A value and its shape. -/
inductive HasShape : Value → Shape → Prop where
  | null : HasShape .null .null
  | boolean (b : Bool) : HasShape (.boolean b) (.boolean b)
  | number (n : Number) (text : List Char) : HasShape (.number n) (.number text)
  | string (s : String) : HasShape (.string s) (.string s)
  | array (items : List Value) : HasShape (.array items) .array
  | object (members : List (String × Value)) : HasShape (.object members) .object

theorem numberValue_sound {negative : Bool} {cs rest : List Char} {v : Value}
    (h : numberValue negative cs = .ok (v, rest)) :
    ∃ n t, v = .number n ∧ Numeral t ∧ cs = t ++ rest := by
  rw [numberValue] at h
  split at h
  · exact absurd h (by simp)
  · rename_i hn
    cases h
    obtain ⟨t, ht, hcs⟩ := numeral_sound hn
    exact ⟨_, t, rfl, ht, hcs⟩

theorem literal_sound {letters cs rest : List Char} {w v : Value}
    (h : literal letters w cs = .ok (v, rest)) : v = w ∧ cs = letters ++ rest := by
  rw [literal] at h
  split at h
  · exact absurd h (by simp)
  · rename_i hword
    cases h
    exact ⟨rfl, eq_append_of_word hword⟩

/-- **A value without brackets that is read is one.**  The first character decides which. -/
theorem scalar_sound {cs rest : List Char} {v : Value} (h : scalar cs = .ok (v, rest)) :
    ∃ shape, Scalar shape cs rest ∧ HasShape v shape := by
  cases cs with
  | nil => exact absurd h (by simp [scalar, faultPast])
  | cons c cs =>
    rw [scalar] at h
    split at h
    case isTrue hquote =>
      split at h
      · exact absurd h (by simp)
      · rename_i hs
        cases h
        exact ⟨.string _, hquote ▸ .string (spells_quotation hs), .string _⟩
    case isFalse =>
      split at h
      case isTrue hminus =>
        obtain ⟨n, t, rfl, ht, rfl⟩ := numberValue_sound h
        subst hminus
        exact ⟨.number ('-' :: t), .number (.negative ht), .number ..⟩
      case isFalse =>
        split at h
        case isTrue =>
          obtain ⟨n, t, rfl, ht, hcs⟩ := numberValue_sound h
          exact ⟨.number t, hcs ▸ .number (.plain ht), .number ..⟩
        case isFalse =>
          split at h
          case isTrue hletter =>
            obtain ⟨rfl, rfl⟩ := literal_sound h
            exact ⟨.boolean true, hletter ▸ .yes, .boolean _⟩
          case isFalse =>
            split at h
            case isTrue hletter =>
              obtain ⟨rfl, rfl⟩ := literal_sound h
              exact ⟨.boolean false, hletter ▸ .no, .boolean _⟩
            case isFalse =>
              split at h
              case isTrue hletter =>
                obtain ⟨rfl, rfl⟩ := literal_sound h
                exact ⟨.null, hletter ▸ .null, .null⟩
              case isFalse => exact absurd h (by simp [faultPast])

/-! ## Between brackets -/

section Pieces

variable {P : α → List Char → List Char → Prop} {first : Bool} {cs mid rest : List Char}

/-- Something of which `P` is true, after blanks. -/
def Takes (P : α → List Char → List Char → Prop) (cs rest : List Char) : Prop :=
  ∃ a t, Blanks cs t ∧ P a t rest

theorem Grammar.Separator.trans {t u v : List Char} (h : Separator first t u) (h' : Blanks u v) :
    Separator first t v := by
  cases h with
  | first h => exact .first (h.trans h')
  | comma hcomma h => exact .comma hcomma (h.trans h')

/-- There is another item: behind a comma, unless it is the first. -/
theorem nextItem_true (h : nextItem first cs = .ok (true, mid)) : Separator first cs mid := by
  rw [nextItem] at h
  split at h
  · exact absurd h (by simp [faultPast])
  · rename_i c rest hcs
    split at h
    · exact absurd h (by simp)
    · split at h
      · rename_i hfirst
        cases h
        exact hfirst ▸ .first (blanks_of_skipSpace hcs)
      · rename_i hfirst
        rw [Bool.not_eq_true] at hfirst
        split at h
        · rename_i hcomma
          split at h
          · exact absurd h (by simp [faultPast])
          · rename_i hrest
            split at h
            · exact absurd h (by simp [faultPast])
            · cases h
              exact hfirst ▸ .comma (hcomma ▸ blanks_of_skipSpace hcs) (blanks_of_skipSpace hrest)
        · exact absurd h (by simp [faultPast])

/-- There is no other item: the bracket closes. -/
theorem nextItem_false (h : nextItem first cs = .ok (false, mid)) :
    ∃ r, mid = ']' :: r ∧ Blanks cs (']' :: r) := by
  rw [nextItem] at h
  split at h
  · exact absurd h (by simp [faultPast])
  · rename_i c rest hcs
    split at h
    · rename_i hclose
      cases h
      exact ⟨rest, by rw [hclose], hclose ▸ blanks_of_skipSpace hcs⟩
    · split at h
      · exact absurd h (by simp)
      · split at h
        · split at h
          · exact absurd h (by simp [faultPast])
          · split at h <;> exact absurd h (by simp [faultPast])
        · exact absurd h (by simp [faultPast])

/-- Behind a comma a name must come. -/
theorem nameAfterComma_sound {name : Option String} (h : nameAfterComma cs = .ok (name, rest)) :
    ∃ s t, name = some s ∧ Blanks cs ('"' :: t) ∧ Spells s.toList t rest := by
  rw [nameAfterComma] at h
  split at h
  · exact absurd h (by simp [faultPast])
  · rename_i c t hcs
    split at h
    · rename_i hquote
      split at h
      · exact absurd h (by simp)
      · rename_i hs
        cases h
        exact ⟨_, t, rfl, hquote ▸ blanks_of_skipSpace hcs, spells_quotation hs⟩
    · split at h <;> exact absurd h (by simp [faultPast])

/-- There is another member, and this is its name. -/
theorem nextName_some {name : String} (h : nextName first cs = .ok (some name, rest)) :
    ∃ t, Separator first cs ('"' :: t) ∧ Spells name.toList t rest := by
  rw [nextName] at h
  split at h
  · exact absurd h (by simp [faultPast])
  · rename_i c mid hcs
    have hblanks := blanks_of_skipSpace hcs
    split at h
    · exact absurd h (by simp)
    · split at h
      · rename_i hfirst
        split at h
        · obtain ⟨s, t, hname, ht, hs⟩ := nameAfterComma_sound h
          cases hname
          exact ⟨t, hfirst ▸ .first (hblanks.trans ht), hs⟩
        · exact absurd h (by simp [faultPast])
      · rename_i hfirst
        rw [Bool.not_eq_true] at hfirst
        split at h
        · rename_i hcomma
          obtain ⟨s, t, hname, ht, hs⟩ := nameAfterComma_sound h
          cases hname
          exact ⟨t, hfirst ▸ .comma (hcomma ▸ hblanks) ht, hs⟩
        · exact absurd h (by simp [faultPast])

/-- There is no other member: the bracket closes. -/
theorem nextName_none (h : nextName first cs = .ok (none, mid)) :
    ∃ r, mid = '\x7d' :: r ∧ Blanks cs ('\x7d' :: r) := by
  rw [nextName] at h
  split at h
  · exact absurd h (by simp [faultPast])
  · rename_i c rest hcs
    split at h
    · rename_i hclose
      cases h
      exact ⟨rest, by rw [hclose], hclose ▸ blanks_of_skipSpace hcs⟩
    · have hnone : ∀ cs, nameAfterComma cs ≠ .ok (none, mid) := fun cs hname => by
        obtain ⟨_, _, h, -⟩ := nameAfterComma_sound hname
        cases h
      split at h
      · split at h
        · exact absurd h (hnone _)
        · exact absurd h (by simp [faultPast])
      · split at h
        · exact absurd h (hnone _)
        · exact absurd h (by simp [faultPast])

theorem blanks_of_colon (h : colon cs = .ok rest) : Blanks cs (':' :: rest) := by
  rw [colon] at h
  split at h
  · exact absurd h (by simp [faultPast])
  · rename_i c mid hcs
    split at h
    · rename_i hcolon
      cases h
      exact hcolon ▸ blanks_of_skipSpace hcs
    · exact absurd h (by simp [faultPast])

/-- A loop reads pieces if it leaves at the closing bracket, and every other turn takes a piece with
what comes before it. -/
theorem pieces_iterate {step : σ → Reader (Turn σ ρ)} (first : σ → Bool) {close : Char}
    (leave : ∀ s cs a rest, step s cs = .ok (.leave a, rest) → Blanks cs (close :: rest))
    (again : ∀ s cs s' rest, step s cs = .ok (.again s', rest) →
      first s' = false ∧ ∃ x t, Separator (first s) cs t ∧ P x t rest)
    {s : σ} {a : ρ} (h : iterate step s cs = .ok (a, rest)) :
    ∃ xs, Pieces P close (first s) xs cs rest := by
  refine iterate_induction (P := fun s cs _ rest => ∃ xs, Pieces P close (first s) xs cs rest)
    (fun s cs a rest hstep => ⟨[], .close (leave s cs a rest hstep)⟩) ?_ h
  intro s cs s' mid a rest hstep ⟨xs, hxs⟩
  obtain ⟨hfirst, x, t, hsep, hx⟩ := again s cs s' mid hstep
  exact ⟨x :: xs, .piece hsep hx (hfirst ▸ hxs)⟩

/-- The items of a list that is kept. -/
theorem items_sound {β : Type} {read : Reader β}
    (hread : ∀ cs b rest, read cs = .ok (b, rest) → Takes P cs rest) {bs : List β}
    (h : items read cs = .ok (bs, rest)) : ∃ xs, Pieces P ']' true xs cs rest := by
  refine pieces_iterate List.isEmpty ?_ ?_ h
  · intro sofar cs bs rest hstep
    rw [itemStep] at hstep
    split at hstep
    · exact absurd hstep (by simp)
    · rename_i hnext
      obtain ⟨r, rfl, hr⟩ := nextItem_false hnext
      cases hstep
      exact hr
    · split at hstep <;> exact absurd hstep (by simp)
  · intro sofar cs sofar' rest hstep
    rw [itemStep] at hstep
    split at hstep
    · exact absurd hstep (by simp)
    · exact absurd hstep (by simp)
    · rename_i hnext
      split at hstep
      · exact absurd hstep (by simp)
      · rename_i hb
        cases hstep
        obtain ⟨x, t, ht, hx⟩ := hread _ _ _ hb
        exact ⟨rfl, x, t, (nextItem_true hnext).trans ht, hx⟩

/-- The members of an object that is kept. -/
theorem members_sound {β : Type} {read : Reader β}
    (hread : ∀ cs b rest, read cs = .ok (b, rest) → Takes P cs rest) {ms : List (String × β)}
    (h : members read cs = .ok (ms, rest)) :
    ∃ xs : List (Unit × α), Pieces (Member (fun _ => Quoted) P) '\x7d' true xs cs rest := by
  refine pieces_iterate List.isEmpty ?_ ?_ h
  · intro sofar cs ms rest hstep
    rw [memberStep] at hstep
    split at hstep
    · exact absurd hstep (by simp)
    · rename_i hnext
      obtain ⟨r, rfl, hr⟩ := nextName_none hnext
      cases hstep
      exact hr
    · split at hstep
      · exact absurd hstep (by simp)
      · split at hstep <;> exact absurd hstep (by simp)
  · intro sofar cs sofar' rest hstep
    rw [memberStep] at hstep
    split at hstep
    · exact absurd hstep (by simp)
    · exact absurd hstep (by simp)
    · rename_i hnext
      split at hstep
      · exact absurd hstep (by simp)
      · rename_i hcolon
        split at hstep
        · exact absurd hstep (by simp)
        · rename_i hb
          cases hstep
          obtain ⟨t, hsep, hname⟩ := nextName_some hnext
          obtain ⟨x, u, hu, hx⟩ := hread _ _ _ hb
          exact ⟨rfl, ((), x), _, hsep, .colon hname.quoted (blanks_of_colon hcolon) hu hx⟩

end Pieces

/-! ## Values that are kept -/

/-- What was left when the bracket was looked for. -/
def Opening.text : Opening → List Char
  | list rest => '[' :: rest
  | object rest => '\x7b' :: rest
  | other rest => rest

theorem blanks_opening (cs : List Char) : Blanks cs (opening cs).text := by
  refine blanks_of_skipSpace ?_
  rw [opening]
  split
  · assumption
  · rename_i hcs
    rw [hcs]
    split_ifs with hlist hobject
    · rw [hlist, Opening.text]
    · rw [hobject, Opening.text]
    · rfl

/-- **A value that is kept is one of the grammar**, after blanks, and has the shape of what was
taken. -/
theorem value_sound {room : Nat} {cs rest : List Char} {v : Value}
    (h : value room cs = .ok (v, rest)) :
    ∃ shape t, Blanks cs t ∧ ValueText room shape t rest ∧ HasShape v shape := by
  induction room generalizing cs rest v with
  | zero =>
    have hopening := blanks_opening cs
    rw [value] at h
    split at h
    · rename_i hother
      rw [hother] at hopening
      obtain ⟨shape, hshape, hv⟩ := scalar_sound h
      exact ⟨shape, _, hopening, hshape, hv⟩
    · exact absurd h (by simp [faultPast])
  | succ room ih =>
    have hopening := blanks_opening cs
    have hread : ∀ cs v rest, value room cs = .ok (v, rest) → Takes (ValueText room) cs rest :=
      fun cs v rest h => by
        obtain ⟨shape, t, ht, hshape, -⟩ := ih h
        exact ⟨shape, t, ht, hshape⟩
    rw [value] at h
    split at h
    · rename_i hlist
      rw [hlist] at hopening
      split at h
      · exact absurd h (by simp)
      · rename_i hitems
        cases h
        obtain ⟨xs, hxs⟩ := items_sound hread hitems
        exact ⟨.array, _, hopening, .array hxs, .array _⟩
    · rename_i hobject
      rw [hobject] at hopening
      split at h
      · exact absurd h (by simp)
      · rename_i hmembers
        cases h
        obtain ⟨xs, hxs⟩ := members_sound hread hmembers
        exact ⟨.object, _, hopening, .object hxs, .object _⟩
    · rename_i hother
      rw [hother] at hopening
      obtain ⟨shape, hshape, hv⟩ := scalar_sound h
      exact ⟨shape, _, hopening, .scalar hshape, hv⟩

/-! ## Values that are passed over -/

theorem digits_of_someDigits {cs rest : List Char} (h : someDigits cs = .ok rest) :
    ∃ ds, Digits ds ∧ cs = ds ++ rest := by
  unfold someDigits at h
  split at h
  · exact absurd h (by simp [faultPast])
  · rename_i c cs
    split at h
    · rename_i hc
      cases h
      refine ⟨c :: cs.takeWhile Char.isDigit, ⟨by simp, ?_⟩, by simp⟩
      exact List.forall_mem_cons.2 ⟨hc, fun d hd => List.mem_takeWhile_imp hd⟩
    · exact absurd h (by simp [faultPast])

theorem skipExponent_sound {cs rest : List Char} (h : skipExponent cs = .ok rest) :
    ∃ e, Exponent e ∧ cs = e ++ rest := by
  unfold skipExponent at h
  split at h
  · cases h
    exact ⟨[], .none, rfl⟩
  · rename_i c cs
    split at h
    · rename_i he
      obtain ⟨sign, hsign, hcs⟩ := splitSign_sound cs
      obtain ⟨ds, hds, hrest⟩ := digits_of_someDigits h
      refine ⟨c :: (sign ++ ds), .some he hsign hds, ?_⟩
      rw [hcs, hrest, List.cons_append, List.append_assoc]
    · cases h
      exact ⟨[], .none, rfl⟩

/-- The fraction and the exponent, after the digits. -/
theorem skipFraction_sound {cs rest ds : List Char} (hds : Whole ds)
    (h : skipFraction cs = .ok rest) : ∃ t, Numeral t ∧ ds ++ cs = t ++ rest := by
  unfold skipFraction at h
  split at h
  · split at h
    · exact absurd h (by simp)
    · rename_i hdigits
      obtain ⟨fs, hfs, hcs⟩ := digits_of_someDigits hdigits
      obtain ⟨e, he, hmid⟩ := skipExponent_sound h
      exact ⟨ds ++ '.' :: fs ++ e, .parts hds (.some hfs) he, by simp [hcs, hmid]⟩
  · obtain ⟨e, he, hcs⟩ := skipExponent_sound h
    exact ⟨ds ++ [] ++ e, .parts hds .none he, by simp [hcs]⟩

/-- A number that is passed over is one.  It need not be in any range. -/
theorem skipNumber_sound {cs rest : List Char} (h : skipNumber cs = .ok rest) :
    ∃ t, Numeral t ∧ cs = t ++ rest := by
  have hzero : Whole ['0'] := ⟨⟨by simp, by simp⟩, fun _ => rfl⟩
  unfold skipNumber at h
  split at h
  · exact absurd h (by simp [faultPast])
  · rename_i c cs
    split at h
    · rename_i hc
      subst hc
      split at h
      · cases h
        exact ⟨['0'] ++ [] ++ [], .parts hzero .none .none, by simp⟩
      · split at h
        · exact absurd h (by simp [faultPast])
        · exact skipFraction_sound hzero h
    · rename_i hc
      split at h
      · rename_i hdigit
        have hwhole : Whole (c :: cs.takeWhile Char.isDigit) :=
          ⟨⟨by simp, List.forall_mem_cons.2 ⟨hdigit, fun d hd => List.mem_takeWhile_imp hd⟩⟩,
            fun hhead => absurd (Option.some.inj hhead) hc⟩
        obtain ⟨t, ht, hcs⟩ := skipFraction_sound hwhole h
        exact ⟨t, ht, by rw [← hcs, List.cons_append, List.takeWhile_append_dropWhile]⟩
      · exact absurd h (by simp [faultPast])

/-- An escape that is passed over.  Half of a surrogate pair will do. -/
theorem quoted_skipEscape {cs rest r : List Char} (h : skipEscape cs = .ok rest)
    (hrest : Quoted rest r) : Quoted ('\\' :: cs) r := by
  unfold skipEscape at h
  split at h
  · exact absurd h (by simp [fault])
  · split at h
    · rename_i hu
      subst hu
      split at h
      · exact absurd h (by simp)
      · rename_i hn
        cases h
        exact .code (hexFour_sound hn) hrest
    · split at h
      · rename_i hshort
        obtain ⟨d, hd⟩ := Option.isSome_iff_exists.1 hshort
        cases h
        exact .escape (mem_shortEscapes_iff.2 hd) hrest
      · exact absurd h (by simp [faultPast])

/-- **A string that is passed over is quoted**, though it need not spell any text. -/
theorem quoted_skipString {cs rest : List Char} (h : skipString cs = .ok rest) :
    Quoted cs rest := by
  rw [skipString] at h
  split at h
  · exact absurd h (by simp)
  · rename_i hloop
    cases h
    refine iterate_induction (P := fun _ cs _ rest => Quoted cs rest) ?_ ?_ hloop
    · intro _ cs _ rest hstep
      unfold skipStringStep at hstep
      split at hstep
      · exact absurd hstep (by simp [fault])
      · split at hstep
        · rename_i hquote
          cases hstep
          exact hquote ▸ .close
        · split at hstep
          · split at hstep <;> exact absurd hstep (by simp)
          · split at hstep <;> exact absurd hstep (by simp [fault])
    · intro _ cs _ mid _ rest hstep hmid
      unfold skipStringStep at hstep
      split at hstep
      · exact absurd hstep (by simp [fault])
      · split at hstep
        · exact absurd hstep (by simp)
        · rename_i hquote
          split at hstep
          · rename_i hslash
            split at hstep
            · exact absurd hstep (by simp)
            · rename_i hescape
              cases hstep
              exact hslash ▸ quoted_skipEscape hescape hmid
          · rename_i hslash
            split at hstep
            · exact absurd hstep (by simp [fault])
            · rename_i hcontrol
              cases hstep
              exact .plain ⟨hquote, hslash, Nat.le_of_not_lt hcontrol⟩ hmid

/-- A value without brackets that is passed over is one. -/
theorem skipScalar_sound {cs rest : List Char} (h : skipScalar cs = .ok rest) :
    ∃ shape, Scalar shape cs rest := by
  cases cs with
  | nil => exact absurd h (by simp [skipScalar, faultPast])
  | cons c cs =>
    rw [skipScalar] at h
    split_ifs at h with hquote hminus hdigit ht hf hn
    · subst hquote
      exact scalar_of_quoted (quoted_skipString h)
    · obtain ⟨t, ht, rfl⟩ := skipNumber_sound h
      subst hminus
      exact ⟨.number ('-' :: t), .number (.negative ht)⟩
    · obtain ⟨t, ht, hcs⟩ := skipNumber_sound h
      exact ⟨.number t, hcs ▸ .number (.plain ht)⟩
    · rw [ht, eq_append_of_word h]
      exact ⟨_, .yes⟩
    · rw [hf, eq_append_of_word h]
      exact ⟨_, .no⟩
    · rw [hn, eq_append_of_word h]
      exact ⟨_, .null⟩
    · exact absurd h (by simp [faultPast])

/-- There is another piece, in a list or in an object. -/
theorem skipComma_true {close : Char} {eof noComma : Cause} {first : Bool} {cs mid : List Char}
    (h : skipComma close eof noComma first cs = .ok (true, mid)) : Separator first cs mid := by
  rw [skipComma] at h
  split at h
  · exact absurd h (by simp [faultPast])
  · rename_i c rest hcs
    have hblanks := blanks_of_skipSpace hcs
    split_ifs at h with hclose hfirst hcomma
    · exact absurd h (by simp)
    · cases h
      exact hfirst ▸ .first hblanks
    · cases h
      exact (Bool.not_eq_true _ ▸ hfirst) ▸ .comma (hcomma ▸ hblanks) .none
    · exact absurd h (by simp [faultPast])

/-- There is no other piece: the bracket closes. -/
theorem skipComma_false {close : Char} {eof noComma : Cause} {first : Bool} {cs mid : List Char}
    (h : skipComma close eof noComma first cs = .ok (false, mid)) : Blanks cs (close :: mid) := by
  rw [skipComma] at h
  split at h
  · exact absurd h (by simp [faultPast])
  · rename_i c rest hcs
    split_ifs at h with hclose
    · cases h
      exact hclose ▸ blanks_of_skipSpace hcs
    all_goals exact absurd h (by simp [faultPast])

theorem skipName_sound {cs rest : List Char} (h : skipName cs = .ok rest) :
    ∃ t u, Blanks cs ('"' :: t) ∧ Quoted t u ∧ Blanks u (':' :: rest) := by
  rw [skipName] at h
  split at h
  · exact absurd h (by simp [faultPast])
  · rename_i c t hcs
    split at h
    · rename_i hquote
      split at h
      · exact absurd h (by simp)
      · rename_i u hu
        exact ⟨t, u, hquote ▸ blanks_of_skipSpace hcs, quoted_skipString hu, blanks_of_colon h⟩
    · exact absurd h (by simp [faultPast])

section Pieces

variable {P : α → List Char → List Char → Prop} {skip : List Char → Except Fault (List Char)}
  {cs rest : List Char}

/-- What passes an item passes what comes before it as well. -/
theorem skipItemStep_again (hskip : ∀ cs rest, skip cs = .ok rest → Takes P cs rest)
    {first first' : Bool} (h : skipItemStep skip first cs = .ok (.again first', rest)) :
    first' = false ∧ ∃ x t, Separator first cs t ∧ P x t rest := by
  rw [skipItemStep] at h
  split at h
  · exact absurd h (by simp)
  · exact absurd h (by simp)
  · rename_i hcomma
    split at h
    · exact absurd h (by simp)
    · rename_i hskipped
      cases h
      obtain ⟨x, t, ht, hx⟩ := hskip _ _ hskipped
      exact ⟨rfl, x, t, (skipComma_true hcomma).trans ht, hx⟩

theorem skipMemberStep_again (hskip : ∀ cs rest, skip cs = .ok rest → Takes P cs rest)
    {first first' : Bool} (h : skipMemberStep skip first cs = .ok (.again first', rest)) :
    first' = false ∧ ∃ (m : Unit × α) (t : List Char), Separator first cs t ∧
      Member (fun _ => Quoted) P m t rest := by
  rw [skipMemberStep] at h
  split at h
  · exact absurd h (by simp)
  · exact absurd h (by simp)
  · rename_i hcomma
    split at h
    · exact absurd h (by simp)
    · rename_i hname
      split at h
      · exact absurd h (by simp)
      · rename_i hskipped
        cases h
        obtain ⟨t, u, ht, hquoted, hcolon⟩ := skipName_sound hname
        obtain ⟨x, v, hv, hx⟩ := hskip _ _ hskipped
        exact ⟨rfl, ((), x), _, (skipComma_true hcomma).trans ht, .colon hquoted hcolon hv hx⟩

theorem skipItems_sound (hskip : ∀ cs rest, skip cs = .ok rest → Takes P cs rest) {u : Unit}
    (h : iterate (skipItemStep skip) true cs = .ok (u, rest)) :
    ∃ xs, Pieces P ']' true xs cs rest := by
  refine pieces_iterate id ?_ (fun _ _ _ _ hstep => skipItemStep_again hskip hstep) h
  intro first cs _ rest hstep
  rw [skipItemStep] at hstep
  split at hstep
  · exact absurd hstep (by simp)
  · rename_i hcomma
    cases hstep
    exact skipComma_false hcomma
  · split at hstep <;> exact absurd hstep (by simp)

theorem skipMembers_sound (hskip : ∀ cs rest, skip cs = .ok rest → Takes P cs rest) {u : Unit}
    (h : iterate (skipMemberStep skip) true cs = .ok (u, rest)) :
    ∃ xs : List (Unit × α), Pieces (Member (fun _ => Quoted) P) '\x7d' true xs cs rest := by
  refine pieces_iterate id ?_ (fun _ _ _ _ hstep => skipMemberStep_again hskip hstep) h
  intro first cs _ rest hstep
  rw [skipMemberStep] at hstep
  split at hstep
  · exact absurd hstep (by simp)
  · rename_i hcomma
    cases hstep
    exact skipComma_false hcomma
  · split at hstep
    · exact absurd hstep (by simp)
    · split at hstep <;> exact absurd hstep (by simp)

end Pieces

/-- **A value that is passed over is one of the grammar**, after blanks. -/
theorem skipValue_sound {room : Nat} {cs rest : List Char} (h : skipValue room cs = .ok rest) :
    Takes (ValueText room) cs rest := by
  induction room generalizing cs rest with
  | zero =>
    rw [skipValue] at h
    obtain ⟨shape, hshape⟩ := skipScalar_sound h
    exact ⟨shape, _, blanks_skipSpace cs, hshape⟩
  | succ room ih =>
    rw [skipValue] at h
    split at h
    · exact absurd h (by simp [skipScalar, faultPast])
    · rename_i c mid hcs
      have hblanks := blanks_of_skipSpace hcs
      split_ifs at h with hlist hobject
      · split at h
        · exact absurd h (by simp)
        · rename_i hloop
          cases h
          obtain ⟨xs, hxs⟩ := skipItems_sound (fun _ _ => ih) hloop
          exact ⟨.array, _, hlist ▸ hblanks, .array hxs⟩
      · split at h
        · exact absurd h (by simp)
        · rename_i hloop
          cases h
          obtain ⟨xs, hxs⟩ := skipMembers_sound (fun _ _ => ih) hloop
          exact ⟨.object, _, hobject ▸ hblanks, .object hxs⟩
      · obtain ⟨shape, hshape⟩ := skipScalar_sound h
        exact ⟨shape, _, hblanks, .scalar hshape⟩

/-! ## Records and whole texts -/

/-- A record is an object or a list. -/
theorem record_sound {type : String} {named listed : Reader α} {cs rest : List Char} {a : α}
    (h : record type named listed cs = .ok (a, rest)) :
    (∃ t mid, Blanks cs ('\x7b' :: t) ∧ named t = .ok (a, mid) ∧ rest = closeObject mid) ∨
      ∃ t mid, Blanks cs ('[' :: t) ∧ listed t = .ok (a, mid) ∧ Blanks mid (']' :: rest) := by
  have hopening := blanks_opening cs
  rw [record] at h
  split at h
  · rename_i t hobject
    rw [hobject] at hopening
    rw [inObject] at h
    split at h
    · exact absurd h (by simp)
    · rename_i hnamed
      cases h
      exact .inl ⟨t, _, hopening, hnamed, rfl⟩
  · rename_i t hlist
    rw [hlist] at hopening
    rw [inList] at h
    split at h
    · exact absurd h (by simp)
    · rename_i mid hlisted
      split at h
      · exact absurd h (by simp [faultPast])
      · rename_i c rest hmid
        split_ifs at h with hclose hcomma
        · cases h
          exact .inr ⟨t, mid, hopening, hlisted, hclose ▸ blanks_of_skipSpace hmid⟩
        · split at h <;> exact absurd h (by simp [faultPast])
        · exact absurd h (by simp [faultPast])
  · rw [wanted] at h
    split at h
    · exact absurd h (by simp [fault])
    · exact absurd h (by simp [fault])
    · split at h <;> exact absurd h (by simp [fault])

/-- Behind what is read there are only blanks. -/
theorem document_sound {read : Reader α} {text : String} {a : α}
    (h : document read text = .ok a) :
    ∃ rest, read text.toList = .ok (a, rest) ∧ Blanks rest [] := by
  rw [document] at h
  split at h
  · exact absurd h (by simp)
  · rename_i rest hread
    split at h
    · exact absurd h (by simp)
    · rename_i hend
      cases h
      rw [atEnd] at hend
      split at hend
      · rename_i hrest
        exact ⟨rest, hread, blanks_of_skipSpace hrest⟩
      · exact absurd hend (by simp [faultPast])

end Json
end AccountingPage
