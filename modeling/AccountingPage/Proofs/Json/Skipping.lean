import AccountingPage.Json.Skip
import AccountingPage.Proofs.Json.Acceptance

/-!
# Every value can be passed over

What nobody asks for is passed over, whatever it is: numbers of any size, strings that spell
nothing, and brackets of any depth.  The reader stops right behind the value, and it finds the place
without looking at what follows, except that a number has to end there.

* `Grammar.ValueText.length_lt` and `Grammar.Pieces.endsNumber` say what is left after a value
  between brackets.
* `iterate_pieces` runs a loop over the pieces between two brackets, from what one turn does.
* `skip_of_isValue` is the result, by `skipValue_of_valueText`.
-/

set_option autoImplicit false

namespace AccountingPage
namespace Json

open Grammar

/-! ## Numbers -/

/-- The first character that is left, if there is one, is no digit. -/
def NoDigit (r : List Char) : Prop := ∀ c ∈ r.head?, c.isDigit = false

theorem dropWhile_digits {ds r : List Char} (hds : ∀ c ∈ ds, c.isDigit = true) (hr : NoDigit r) :
    (ds ++ r).dropWhile Char.isDigit = r := by
  rw [List.dropWhile_append_of_pos hds]
  cases r with
  | nil => rfl
  | cons c r => exact List.dropWhile_cons_of_neg (by simp [hr c rfl])

/-- Digits are passed over up to the first character that is none. -/
theorem someDigits_append {ds r : List Char} (hds : Digits ds) (hr : NoDigit r) :
    someDigits (ds ++ r) = .ok r := by
  obtain ⟨hne, hdigits⟩ := hds
  cases ds with
  | nil => exact absurd rfl hne
  | cons c ds =>
    obtain ⟨hc, hdigits⟩ := List.forall_mem_cons.1 hdigits
    rw [List.cons_append, someDigits, if_pos hc, dropWhile_digits hdigits hr]

/-- An exponent is passed over whole. -/
theorem skipExponent_append {e r : List Char} (he : Exponent e) (hr : EndsNumber r) :
    skipExponent (e ++ r) = .ok r := by
  cases he with
  | none =>
    cases r with
    | nil => rfl
    | cons c r =>
      have hc : ¬(c = 'e' ∨ c = 'E') := by
        rintro (rfl | rfl) <;> exact absurd hr.startsFraction (by simp [startsFraction])
      rw [List.nil_append, skipExponent, if_neg hc]
  | @some e sign ds he hsign hds =>
    have hsplit : (Text.splitSign (sign ++ (ds ++ r))).2 = ds ++ r := by
      rcases hsign with rfl | rfl | rfl
      · obtain ⟨hne, hdigits⟩ := hds
        cases ds with
        | nil => exact absurd rfl hne
        | cons c ds =>
          have hc : c.isDigit = true := hdigits c List.mem_cons_self
          have hminus : c ≠ '-' := ne_of_isDigit hc rfl
          have hplus : c ≠ '+' := ne_of_isDigit hc rfl
          rw [List.nil_append, List.cons_append, Text.splitSign.eq_3] <;> simp [hminus, hplus]
      · rfl
      · rfl
    rw [List.cons_append, skipExponent, if_pos he, List.append_assoc, hsplit,
      someDigits_append hds hr.head?]

/-- Behind a number's digits there is no digit. -/
theorem noDigit_exponent {e r : List Char} (he : Exponent e) (hr : EndsNumber r) :
    NoDigit (e ++ r) := by
  cases he with
  | none => exact hr.head?
  | some he => rcases he with rfl | rfl <;> simp [NoDigit]

theorem noDigit_fraction {f e r : List Char} (hf : Fraction f) (he : Exponent e)
    (hr : EndsNumber r) : NoDigit (f ++ (e ++ r)) := by
  cases hf with
  | none =>
    rw [List.nil_append]
    exact noDigit_exponent he hr
  | some => simp [NoDigit]

/-- A fraction is passed over with the exponent behind it. -/
theorem skipFraction_append {f e r : List Char} (hf : Fraction f) (he : Exponent e)
    (hr : EndsNumber r) : skipFraction (f ++ (e ++ r)) = .ok r := by
  cases hf with
  | none =>
    have hpoint : ∀ cs, e ++ r ≠ '.' :: cs := fun cs hcs => by
      cases he with
      | none =>
        rw [List.nil_append] at hcs
        exact absurd hr.startsFraction (by simp [hcs, startsFraction])
      | some he => rcases he with rfl | rfl <;> exact absurd hcs (by simp)
    rw [List.nil_append, skipFraction.eq_2 _ hpoint, skipExponent_append he hr]
  | some hds =>
    rw [List.cons_append, skipFraction, someDigits_append hds (noDigit_exponent he hr)]
    exact skipExponent_append he hr

/-- A number is passed over after its minus sign. -/
theorem skipNumber_append {t r : List Char} (ht : Numeral t) (hr : EndsNumber r) :
    skipNumber (t ++ r) = .ok r := by
  cases ht with
  | @parts ds f e hds hf he =>
    obtain ⟨⟨hne, hdigits⟩, hzero⟩ := hds
    have hrest := noDigit_fraction hf he hr
    have hskip := skipFraction_append hf he hr
    rw [List.append_assoc, List.append_assoc]
    cases ds with
    | nil => exact absurd rfl hne
    | cons c ds =>
      obtain ⟨hc, hdigits⟩ := List.forall_mem_cons.1 hdigits
      by_cases h0 : c = '0'
      · obtain ⟨rfl, rfl⟩ := List.cons.inj (hzero (congrArg some h0))
        rw [List.singleton_append, skipNumber.eq_def]
        cases hmore : f ++ (e ++ r) with
        | nil =>
          obtain ⟨-, rfl⟩ := List.append_eq_nil_iff.1 (List.append_eq_nil_iff.1 hmore).2
          rfl
        | cons d rest =>
          rw [hmore] at hrest hskip
          simp [hrest d rfl, hskip]
      · rw [List.cons_append, skipNumber.eq_def]
        simp [h0, hc, dropWhile_digits hdigits hrest, hskip]

/-! ## Strings -/

theorem length_skipEscape_le {cs rest : List Char} (h : skipEscape cs = .ok rest) :
    rest.length ≤ cs.length := by
  unfold skipEscape at h
  split at h
  · exact absurd h (by simp [fault])
  · split_ifs at h
    · split at h
      · exact absurd h (by simp)
      · rename_i hn
        cases h
        have hlen := length_hexFour hn
        rw [List.length_cons]
        omega
    · cases h
      exact Nat.le_succ _
    · exact absurd h (by simp [faultPast])

/-- Every turn over a string gets on, so the loop ends by itself. -/
theorem advances_skipStringStep : Advances skipStringStep := by
  intro s cs s' rest h
  unfold skipStringStep at h
  split at h
  · exact absurd h (by simp [fault])
  · split_ifs at h
    · exact absurd h (by simp)
    · split at h
      · exact absurd h (by simp)
      · rename_i hescape
        cases h
        exact Nat.lt_succ_of_le (length_skipEscape_le hescape)
    · exact absurd h (by simp [fault])
    · cases h
      exact Nat.lt_succ_self _

theorem skipStringStep_backslash {cs rest : List Char} (h : skipEscape cs = .ok rest) :
    skipStringStep () ('\\' :: cs) = .ok (.again (), rest) := by
  rw [skipStringStep, if_neg (by decide), if_pos rfl, h]

/-- A string is passed over after its opening quote, whether it spells something or not. -/
theorem skipString_of_quoted {t r : List Char} (h : Quoted t r) : skipString t = .ok r := by
  have hletter : ∀ c, ('u', c) ∉ shortEscapes := by simp [shortEscapes]
  have hloop : iterate skipStringStep () t = .ok ((), r) := by
    induction h with
    | close =>
      rw [iterate_eq advances_skipStringStep]
      rfl
    | plain hc _ ih =>
      rw [iterate_eq advances_skipStringStep, skipStringStep, if_neg hc.1, if_neg hc.2.1,
        if_neg (Nat.not_lt.2 hc.2.2)]
      exact ih
    | @escape e c t r he _ ih =>
      have hu : e ≠ 'u' := fun hu => hletter c (hu ▸ he)
      have hescape : skipEscape (e :: t) = .ok t := by
        rw [skipEscape, if_neg hu, mem_shortEscapes_iff.1 he]
        rfl
      rw [iterate_eq advances_skipStringStep, skipStringStep_backslash hescape]
      exact ih
    | @code n t u r hn _ ih =>
      have hescape : skipEscape ('u' :: t) = .ok u := by
        rw [skipEscape, if_pos rfl, hexFour_of_hexFour hn]
      rw [iterate_eq advances_skipStringStep, skipStringStep_backslash hescape]
      exact ih
  rw [skipString, hloop]

/-! ## Values without brackets -/

/-- **A value without brackets is passed over.** -/
theorem skipScalar_of_scalar {shape : Shape} {t r : List Char} (h : Scalar shape t r)
    (hr : EndsNumber r) : skipScalar t = .ok r := by
  cases h with
  | null | yes | no => rfl
  | string h =>
    rw [skipScalar, if_pos rfl, skipString_of_quoted h.quoted]
  | brokenString h =>
    rw [skipScalar, if_pos rfl, skipString_of_quoted h]
  | number h =>
    cases h with
    | negative h => exact skipNumber_append h hr
    | plain h =>
      have hskip := skipNumber_append h hr
      obtain ⟨c, cs, rfl, hc⟩ := h.head_isDigit
      rw [List.cons_append, skipScalar, if_neg (ne_of_isDigit hc rfl),
        if_neg (ne_of_isDigit hc rfl), if_pos hc]
      exact hskip

theorem Grammar.Scalar.length_lt {shape : Shape} {t r : List Char} (h : Scalar shape t r) :
    r.length < t.length := by
  cases h with
  | null | yes | no =>
    simp only [List.length_cons]
    omega
  | string h => exact Nat.lt_succ_of_lt h.quoted.length_lt
  | brokenString h => exact Nat.lt_succ_of_lt h.length_lt
  | number h =>
    obtain ⟨c, cs, rfl, -⟩ := h.head
    simp only [List.length_append, List.length_cons]
    omega

/-! ## Between brackets -/

section Pieces

variable {α ν : Type} {P : α → List Char → List Char → Prop} {first : Bool} {close : Char}
  {as : List α} {t r : List Char}

theorem Grammar.Pieces.length_lt (h : Pieces P close first as t r)
    (hP : ∀ a t r, P a t r → r.length < t.length) : r.length < t.length := by
  induction h with
  | close h => exact h.length_le
  | piece hsep ha _ ih =>
    exact Nat.lt_trans ih (Nat.lt_of_lt_of_le (hP _ _ _ ha) hsep.length_le)

theorem Grammar.Member.length_lt {Name : ν → List Char → List Char → Prop} {m : ν × α}
    (h : Member Name P m t r) (hName : ∀ name t r, Name name t r → r.length < t.length)
    (hP : ∀ a t r, P a t r → r.length < t.length) : r.length < t.length := by
  cases h with
  | colon hname hcolon hblanks ha =>
    have hvalue := Nat.lt_of_lt_of_le (hP _ _ _ ha) hblanks.length_le
    have hrest := Nat.lt_of_lt_of_le hvalue (Nat.le_trans (Nat.le_succ _) hcolon.length_le)
    exact Nat.lt_succ_of_lt (Nat.lt_trans hrest (hName _ _ _ hname))

/-- A value takes at least one character. -/
theorem Grammar.ValueText.length_lt {depth : Nat} {shape : Shape} {t r : List Char}
    (h : ValueText depth shape t r) : r.length < t.length := by
  induction depth generalizing shape t r with
  | zero => exact Scalar.length_lt h
  | succ depth ih =>
    cases h with
    | scalar h => exact h.length_lt
    | array h => exact Nat.lt_succ_of_lt (h.length_lt fun _ _ _ => ih)
    | object h =>
      exact Nat.lt_succ_of_lt (h.length_lt fun _ _ _ hm =>
        hm.length_lt (fun _ _ _ hname => hname.length_lt) fun _ _ _ => ih)

theorem Grammar.NamedMember.length_lt {m : String × Shape} {t r : List Char}
    (h : NamedMember m t r) : r.length < t.length :=
  Member.length_lt h (fun _ _ _ hname => hname.quoted.length_lt)
    fun _ _ _ ⟨_, hvalue⟩ => hvalue.length_lt

/-- No number goes on behind a blank, a comma or a closing bracket. -/
theorem endsNumber_of_blanks {c : Char} {u : List Char} (h : Blanks t (c :: u))
    (hc : c = ',' ∨ c = ']' ∨ c = '\x7d') : EndsNumber t := by
  cases h with
  | none => rcases hc with rfl | rfl | rfl <;> exact ⟨by simp, rfl⟩
  | more hspace _ =>
    simp only [isSpace, Bool.or_eq_true, beq_iff_eq] at hspace
    rcases hspace with ((rfl | rfl) | rfl) | rfl <;> exact ⟨by simp, rfl⟩

/-- What stands behind a piece between brackets ends a number. -/
theorem Grammar.Pieces.endsNumber (h : Pieces P close false as t r)
    (hclose : close = ']' ∨ close = '\x7d') : EndsNumber t := by
  cases h with
  | close h => exact endsNumber_of_blanks h (.inr hclose)
  | piece hsep =>
    cases hsep with
    | comma h => exact endsNumber_of_blanks h (.inl rfl)

/-- **A loop runs over the pieces between two brackets** if every turn takes a piece and keeps up
what is known of the pieces that are left, and the last turn finds the closing bracket. -/
theorem iterate_pieces {σ ρ : Type} {step : σ → Reader (Turn σ ρ)} (hstep : Advances step)
    (firstOf : σ → Bool) (Inv : σ → List α → List Char → Prop) {a : ρ}
    (stop : List Char → List Char) (hclose : close = ']' ∨ close = '\x7d')
    (leave : ∀ s t r, Inv s [] t → Blanks t (close :: r) → step s t = .ok (.leave a, stop r))
    (again : ∀ s b bs t u v, Inv s (b :: bs) t → Separator (firstOf s) t u → P b u v →
      EndsNumber v → ∃ s', step s t = .ok (.again s', v) ∧ firstOf s' = false ∧ Inv s' bs v)
    {s : σ} (h : Pieces P close (firstOf s) as t r) (hs : Inv s as t) :
    iterate step s t = .ok (a, stop r) := by
  generalize hfirst : firstOf s = first at h
  induction h generalizing s with
  | close h => rw [iterate_eq hstep, leave s _ _ hs h]
  | piece hsep hb hrest ih =>
    obtain ⟨s', hs', hfirst', hinv⟩ :=
      again s _ _ _ _ _ hs (hfirst ▸ hsep) hb (hrest.endsNumber hclose)
    rw [iterate_eq hstep, hs']
    exact ih hinv hfirst'

end Pieces

theorem skipComma_of_close {close : Char} {cs r : List Char} (h : Blanks cs (close :: r))
    (hclose : isSpace close = false) (eof noComma : Cause) (first : Bool) :
    skipComma close eof noComma first cs = .ok (false, r) := by
  rw [skipComma, skipSpace_eq_cons h hclose]
  simp

/-- Behind the comma there may be blanks left. -/
theorem skipComma_of_separator {close c : Char} {first : Bool} {cs t : List Char}
    (h : Separator first cs (c :: t)) (hspace : isSpace c = false) (hc : c ≠ close)
    (hclose : close ≠ ',') (eof noComma : Cause) :
    ∃ u, skipComma close eof noComma first cs = .ok (true, u) ∧ Blanks u (c :: t) := by
  cases h with
  | first h =>
    refine ⟨c :: t, ?_, .none⟩
    rw [skipComma, skipSpace_eq_cons h hspace]
    simp [hc]
  | @comma _ u _ h h' =>
    refine ⟨u, ?_, h'⟩
    rw [skipComma, skipSpace_eq_cons h rfl]
    simp [hclose.symm]

theorem skipName_of_quoted {cs t u r : List Char} (h : Blanks cs ('"' :: t)) (hname : Quoted t u)
    (hcolon : Blanks u (':' :: r)) : skipName cs = .ok r := by
  rw [skipName, skipSpace_eq_cons h rfl]
  simp [skipString_of_quoted hname, colon_of_blanks hcolon]

/-! ## All values -/

/-- Blanks in front make no difference. -/
theorem skipValue_of_blanks {cs t : List Char} (h : Blanks cs t) (room : Nat) :
    skipValue room cs = skipValue room t := by
  cases room <;> rw [skipValue, skipValue, skipSpace_of_blanks h]

/-- Every turn over a list gets on. -/
theorem advances_skipItemStep (room : Nat) : Advances (skipItemStep (skipValue room)) := by
  intro first cs first' rest h
  obtain ⟨-, shape, t, hsep, hshape⟩ := skipItemStep_again (fun _ _ => skipValue_sound) h
  exact Nat.lt_of_lt_of_le hshape.length_lt hsep.length_le

theorem advances_skipMemberStep (room : Nat) : Advances (skipMemberStep (skipValue room)) := by
  intro first cs first' rest h
  obtain ⟨-, m, t, hsep, hm⟩ := skipMemberStep_again (fun _ _ => skipValue_sound) h
  have hlt := hm.length_lt (fun _ _ _ hname => hname.length_lt) fun _ _ _ hv => hv.length_lt
  exact Nat.lt_of_lt_of_le hlt hsep.length_le

/-- What a value without brackets begins with. -/
theorem Grammar.Scalar.head {shape : Shape} {t r : List Char} (h : Scalar shape t r) :
    ∃ c cs, t = c :: cs ∧ isSpace c = false ∧ c ≠ ']' ∧ c ≠ '[' ∧ c ≠ '\x7b' := by
  cases h with
  | null | yes | no | string | brokenString =>
    exact ⟨_, _, rfl, rfl, by decide, by decide, by decide⟩
  | number h =>
    obtain ⟨c, cs, rfl, rfl | hc⟩ := h.head
    · exact ⟨_, _, rfl, rfl, by decide, by decide, by decide⟩
    · exact ⟨c, _, rfl, isSpace_of_isDigit hc, ne_of_isDigit hc rfl, ne_of_isDigit hc rfl,
        ne_of_isDigit hc rfl⟩

/-- No value begins like the end of a list. -/
theorem Grammar.ValueText.head {depth : Nat} {shape : Shape} {t r : List Char}
    (h : ValueText depth shape t r) : ∃ c cs, t = c :: cs ∧ isSpace c = false ∧ c ≠ ']' := by
  have hscalar : ∀ {shape t r}, Scalar shape t r →
      ∃ c cs, t = c :: cs ∧ isSpace c = false ∧ c ≠ ']' := fun h => by
    obtain ⟨c, cs, ht, hspace, hclose, -⟩ := h.head
    exact ⟨c, cs, ht, hspace, hclose⟩
  cases depth with
  | zero => exact hscalar h
  | succ depth =>
    cases h with
    | scalar h => exact hscalar h
    | array | object => exact ⟨_, _, rfl, rfl, by decide⟩

theorem skipItemStep_of_separator {skip : List Char → Except Fault (List Char)} {first : Bool}
    {cs t r : List Char} (hsep : Separator first cs t)
    (hhead : ∃ c u, t = c :: u ∧ isSpace c = false ∧ c ≠ ']')
    (hskip : ∀ u, Blanks u t → skip u = .ok r) :
    skipItemStep skip first cs = .ok (.again false, r) := by
  obtain ⟨c, t, rfl, hspace, hc⟩ := hhead
  obtain ⟨u, hcomma, hu⟩ := skipComma_of_separator hsep hspace hc (by decide) .eofInList
    .expectedCommaInList
  rw [skipItemStep, hcomma]
  simp [hskip u hu]

theorem skipMemberStep_of_separator {skip : List Char → Except Fault (List Char)} {first : Bool}
    {cs t u v r : List Char} (hsep : Separator first cs ('"' :: t)) (hname : Quoted t u)
    (hcolon : Blanks u (':' :: v)) (hskip : skip v = .ok r) :
    skipMemberStep skip first cs = .ok (.again false, r) := by
  obtain ⟨w, hcomma, hw⟩ : ∃ w, skipComma '\x7d' .eofInObject .expectedCommaInObject first cs =
      .ok (true, w) ∧ Blanks w ('"' :: t) :=
    skipComma_of_separator hsep rfl (by decide) (by decide) ..
  rw [skipMemberStep, hcomma]
  simp [skipName_of_quoted hw hname hcolon, hskip]

theorem skipValue_of_scalar {shape : Shape} {t r : List Char} (h : Scalar shape t r)
    (hr : EndsNumber r) (room : Nat) : skipValue room t = .ok r := by
  have hskip := skipScalar_of_scalar h hr
  obtain ⟨c, cs, rfl, hspace, -, hlist, hobject⟩ := h.head
  cases room with
  | zero => rw [skipValue, skipSpace_cons hspace, hskip]
  | succ room =>
    rw [skipValue, skipSpace_cons hspace]
    simp [hlist, hobject, hskip]

section Brackets

/-- What is needed of the values within a bracket, for the reader to get through them. -/
structure Passable (P : Shape → List Char → List Char → Prop) (room : Nat) : Prop where
  head : ∀ {shape t r}, P shape t r → ∃ c u, t = c :: u ∧ isSpace c = false ∧ c ≠ ']'
  length_lt : ∀ {shape t r}, P shape t r → r.length < t.length
  skip : ∀ {shape t r}, P shape t r → EndsNumber r → t.length ≤ room → skipValue room t = .ok r

variable {P : Shape → List Char → List Char → Prop} {room : Nat} {t r : List Char}

/-- The items of a list are passed over. -/
theorem Passable.iterate_skipItemStep (hP : Passable P room) {items : List Shape}
    (h : Pieces P ']' true items t r) (hroom : t.length ≤ room) :
    iterate (skipItemStep (skipValue room)) true t = .ok ((), r) := by
  refine iterate_pieces (advances_skipItemStep room) id (fun _ _ t => t.length ≤ room) id
    (.inl rfl) ?_ ?_ h hroom
  · intro first t r _ hblanks
    rw [skipItemStep, skipComma_of_close hblanks rfl]
    rfl
  · intro first shape items t u v ht hsep hvalue hv
    have hu : u.length ≤ room := Nat.le_trans hsep.length_le ht
    refine ⟨false, skipItemStep_of_separator hsep (hP.head hvalue) fun cs hcs => ?_, rfl,
      Nat.le_trans (Nat.le_of_lt (hP.length_lt hvalue)) hu⟩
    rw [skipValue_of_blanks hcs, hP.skip hvalue hv hu]

/-- So are the members of an object. -/
theorem Passable.iterate_skipMemberStep (hP : Passable P room) {members : List (Unit × Shape)}
    (h : Pieces (Member (fun _ => Quoted) P) '\x7d' true members t r) (hroom : t.length ≤ room) :
    iterate (skipMemberStep (skipValue room)) true t = .ok ((), r) := by
  refine iterate_pieces (advances_skipMemberStep room) id (fun _ _ t => t.length ≤ room) id
    (.inr rfl) ?_ ?_ h hroom
  · intro first t r _ hblanks
    rw [skipMemberStep, skipComma_of_close hblanks rfl]
    rfl
  · intro first m members t u v ht hsep hmember hv
    have hu : u.length ≤ room := Nat.le_trans hsep.length_le ht
    have hlt := hmember.length_lt (fun _ _ _ hname => hname.length_lt) fun _ _ _ => hP.length_lt
    cases hmember with
    | @colon name shape t u v w r hname hcolon hblanks hvalue =>
      have hw : w.length ≤ room := by
        have hname := hname.length_lt
        have hcolon := hcolon.length_le
        have hblanks := hblanks.length_le
        rw [List.length_cons] at hu hcolon
        omega
      refine ⟨false, skipMemberStep_of_separator hsep hname hcolon ?_, rfl,
        Nat.le_trans (Nat.le_of_lt hlt) hu⟩
      rw [skipValue_of_blanks hblanks, hP.skip hvalue hv hw]

end Brackets

/-- The reader stops right behind a value.  It needs no more room for brackets than there are
characters, and less with every bracket that it opens. -/
theorem skipValue_of_valueText {depth room : Nat} {shape : Shape} {t r : List Char}
    (h : ValueText depth shape t r) (hr : EndsNumber r) (hroom : t.length ≤ room) :
    skipValue room t = .ok r := by
  induction depth generalizing shape t r room with
  | zero => exact skipValue_of_scalar h hr room
  | succ depth ih =>
    cases h with
    | scalar h => exact skipValue_of_scalar h hr room
    | array h =>
      cases room with
      | zero => exact absurd hroom (by simp)
      | succ room =>
        have hP : Passable (ValueText depth) room := ⟨ValueText.head, ValueText.length_lt, ih⟩
        have hloop := hP.iterate_skipItemStep h (Nat.le_of_succ_le_succ hroom)
        rw [skipValue, skipSpace_cons rfl]
        simp [hloop]
    | object h =>
      cases room with
      | zero => exact absurd hroom (by simp)
      | succ room =>
        have hP : Passable (ValueText depth) room := ⟨ValueText.head, ValueText.length_lt, ih⟩
        have hloop := hP.iterate_skipMemberStep h (Nat.le_of_succ_le_succ hroom)
        rw [skipValue, skipSpace_cons rfl]
        simp [hloop]

/-- **Every value is passed over**, and what follows it is left. -/
theorem skip_of_isValue {shape : Shape} {cs t r : List Char} (hblanks : Blanks cs t)
    (h : IsValue shape t r) (hr : EndsNumber r) : skip cs = .ok r := by
  obtain ⟨depth, h⟩ := h
  rw [skip, skipValue_of_blanks hblanks, skipValue_of_valueText h hr hblanks.length_le]

end Json
end AccountingPage
