import AccountingPage.Json.Reading

/-!
# The grammar of JSON texts

What a JSON text is, said without a reader.  Each relation takes two stretches of characters: the
first one begins with what the relation is about, and the second one is what follows.  So the
relations fit together as the pieces of a text do, and none of them says how a reader finds its way.

* `Blanks`, `Spells`, `Quoted` and `NumberText` are about blanks, strings and numbers.  A string that
  spells a text has its surrogates in pairs; one that is merely quoted need not.
* `Shape` is what a value is, apart from what its brackets hold; `Scalar` are the values without
  brackets.
* `Pieces` is what stands between two brackets, up to the closing one.
* `ValueText depth` are the values whose brackets are nested no deeper than that, `IsValue` all of
  them.
* `ObjectText` and `ListText` are about whole texts.
-/

set_option autoImplicit false

namespace AccountingPage
namespace Json
namespace Grammar

/-! ## Blanks and strings -/

/-- Any number of blanks. -/
inductive Blanks : List Char → List Char → Prop where
  | none {r : List Char} : Blanks r r
  | more {c : Char} {t r : List Char} (hc : isSpace c = true) (h : Blanks t r) : Blanks (c :: t) r

/-- A hexadecimal digit, in either case, and its value. -/
def HexDigit (v : Nat) (c : Char) : Prop :=
  v < 16 ∧ (c = Nat.digitChar v ∨ c = (Nat.digitChar v).toUpper)

/-- Four hexadecimal digits and the number that they make. -/
inductive HexFour : Nat → List Char → List Char → Prop where
  | digits {a b c d : Nat} {w x y z : Char} {r : List Char} (ha : HexDigit a w) (hb : HexDigit b x)
      (hc : HexDigit c y) (hd : HexDigit d z) :
      HexFour (((16 * a + b) * 16 + c) * 16 + d) (w :: x :: y :: z :: r) r

/-- The letters that may follow a backslash, and the characters that they stand for then. -/
def shortEscapes : List (Char × Char) :=
  [('"', '"'), ('\\', '\\'), ('/', '/'), ('b', '\x08'), ('f', '\x0c'), ('n', '\n'), ('r', '\r'),
    ('t', '\t')]

/-- A character that stands for itself. -/
def Plain (c : Char) : Prop := c ≠ '"' ∧ c ≠ '\\' ∧ 0x20 ≤ c.toNat

/-- A string after its opening quote, and the text that it spells.  A character beyond the first
plane is spelled by itself or by a pair of surrogates. -/
inductive Spells : List Char → List Char → List Char → Prop where
  | close {r : List Char} : Spells [] ('"' :: r) r
  | plain {c : Char} {s t r : List Char} (hc : Plain c) (h : Spells s t r) :
      Spells (c :: s) (c :: t) r
  | escape {e c : Char} {s t r : List Char} (he : (e, c) ∈ shortEscapes) (h : Spells s t r) :
      Spells (c :: s) ('\\' :: e :: t) r
  | code {n : Nat} {s t u r : List Char} (hn : HexFour n t u) (hrange : n < 0xD800 ∨ 0xDFFF < n)
      (h : Spells s u r) : Spells (Char.ofNat n :: s) ('\\' :: 'u' :: t) r
  | pair {high low : Nat} {s t u v r : List Char} (hhigh : HexFour high t ('\\' :: 'u' :: u))
      (hlow : HexFour low u v) (hhighRange : 0xD800 ≤ high ∧ high ≤ 0xDBFF)
      (hlowRange : 0xDC00 ≤ low ∧ low ≤ 0xDFFF) (h : Spells s v r) :
      Spells (Char.ofNat (0x10000 + (high - 0xD800) * 0x400 + (low - 0xDC00)) :: s)
        ('\\' :: 'u' :: t) r

/-- A string after its opening quote, whatever it spells. -/
inductive Quoted : List Char → List Char → Prop where
  | close {r : List Char} : Quoted ('"' :: r) r
  | plain {c : Char} {t r : List Char} (hc : Plain c) (h : Quoted t r) : Quoted (c :: t) r
  | escape {e c : Char} {t r : List Char} (he : (e, c) ∈ shortEscapes) (h : Quoted t r) :
      Quoted ('\\' :: e :: t) r
  | code {n : Nat} {t u r : List Char} (hn : HexFour n t u) (h : Quoted u r) :
      Quoted ('\\' :: 'u' :: t) r

theorem Spells.quoted {s t r : List Char} (h : Spells s t r) : Quoted t r := by
  induction h with
  | close => exact .close
  | plain hc _ ih => exact .plain hc ih
  | escape he _ ih => exact .escape he ih
  | code hn _ _ ih => exact .code hn ih
  | pair hhigh hlow _ _ _ ih => exact .code hhigh (.code hlow ih)

theorem spells_of_forall_plain {s : List Char} (h : ∀ c ∈ s, Plain c) (r : List Char) :
    Spells s (s ++ '"' :: r) r := by
  induction s with
  | nil => exact .close
  | cons c s ih =>
    obtain ⟨hc, hs⟩ := List.forall_mem_cons.1 h
    exact .plain hc (ih hs)

theorem HexFour.unique {n n' : Nat} {t u u' : List Char} (h : HexFour n t u)
    (h' : HexFour n' t u') : u = u' := by
  cases h
  cases h'
  rfl

/-- A string ends at the first quote that is not escaped. -/
theorem Quoted.unique {t r r' : List Char} (h : Quoted t r) (h' : Quoted t r') : r = r' := by
  have hletter : ∀ c, ('u', c) ∉ shortEscapes := by simp [shortEscapes]
  induction h with
  | close =>
    cases h' with
    | close => rfl
    | plain hc => exact absurd rfl hc.1
  | plain hc _ ih =>
    cases h' with
    | close => exact absurd rfl hc.1
    | plain _ h' => exact ih h'
    | escape | code => exact absurd rfl hc.2.1
  | escape he _ ih =>
    cases h' with
    | plain hc => exact absurd rfl hc.2.1
    | escape _ h' => exact ih h'
    | code => exact absurd he (hletter _)
  | code hn _ ih =>
    cases h' with
    | plain hc => exact absurd rfl hc.2.1
    | escape he => exact absurd he (hletter _)
    | code hn' h' => exact ih (hn.unique hn' ▸ h')

/-! ## Numbers -/

/-- One digit or more. -/
def Digits (ds : List Char) : Prop := ds ≠ [] ∧ ∀ c ∈ ds, c.isDigit = true

/-- Digits without a zero in front, unless zero is all there is. -/
def Whole (ds : List Char) : Prop := Digits ds ∧ (ds.head? = some '0' → ds = ['0'])

inductive Fraction : List Char → Prop where
  | none : Fraction []
  | some {ds : List Char} (h : Digits ds) : Fraction ('.' :: ds)

inductive Exponent : List Char → Prop where
  | none : Exponent []
  | some {e : Char} {sign ds : List Char} (he : e = 'e' ∨ e = 'E')
      (hsign : sign = [] ∨ sign = ['+'] ∨ sign = ['-']) (h : Digits ds) :
      Exponent (e :: (sign ++ ds))

/-- A number after its minus sign. -/
inductive Numeral : List Char → Prop where
  | parts {ds f e : List Char} (hds : Whole ds) (hf : Fraction f) (he : Exponent e) :
      Numeral (ds ++ f ++ e)

inductive NumberText : List Char → Prop where
  | plain {t : List Char} (h : Numeral t) : NumberText t
  | negative {t : List Char} (h : Numeral t) : NumberText ('-' :: t)

/-! ## Values -/

/-- What a value is, apart from what its brackets hold: a number is known by its text, a string by
what it spells. -/
inductive Shape where
  | null
  | boolean (b : Bool)
  | number (text : List Char)
  | string (s : String)
  /-- A string that spells nothing, for want of the other half of a surrogate. -/
  | brokenString
  | array
  | object
deriving DecidableEq, Repr

/-- A value without brackets. -/
inductive Scalar : Shape → List Char → List Char → Prop where
  | null {r : List Char} : Scalar .null ('n' :: 'u' :: 'l' :: 'l' :: r) r
  | yes {r : List Char} : Scalar (.boolean true) ('t' :: 'r' :: 'u' :: 'e' :: r) r
  | no {r : List Char} : Scalar (.boolean false) ('f' :: 'a' :: 'l' :: 's' :: 'e' :: r) r
  | number {text r : List Char} (h : NumberText text) : Scalar (.number text) (text ++ r) r
  | string {s : String} {t r : List Char} (h : Spells s.toList t r) :
      Scalar (.string s) ('"' :: t) r
  | brokenString {t r : List Char} (h : Quoted t r) (hs : ∀ s r, ¬Spells s t r) :
      Scalar .brokenString ('"' :: t) r

theorem scalar_of_quoted {t r : List Char} (h : Quoted t r) : ∃ v, Scalar v ('"' :: t) r := by
  by_cases hspells : ∃ s r', Spells s t r'
  · obtain ⟨s, r', hs⟩ := hspells
    obtain rfl := hs.quoted.unique h
    exact ⟨.string (String.ofList s), .string (by rwa [String.toList_ofList])⟩
  · exact ⟨.brokenString, .brokenString h fun s r' hs => hspells ⟨s, r', hs⟩⟩

/-! ### What stands between two brackets -/

section Pieces

variable {α ν : Type}

/-- What comes before a piece: blanks, and unless it is the first one a comma among them. -/
inductive Separator : Bool → List Char → List Char → Prop where
  | first {t u : List Char} (h : Blanks t u) : Separator true t u
  | comma {t u v : List Char} (h : Blanks t (',' :: u)) (h' : Blanks u v) : Separator false t v

/-- Pieces up to the closing bracket and with it; `first` says whether none has come before. -/
inductive Pieces (P : α → List Char → List Char → Prop) (close : Char) :
    Bool → List α → List Char → List Char → Prop where
  | close {first : Bool} {t r : List Char} (h : Blanks t (close :: r)) :
      Pieces P close first [] t r
  | piece {first : Bool} {a : α} {as : List α} {t u v r : List Char} (hsep : Separator first t u)
      (ha : P a u v) (h : Pieces P close false as v r) : Pieces P close first (a :: as) t r

/-- A member of an object: its name, a colon, its value. -/
inductive Member (Name : ν → List Char → List Char → Prop) (P : α → List Char → List Char → Prop) :
    ν × α → List Char → List Char → Prop where
  | colon {name : ν} {a : α} {t u v w r : List Char} (hname : Name name t u)
      (hcolon : Blanks u (':' :: v)) (hblanks : Blanks v w) (ha : P a w r) :
      Member Name P (name, a) ('"' :: t) r

end Pieces

/-- A value whose brackets, if it has any, hold values of which `P` is true. -/
inductive Bracketed (P : Shape → List Char → List Char → Prop) :
    Shape → List Char → List Char → Prop where
  | scalar {v : Shape} {t r : List Char} (h : Scalar v t r) : Bracketed P v t r
  | array {items : List Shape} {t r : List Char} (h : Pieces P ']' true items t r) :
      Bracketed P .array ('[' :: t) r
  | object {members : List (Unit × Shape)} {t r : List Char}
      (h : Pieces (Member (fun _ => Quoted) P) '\x7d' true members t r) :
      Bracketed P .object ('\x7b' :: t) r

/-- A value whose brackets are nested no deeper than `depth`. -/
def ValueText : Nat → Shape → List Char → List Char → Prop
  | 0 => Scalar
  | depth + 1 => Bracketed (ValueText depth)

/-- Any value at all. -/
def IsValue (v : Shape) (t r : List Char) : Prop := ∃ depth, ValueText depth v t r

/-! ## Whole texts -/

/-- A member of an object whose name spells a text. -/
def NamedMember : String × Shape → List Char → List Char → Prop :=
  Member (fun name => Spells name.toList) IsValue

/-- An object with these members in this order, among blanks. -/
def ObjectText (members : List (String × Shape)) (text : List Char) : Prop :=
  ∃ t r, Blanks text ('\x7b' :: t) ∧ Pieces NamedMember '\x7d' true members t r ∧ Blanks r []

/-- A list of these items in this order, among blanks. -/
def ListText (items : List Shape) (text : List Char) : Prop :=
  ∃ t r, Blanks text ('[' :: t) ∧ Pieces IsValue ']' true items t r ∧ Blanks r []

/-! ## How the pieces begin -/

theorem Blanks.trans {t u v : List Char} (h : Blanks t u) (h' : Blanks u v) : Blanks t v := by
  induction h with
  | none => exact h'
  | more hc _ ih => exact .more hc (ih h')

theorem ValueText.scalar {depth : Nat} {v : Shape} {t r : List Char} (h : Scalar v t r) :
    ValueText depth v t r := by
  cases depth with
  | zero => exact h
  | succ depth => exact Bracketed.scalar h

theorem Numeral.head_isDigit {t : List Char} (h : Numeral t) :
    ∃ c cs, t = c :: cs ∧ c.isDigit = true := by
  cases h with
  | @parts ds f e hds hf he =>
    obtain ⟨⟨hne, hdigits⟩, -⟩ := hds
    cases ds with
    | nil => exact absurd rfl hne
    | cons c ds => exact ⟨c, _, rfl, hdigits c List.mem_cons_self⟩

/-- A number begins with its sign or with a digit. -/
theorem NumberText.head {t : List Char} (h : NumberText t) :
    ∃ c cs, t = c :: cs ∧ (c = '-' ∨ c.isDigit = true) := by
  cases h with
  | plain h =>
    obtain ⟨c, cs, hcs, hc⟩ := h.head_isDigit
    exact ⟨c, cs, hcs, .inr hc⟩
  | negative h => exact ⟨'-', _, rfl, .inl rfl⟩

end Grammar
end Json
end AccountingPage
