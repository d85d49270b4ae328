import AccountingPage.Json.Reading

/-!
# Reading a string

The characters between the quotes, with the escapes undone.  An escape by code point has four
hexadecimal digits; a character beyond the first plane takes two of them, a high surrogate and then
a low one.

* `hexFour` reads the four digits, `codePoint` an escape by code point.
* `escaped` reads what follows a backslash.
* `quotation` reads a string after its opening quote.
-/

set_option autoImplicit false

namespace AccountingPage
namespace Json

def hexValue? (c : Char) : Option Nat :=
  if '0' ≤ c ∧ c ≤ '9' then some (c.toNat - '0'.toNat)
  else if 'a' ≤ c ∧ c ≤ 'f' then some (c.toNat - 'a'.toNat + 10)
  else if 'A' ≤ c ∧ c ≤ 'F' then some (c.toNat - 'A'.toNat + 10)
  else none

/-- Four bytes are taken whatever they are, or all that is left if that is less. -/
def hexFault (cs : List Char) : Except Fault (Nat × List Char) :=
  .error ⟨if byteCount cs < 4 then .eofInString else .invalidEscape, cs, 4, false⟩

def hexFour : Reader Nat
  | a :: b :: c :: d :: rest =>
    match hexValue? a, hexValue? b, hexValue? c, hexValue? d with
    | some a, some b, some c, some d => .ok (((16 * a + b) * 16 + c) * 16 + d, rest)
    | _, _, _, _ => hexFault (a :: b :: c :: d :: rest)
  | cs => hexFault cs

def isHighSurrogate (n : Nat) : Bool := 0xD800 ≤ n && n ≤ 0xDBFF

def isLowSurrogate (n : Nat) : Bool := 0xDC00 ≤ n && n ≤ 0xDFFF

/-- The second half of a surrogate pair, from its backslash on. -/
def lowSurrogate : Reader Nat
  | [] => fault .eofInString []
  | '\\' :: [] => fault .eofInString []
  | '\\' :: 'u' :: cs =>
    match hexFour cs with
    | .error f => .error f
    | .ok (n, rest) => if isLowSurrogate n then .ok (n, rest) else fault .loneSurrogate rest
  | '\\' :: cs => faultPast .unfinishedSurrogatePair cs
  | cs => faultPast .unfinishedSurrogatePair cs

/-- An escape by code point, after its `u`. -/
def codePoint : Reader Char := fun cs =>
  match hexFour cs with
  | .error f => .error f
  | .ok (n, rest) =>
    if isLowSurrogate n then fault .loneSurrogate rest
    else if isHighSurrogate n then
      match lowSurrogate rest with
      | .error f => .error f
      | .ok (m, rest) => .ok (Char.ofNat (0x10000 + (n - 0xD800) * 0x400 + (m - 0xDC00)), rest)
    else .ok (Char.ofNat n, rest)

/-- The escapes of one letter. -/
def shortEscape? : Char → Option Char
  | '"' => some '"'
  | '\\' => some '\\'
  | '/' => some '/'
  | 'b' => some '\x08'
  | 'f' => some '\x0c'
  | 'n' => some '\n'
  | 'r' => some '\r'
  | 't' => some '\t'
  | _ => none

/-- What follows a backslash. -/
def escaped : Reader Char
  | [] => fault .eofInString []
  | c :: cs =>
    if c = 'u' then codePoint cs
    else
      match shortEscape? c with
      | some d => .ok (d, cs)
      | none => faultPast .invalidEscape (c :: cs)

/-- One character of a string, or its end.  The characters read so far stand in reverse. -/
def quotationStep (sofar : List Char) : Reader (Turn (List Char) String)
  | [] => fault .eofInString []
  | c :: cs =>
    if c = '"' then .ok (.leave (String.ofList sofar.reverse), cs)
    else if c = '\\' then
      match escaped cs with
      | .error f => .error f
      | .ok (d, rest) => .ok (.again (d :: sofar), rest)
    else if c.toNat < 0x20 then faultPast .controlCharacter (c :: cs)
    else .ok (.again (c :: sofar), cs)

/-- A string after its opening quote. -/
def quotation : Reader String := iterate quotationStep []

/-! ## Every turn takes a character -/

theorem length_hexFour {cs rest : List Char} {n : Nat} (h : hexFour cs = .ok (n, rest)) :
    rest.length + 4 = cs.length := by
  unfold hexFour at h
  split at h
  · split at h
    · cases h
      rfl
    · exact absurd h (by simp [hexFault])
  · exact absurd h (by simp [hexFault])

theorem length_lowSurrogate {cs rest : List Char} {n : Nat}
    (h : lowSurrogate cs = .ok (n, rest)) : rest.length + 6 = cs.length := by
  unfold lowSurrogate at h
  split at h
  · exact absurd h (by simp [fault])
  · exact absurd h (by simp [fault])
  · split at h
    · exact absurd h (by simp)
    · rename_i hx
      have hlen := length_hexFour hx
      split at h
      · cases h
        simp only [List.length_cons]
        omega
      · exact absurd h (by simp [fault])
  · exact absurd h (by simp [faultPast])
  · exact absurd h (by simp [faultPast])

theorem length_codePoint_le {cs rest : List Char} {c : Char} (h : codePoint cs = .ok (c, rest)) :
    rest.length ≤ cs.length := by
  unfold codePoint at h
  split at h
  · exact absurd h (by simp)
  · rename_i hx
    have hlen := length_hexFour hx
    split at h
    · exact absurd h (by simp [fault])
    · split at h
      · split at h
        · exact absurd h (by simp)
        · rename_i hy
          have hlen' := length_lowSurrogate hy
          rw [← (Prod.mk.inj (Except.ok.inj h)).2]
          omega
      · rw [← (Prod.mk.inj (Except.ok.inj h)).2]
        omega

theorem length_escaped_le {cs rest : List Char} {c : Char} (h : escaped cs = .ok (c, rest)) :
    rest.length ≤ cs.length := by
  unfold escaped at h
  split at h
  · exact absurd h (by simp [fault])
  · split at h
    · exact Nat.le_succ_of_le (length_codePoint_le h)
    · split at h
      · cases h
        exact Nat.le_succ _
      · exact absurd h (by simp [faultPast])

theorem advances_quotationStep : Advances quotationStep := by
  intro s cs s' rest h
  unfold quotationStep at h
  split at h
  · exact absurd h (by simp [fault])
  · split at h
    · exact absurd h (by simp)
    · split at h
      · split at h
        · exact absurd h (by simp)
        · rename_i hx
          cases h
          exact Nat.lt_succ_of_le (length_escaped_le hx)
      · split at h
        · exact absurd h (by simp [faultPast])
        · cases h
          exact Nat.lt_succ_self _

end Json
end AccountingPage
