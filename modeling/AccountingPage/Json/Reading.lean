import AccountingPage.Json.Error

/-!
# Reading a JSON text

A reader takes the characters that are left and either gives what it read with the characters that
are left then, or a fault.  A fault remembers the characters that were left and how many bytes
beyond them it points, so that its place can be worked out from the whole text at the end.

* `Fault` and `Reader` are the common types; `fault`, `faultPast` and
  `floatingFault` make faults.
* `iterate` is the one loop of the readers: it repeats a step until the step leaves.  It is given
  one turn more than there are characters, so it ends before its turns do if each turn but the last
  takes a character (`iterate_eq`).
* `document` reads a text from end to end.
-/

set_option autoImplicit false

namespace AccountingPage
namespace Json

structure Fault where
  cause : Cause
  rest : List Char
  ahead : Nat
  /-- The place is not settled before the surrounding bracket is closed. -/
  floating : Bool
deriving Inhabited

abbrev Reader (α : Type) := List Char → Except Fault (α × List Char)

variable {α σ ρ : Type}

/-- A fault at the characters that are left. -/
def fault (cause : Cause) (rest : List Char) : Except Fault α := .error ⟨cause, rest, 0, false⟩

/-- A fault at the end of the next byte, or at the end of the text if none is left. -/
def faultPast (cause : Cause) (rest : List Char) : Except Fault α := .error ⟨cause, rest, 1, false⟩

/-- A fault whose place is where the surrounding bracket is closed. -/
def floatingFault (cause : Cause) (rest : List Char) : Except Fault α :=
  .error ⟨cause, rest, 0, true⟩

/-! ## The loop -/

/-- What a turn of a loop decides. -/
inductive Turn (σ ρ : Type) where
  | again (s : σ)
  | leave (r : ρ)

def iterateFor (step : σ → Reader (Turn σ ρ)) : Nat → σ → Reader ρ
  | 0, _, cs => fault .eofInValue cs
  | turns + 1, s, cs =>
    match step s cs with
    | .error e => .error e
    | .ok (.leave r, rest) => .ok (r, rest)
    | .ok (.again s', rest) => iterateFor step turns s' rest

def iterate (step : σ → Reader (Turn σ ρ)) (s : σ) : Reader ρ := fun cs =>
  iterateFor step (cs.length + 1) s cs

/-- Each turn that does not leave takes at least one character. -/
def Advances (step : σ → Reader (Turn σ ρ)) : Prop :=
  ∀ s cs s' rest, step s cs = .ok (.again s', rest) → rest.length < cs.length

theorem iterateFor_eq {step : σ → Reader (Turn σ ρ)} (h : Advances step) {m n : Nat} {s : σ}
    {cs : List Char} (hm : cs.length < m) (hn : cs.length < n) :
    iterateFor step m s cs = iterateFor step n s cs := by
  induction m generalizing n s cs with
  | zero => exact absurd hm (Nat.not_lt_zero _)
  | succ m ih =>
    cases n with
    | zero => exact absurd hn (Nat.not_lt_zero _)
    | succ n =>
      rw [iterateFor, iterateFor]
      cases hs : step s cs with
      | error e => rfl
      | ok p =>
        obtain ⟨t, rest⟩ := p
        cases t with
        | leave r => rfl
        | again s' =>
          have hlt := h s cs s' rest hs
          exact ih (by omega) (by omega)

/-- **The turns never run out.**  A loop whose steps advance is the fixed point of its step. -/
theorem iterate_eq {step : σ → Reader (Turn σ ρ)} (h : Advances step) (s : σ) (cs : List Char) :
    iterate step s cs =
      match step s cs with
      | .error e => .error e
      | .ok (.leave r, rest) => .ok (r, rest)
      | .ok (.again s', rest) => iterate step s' rest := by
  rw [iterate, iterateFor]
  cases hs : step s cs with
  | error e => rfl
  | ok p =>
    obtain ⟨t, rest⟩ := p
    cases t with
    | leave r => rfl
    | again s' => exact iterateFor_eq h (h s cs s' rest hs) (Nat.lt_succ_self _)

/-! ## Blanks and words -/

def isSpace (c : Char) : Bool := c == ' ' || c == '\n' || c == '\t' || c == '\r'

def skipSpace (cs : List Char) : List Char := cs.dropWhile isSpace

/-- The rest of a word whose first letter has been read. -/
def word : List Char → List Char → Except Fault (List Char)
  | [], cs => .ok cs
  | _ :: _, [] => fault .eofInValue []
  | w :: ws, c :: cs => if c = w then word ws cs else faultPast .expectedIdent (c :: cs)

/-! ## Whole texts -/

def byteCount (cs : List Char) : Nat := cs.foldr (fun c n => c.utf8Size + n) 0

/-- The place of a fault in the whole text. -/
def Fault.toError (whole : List Char) (f : Fault) : Error :=
  let passed := byteCount whole - byteCount f.rest + f.ahead
  let (line, column) := place whole passed (1, 0)
  ⟨f.cause, line, column⟩

/-- Nothing but blanks may follow. -/
def atEnd (cs : List Char) : Except Fault Unit :=
  match skipSpace cs with
  | [] => .ok ()
  | rest => faultPast .trailingCharacters rest

def document (read : Reader α) (text : String) : Except Error α :=
  match read text.toList with
  | .error f => .error (f.toError text.toList)
  | .ok (a, rest) =>
    match atEnd rest with
    | .error f => .error (f.toError text.toList)
    | .ok () => .ok a

end Json
end AccountingPage
