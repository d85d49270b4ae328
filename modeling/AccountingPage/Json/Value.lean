import AccountingPage.Decimal.Layout
import AccountingPage.Text.Quoted

/-!
# JSON values

The values of the JSON texts that the page exchanges with its server and keeps in its store.  The
members of an object stay in the order in which they are written, and names may repeat.

* `Json.Number` keeps whole numbers apart from doubles, so that no whole number is rounded.
* `Json.Value` is the value type.
* `Json.Value.describe` is how an error message names a value that stands in the wrong place.
-/

set_option autoImplicit false

namespace AccountingPage
namespace Json

inductive Number where
  | integer (n : Int)
  | double (x : Float)
deriving Inhabited

inductive Value where
  | null
  | boolean (b : Bool)
  | number (n : Number)
  | string (s : String)
  | array (items : List Value)
  | object (members : List (String × Value))
deriving Inhabited

namespace Value

def text? : Value → Option String
  | string s => some s
  | _ => none

def boolean? : Value → Option Bool
  | boolean b => some b
  | _ => none

end Value

/-- Doubles have a fraction of at least one digit; an exponent is written below `1e-5` and from
`1e16` on; of two nearest decimals the even one is taken. -/
def doubleStyle : Decimal.Style := ⟨.toEven, fun point => -4 ≤ point && point ≤ 16, true⟩

/-- Only the kind of an array or an object is named. -/
def Value.describe : Value → String
  | null => "null"
  | boolean b => s!"boolean `{b}`"
  | number (.integer n) => s!"integer `{n}`"
  | number (.double x) => s!"floating point `{Decimal.write doubleStyle x}`"
  | string s => s!"string {Text.quote s}"
  | array _ => "sequence"
  | object _ => "map"

end Json
end AccountingPage
