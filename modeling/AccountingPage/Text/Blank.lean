/-!
# Blank characters

The characters with Unicode's `White_Space` property.  A typed number may be preceded by them, and
a setting that consists of nothing else counts as empty.

* `Text.isBlank` is the class, `Text.trimStart` drops its members from the front.
* `Text.allBlank` is what a required setting must not be.
-/

set_option autoImplicit false

namespace AccountingPage
namespace Text

/-- The `White_Space` characters: 25 of them, in ten ranges. -/
def isBlank (c : Char) : Bool :=
  let n := c.toNat
  (0x9 ≤ n && n ≤ 0xD) || n == 0x20 || n == 0x85 || n == 0xA0 || n == 0x1680 ||
    (0x2000 ≤ n && n ≤ 0x200A) || n == 0x2028 || n == 0x2029 || n == 0x202F || n == 0x205F ||
    n == 0x3000

def trimStart (s : String) : List Char := s.toList.dropWhile isBlank

def allBlank (s : String) : Bool := s.toList.all isBlank

end Text
end AccountingPage
