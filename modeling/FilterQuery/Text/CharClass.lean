import FilterQuery.Text.RangeSet
import FilterQuery.Text.Alphabetic
import FilterQuery.Text.Numeric

namespace FilterQuery.Text

/-- The code points with the Unicode property White_Space. -/
def blankBounds : List Nat :=
  [9, 14, 32, 33, 133, 134, 160, 161, 5760, 5761, 8192, 8203, 8232, 8234, 8239, 8240, 8287, 8288,
    12288, 12289]

def isBlank (c : Char) : Bool := within blankBounds c.toNat

def isAlphabetic (c : Char) : Bool := within alphabeticBounds c.toNat

def isAlphanumeric (c : Char) : Bool := isAlphabetic c || within numericBounds c.toNat

def isNameStart (c : Char) : Bool := isAlphabetic c || c == '_'

def isNamePart (c : Char) : Bool := isAlphanumeric c || c == '.' || c == '_'

/-- The number of bytes that a text takes in UTF-8. -/
def width : List Char → Nat
  | [] => 0
  | c :: cs => c.utf8Size + width cs

def trimStart (cs : List Char) : List Char := cs.dropWhile isBlank

def trim (cs : List Char) : List Char := (trimStart (trimStart cs).reverse).reverse

/-- The words of a text: its longest pieces without a blank. -/
def words (cs : List Char) : List (List Char) :=
  (cs.splitBy fun a b => isBlank a == isBlank b).filter fun w => !w.any isBlank

end FilterQuery.Text
