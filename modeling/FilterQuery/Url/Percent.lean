import FilterQuery.Text.Hex

namespace FilterQuery.Url

open FilterQuery.Text

def utf8 (c : Char) : List UInt8 := String.utf8EncodeChar c

def upperHex (n : UInt8) : List Char :=
  [(Nat.digitChar (n.toNat / 16)).toUpper, (Nat.digitChar (n.toNat % 16)).toUpper]

/-- A set of ASCII characters that are encoded. Control characters and all that is not ASCII are
encoded everywhere. -/
abbrev EncodeSet := Char → Bool

def isControl (c : Char) : Bool := c.toNat < 32 || c.toNat == 127

namespace EncodeSet

def least : EncodeSet := fun _ => false

def fragment : EncodeSet := fun c => " \"<>\x60".contains c

def path : EncodeSet := fun c => " \"<>\x60#?\x7b\x7d".contains c

def userinfo : EncodeSet := fun c => path c || "/:;=@[\\]^|".contains c

def query : EncodeSet := fun c => " \"#<>".contains c

def specialQuery : EncodeSet := fun c => query c || c == '\''

def form : EncodeSet := fun c => !(c.isAlphanum || "*-._".contains c)

end EncodeSet

def percentEncodeChar (set : EncodeSet) (c : Char) : List Char :=
  if isControl c || c.toNat ≥ 128 || set c then (utf8 c).flatMap fun b => '%' :: upperHex b
  else [c]

def percentEncode (set : EncodeSet) (cs : List Char) : List Char :=
  cs.flatMap (percentEncodeChar set)

def formEncode (cs : List Char) : List Char :=
  cs.flatMap fun c => if c == ' ' then ['+'] else percentEncodeChar .form c

/-- The bytes that a text stands for. A percent sign without two hexadecimal digits stands for
itself. -/
def percentDecode : List Char → List UInt8
  | [] => []
  | '%' :: a :: b :: cs =>
    match hexDigit? a, hexDigit? b with
    | some high, some low => UInt8.ofNat (16 * high + low) :: percentDecode cs
    | _, _ => utf8 '%' ++ percentDecode (a :: b :: cs)
  | c :: cs => utf8 c ++ percentDecode cs

end FilterQuery.Url
