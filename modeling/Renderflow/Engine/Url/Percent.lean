import Renderflow.Text.Digit

/-!
# Percent encoding

The bytes of a character that must not stand in a part of a URL are written as `%` and two
hexadecimal digits. Which characters those are depends on the part; control characters and
characters beyond ASCII are always among them.
-/

namespace Renderflow.Url

def isControl (c : Char) : Bool :=
  c.toNat < 0x20 || 0x7F ≤ c.toNat

def among (marks : String) (c : Char) : Bool :=
  isControl c || marks.toList.contains c

/-! ## What is encoded in each part -/

def inFragment : Char → Bool := among " \"<>`"

def inQuery : Char → Bool := among " \"#<>"

def inSpecialQuery : Char → Bool := among " \"#<>'"

def inPath : Char → Bool := among " \"<>`#?\x7b\x7d"

def inUserInfo : Char → Bool := among " \"<>`#?\x7b\x7d/:;=@[\\]^|"

def hexUpper (n : Nat) : Char :=
  if n < 10 then Char.ofNat (48 + n) else Char.ofNat (55 + n)

def encodeByte (b : UInt8) : List Char :=
  ['%', hexUpper (b.toNat / 16), hexUpper (b.toNat % 16)]

def encodeChar (mustEncode : Char → Bool) (c : Char) : List Char :=
  if mustEncode c then (String.singleton c).toUTF8.toList.flatMap encodeByte else [c]

def encode (mustEncode : Char → Bool) (cs : List Char) : String :=
  String.ofList (cs.flatMap (encodeChar mustEncode))

/-- The bytes of a text whose encoded bytes are decoded. -/
def decodeBytes : List Char → List UInt8
  | '%' :: a :: b :: rest =>
    match Text.hexValue? a, Text.hexValue? b with
    | some x, some y => UInt8.ofNat (16 * x + y) :: decodeBytes rest
    | _, _ => 0x25 :: decodeBytes (a :: b :: rest)
  | c :: rest => (String.singleton c).toUTF8.toList ++ decodeBytes rest
  | [] => []

/-- The text whose bytes are decoded, if they are UTF-8. -/
def decode? (cs : List Char) : Option String :=
  String.fromUTF8? ⟨(decodeBytes cs).toArray⟩

end Renderflow.Url
