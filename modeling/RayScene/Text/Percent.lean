import RayScene.Text.Utf8

/-!
# Percent escapes

An escape is a percent sign with two hexadecimal digits and stands for a byte. A percent sign
without two such digits stands for itself.
-/

namespace RayScene.Percent

def unescape : List Char → Bytes
  | '%' :: high :: low :: rest =>
    match Text.hexValue? high, Text.hexValue? low with
    | some h, some l => UInt8.ofNat (16 * h + l) :: unescape rest
    | _, _ => 0x25 :: unescape (high :: low :: rest)
  | c :: rest => String.utf8EncodeChar c ++ unescape rest
  | [] => []
termination_by cs => cs.length

def decode (s : String) : String := Utf8.decodeLossy (unescape s.toList)

/-- The characters that stand for themselves in a URL, percent signs included: letters, digits and
marks. -/
def isPlain (c : Char) : Bool :=
  c.isAlphanum || "-._~:/%#?=@[]!$&'()*+,;".toList.contains c

def escapeByte (b : UInt8) : List Char :=
  '%' :: (Text.hexDigits b.toNat 2).map Char.toUpper

def encode (s : String) : String :=
  String.ofList (s.toList.flatMap fun c =>
    if isPlain c then [c] else (String.utf8EncodeChar c).flatMap escapeByte)

end RayScene.Percent
