/-!
Text in web addresses: every byte of a character that may not stand for itself is written as a
percent sign and two hexadecimal digits.
-/

set_option autoImplicit false

namespace SeriesQuery.Text

def hexDigit (value : Nat) : Char := (Nat.digitChar value).toUpper

def percentByte (byte : UInt8) : List Char :=
  ['%', hexDigit (byte.toNat / 16), hexDigit (byte.toNat % 16)]

def percentChar (c : Char) : List Char := (String.utf8EncodeChar c).flatMap percentByte

def isUnreserved (c : Char) : Bool :=
  c.isAlphanum || c == '-' || c == '_' || c == '.' || c == '~'

def percentEncoded (text : String) : String :=
  String.ofList (text.toList.flatMap fun c => if isUnreserved c then [c] else percentChar c)

/-- Letters, digits and `*-._` stand for themselves, and a plus sign for a space. -/
def formChar (c : Char) : List Char :=
  if c.isAlphanum || c == '*' || c == '-' || c == '.' || c == '_' then [c]
  else if c = ' ' then ['+']
  else percentChar c

def formEncoded (text : String) : String := String.ofList (text.toList.flatMap formChar)

end SeriesQuery.Text
