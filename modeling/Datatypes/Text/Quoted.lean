import Datatypes.Text.Unprintable

/-! # Quoted text

The form in which strings are shown for inspection: between double quotes, with
the quote, the backslash, the usual control characters and everything without a
glyph of its own written as an escape.
-/

namespace Datatypes.Text

/-- The characters that stand for one character of a quoted string. -/
def quotedChar (c : Char) : List Char :=
  match c with
  | '"' => ['\\', '"']
  | '\\' => ['\\', '\\']
  | '\t' => ['\\', 't']
  | '\n' => ['\\', 'n']
  | '\r' => ['\\', 'r']
  | '\x00' => ['\\', '0']
  | c =>
      if isUnprintable c then ['\\', 'u', '\x7b'] ++ Nat.toDigits 16 c.toNat ++ ['\x7d']
      else [c]

/-- A string as it is shown for inspection. -/
def quoted (s : String) : String :=
  String.ofList ('"' :: (s.toList.flatMap quotedChar ++ ['"']))

end Datatypes.Text
