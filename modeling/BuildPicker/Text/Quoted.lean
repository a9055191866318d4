import BuildPicker.Text.Unprintable

/-!
Texts in quotes, as messages show them.

The quote and the backslash are escaped. The line feed, the carriage return, the
tab and the null character have a letter of their own; other characters that cannot
be printed are given by their number.
-/

namespace BuildPicker.Text

/-- How one character stands in a message. -/
def shown : Char → List Char
  | '"' => ['\\', '"']
  | '\\' => ['\\', '\\']
  | '\n' => ['\\', 'n']
  | '\r' => ['\\', 'r']
  | '\t' => ['\\', 't']
  | '\x00' => ['\\', '0']
  | c =>
    if isUnprintable c then ['\\', 'u', '\x7b'] ++ Nat.toDigits 16 c.toNat ++ ['\x7d'] else [c]

def quoteForMessage (s : String) : String :=
  String.ofList ('"' :: s.toList.flatMap shown ++ ['"'])

end BuildPicker.Text
