import SpoilerMarkup.Text.Blank

/-!
A character in single quotes, as an error message shows it.
-/
namespace SpoilerMarkup.Text

def hexNumber (n : Nat) : String :=
  String.ofList (Nat.toDigits 16 n)

/-- What stands between the quotes. Tab, line feed, carriage return, the single quote and
the backslash have short forms; other white space, the space itself apart, is shown by its
code point. -/
def quotedBody (c : Char) : String :=
  match c with
  | '\t' => "\\t"
  | '\n' => "\\n"
  | '\r' => "\\r"
  | '\'' => "\\'"
  | '\\' => "\\\\"
  | ' ' => " "
  | c => if isBlank c then "\\u\x7b" ++ hexNumber c.toNat ++ "\x7d" else c.toString

def quoted (c : Char) : String :=
  "'" ++ quotedBody c ++ "'"

end SpoilerMarkup.Text
