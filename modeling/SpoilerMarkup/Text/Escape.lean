/-!
Escaping of text for HTML: between tags, in an attribute value, and in an attribute
value that is a URL. Each form is fixed by what it does to one character.
-/
namespace SpoilerMarkup.Text

def mapChars (replace : Char → String) (value : String) : String :=
  value.toList.foldl (fun out c => out ++ replace c) ""

def bodyChar : Char → String
  | '&' => "&amp;"
  | '<' => "&lt;"
  | '>' => "&gt;"
  | c => c.toString

/-- A character as it stands in an attribute value, whichever quotes enclose it. -/
def attributeChar : Char → String
  | '"' => "&quot;"
  | '\'' => "&#39;"
  | c => bodyChar c

/-- The characters, besides ASCII letters and digits, that stand for themselves in a URL. -/
def urlMarks : List Char :=
  ['!', '#', '$', '%', '(', ')', '*', '+', ',', '-', '.', '/', ':', ';', '=', '?', '@', '^', '_',
    '~']

def hexDigit (n : Nat) : Char :=
  if n < 10 then Char.ofNat ('0'.toNat + n) else Char.ofNat ('A'.toNat + n - 10)

def percentByte (b : UInt8) : String :=
  String.ofList ['%', hexDigit (b.toNat / 16), hexDigit (b.toNat % 16)]

/-- A character as it stands in a URL. All bytes of any other character are written in
hexadecimal. -/
def urlChar (c : Char) : String :=
  if c.isAlphanum || urlMarks.contains c then c.toString
  else if c = '&' then "&amp;"
  else if c = '\'' then "&#x27;"
  else String.join ((String.utf8EncodeChar c).map percentByte)

def escapeBody : String → String := mapChars bodyChar
def escapeAttribute : String → String := mapChars attributeChar
def escapeUrl : String → String := mapChars urlChar

end SpoilerMarkup.Text
