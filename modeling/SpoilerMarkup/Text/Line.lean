/-!
Ends of lines inside a text.
-/
namespace SpoilerMarkup.Text

/-- Line feed, carriage return and the two separators U+2028 and U+2029 end a line. -/
def isLineEnd (c : Char) : Bool :=
  c = '\n' || c = '\r' || c = '\u2028' || c = '\u2029'

def endsWithNewline (value : String) : Bool :=
  value.toList.getLast? = some '\n'

end SpoilerMarkup.Text
