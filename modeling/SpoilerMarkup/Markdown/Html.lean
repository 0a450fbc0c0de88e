import SpoilerMarkup.Markdown.Line

/-!
Raw HTML inside Markdown: tags, comments, processing instructions, declarations and CDATA
sections, and the beginnings of lines that open a block of HTML. Each recogniser returns
what follows the construct.
-/
namespace SpoilerMarkup.Markdown.Html

def afterMark? (mark : List Char) : List Char → Option (List Char)
  | [] => if mark.isEmpty then some [] else none
  | c :: rest =>
    if mark.isPrefixOf (c :: rest) then some ((c :: rest).drop mark.length)
    else afterMark? mark rest

/-- White space before an attribute. Line ends count only where a tag may go on over lines. -/
def skipGaps (overLines : Bool) (cs : List Char) : List Char :=
  cs.dropWhile fun c => isGap c || overLines && isNewline c

def isNameStart (c : Char) : Bool :=
  c.isAlpha || c = '_' || c = ':'

def isNamePart (c : Char) : Bool :=
  c.isAlphanum || c = '_' || c = '.' || c = ':' || c = '-'

def isUnquotedPart (c : Char) : Bool :=
  !(isNewline c || c = ' ' || c = '"' || c = '\'' || c = '=' || c = '<' || c = '>' || c = '`')

def afterValue? (overLines : Bool) : List Char → Option (List Char)
  | [] => none
  | q :: rest =>
    if q = '"' || q = '\'' then
      let value := rest.takeWhile (· ≠ q)
      if !overLines && value.any isNewline then none
      else
        match rest.drop value.length with
        | [] => none
        | _ :: after => some after
    else if isUnquotedPart q then some (rest.dropWhile isUnquotedPart)
    else none

def afterAttribute? (overLines : Bool) : List Char → Option (List Char)
  | [] => none
  | c :: rest =>
    if isNameStart c then
      let after := rest.dropWhile isNamePart
      match skipGaps overLines after with
      | '=' :: value => afterValue? overLines (skipGaps overLines value)
      | _ => some after
    else none

/-- What follows the attributes of a tag and the white space behind them. Each attribute
needs white space before it. -/
def afterAttributes? (overLines : Bool) : Nat → List Char → Option (List Char)
  | 0, _ => none
  | fuel + 1, cs =>
    let after := skipGaps overLines cs
    match after with
    | '/' :: _ | '>' :: _ => some after
    | _ =>
      if after.length < cs.length then
        (afterAttribute? overLines after).bind (afterAttributes? overLines fuel)
      else none

def afterTag? (overLines : Bool) : List Char → Option (List Char)
  | '<' :: '/' :: c :: rest =>
    if c.isAlpha then
      match (rest.dropWhile fun c => c.isAlphanum || c = '-').dropWhile isGap with
      | '>' :: after => some after
      | _ => none
    else none
  | '<' :: c :: rest =>
    if c.isAlpha then
      let name := rest.dropWhile fun c => c.isAlphanum || c = '-'
      match afterAttributes? overLines (name.length + 1) name with
      | some ('/' :: '>' :: after) => some after
      | some ('>' :: after) => some after
      | _ => none
    else none
  | _ => none

/-- What follows a comment. `<!-->` and `<!--->` are comments too. -/
def afterComment? (cs : List Char) : Option (List Char) :=
  if "<!-->".toList.isPrefixOf cs then some (cs.drop 5)
  else if "<!--->".toList.isPrefixOf cs then some (cs.drop 6)
  else if "<!--".toList.isPrefixOf cs then afterMark? "-->".toList (cs.drop 4)
  else none

def afterInline? (cs : List Char) : Option (List Char) :=
  match cs with
  | '<' :: '!' :: '-' :: _ => afterComment? cs
  | '<' :: '?' :: rest => afterMark? "?>".toList rest
  | '<' :: '!' :: '[' :: rest =>
    if "CDATA[".toList.isPrefixOf rest then afterMark? "]]>".toList (rest.drop 6) else none
  | '<' :: '!' :: c :: rest => if c.isAlpha then afterMark? ">".toList rest else none
  | _ => afterTag? true cs

/-- What ends a block of HTML: a line in which a mark stands, or a blank line. -/
inductive BlockEnd where
  | mark (text : String)
  | blank
  deriving DecidableEq, Repr

/-- Elements whose content is no Markdown, with the tags that close them. -/
def literalElements : List (String × String) :=
  [("pre", "</pre>"), ("style", "</style>"), ("script", "</script>"), ("textarea", "</textarea>")]

def blockElements : List String :=
  ["address", "article", "aside", "base", "basefont", "blockquote", "body", "caption", "center",
    "col", "colgroup", "dd", "details", "dialog", "dir", "div", "dl", "dt", "fieldset",
    "figcaption", "figure", "footer", "form", "frame", "frameset", "h1", "h2", "h3", "h4", "h5",
    "h6", "head", "header", "hr", "html", "iframe", "legend", "li", "link", "main", "menu",
    "menuitem", "nav", "noframes", "ol", "optgroup", "option", "p", "param", "search", "section",
    "summary", "table", "tbody", "td", "tfoot", "th", "thead", "title", "tr", "track", "ul"]

def afterName? (name : String) (cs : List Char) : Option (List Char) :=
  let length := name.toList.length
  if (cs.take length).map Char.toLower = name.toList then some (cs.drop length) else none

/-- The mark that ends a block which begins with a literal element, a comment, an instruction,
a declaration or a CDATA section. -/
def closingMark? : List Char → Option String
  | '<' :: rest =>
    let literal := literalElements.findSome? fun (name, mark) =>
      match afterName? name rest with
      | some [] => some mark
      | some (c :: _) => if isGapOrNewline c || c = '>' then some mark else none
      | none => none
    match literal with
    | some mark => some mark
    | none =>
      if "!--".toList.isPrefixOf rest then some "-->"
      else if "?".toList.isPrefixOf rest then some "?>"
      else if "![CDATA[".toList.isPrefixOf rest then some "]]>"
      else
        match rest with
        | '!' :: c :: _ => if c.isAlpha then some ">" else none
        | _ => none
  | _ => none

def startsBlockElement : List Char → Bool
  | '<' :: rest =>
    let rest := if rest.head? = some '/' then rest.tail else rest
    let name := rest.takeWhile Char.isAlphanum
    blockElements.contains (String.ofList (name.map Char.toLower)) &&
      match rest.drop name.length with
      | [] => true
      | '/' :: '>' :: _ => true
      | c :: _ => c = ' ' || c = '\t' || isNewline c || c = '>'
  | _ => false

def isLoneTag (cs : List Char) : Bool :=
  match afterTag? false cs with
  | some after => isBlankLine after
  | none => false

def blockEnd? (cs : List Char) : Option BlockEnd :=
  match closingMark? cs with
  | some mark => some (.mark mark)
  | none => if startsBlockElement cs || isLoneTag cs then some .blank else none

/-- Whether a line opens a block of HTML in the middle of a paragraph. A lone tag does not. -/
def interruptsParagraph (cs : List Char) : Bool :=
  (closingMark? cs).isSome || startsBlockElement cs

end SpoilerMarkup.Markdown.Html
