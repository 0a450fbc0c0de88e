import SpoilerMarkup.Markdown.Autolink
import SpoilerMarkup.Markdown.Emphasis
import SpoilerMarkup.Markdown.Html
import SpoilerMarkup.Markdown.Link

/-!
Reads the content of a block: code, raw HTML, links and images, breaks, escapes and
references are found from left to right, and what stands between is searched for emphasis.
Main definition: `Inline.ofText`.
-/
namespace SpoilerMarkup.Markdown

structure Dialect where
  tildes : Bool
  /-- Whether the text is a cell of a table, in which a backslash before a bar only protects
  the bar. -/
  inTable : Bool := false
  definitions : List Link.Definition := []

/-- A bracket that may open a link or an image. `label` is all that follows the bracket, and
`before` what stands before it, newest first. -/
structure Bracket where
  isImage : Bool
  /-- A bracket around a link opens no other link. -/
  active : Bool
  label : List Char
  before : List Token

namespace Bracket

def literal (bracket : Bracket) : Token :=
  .inline (.text (if bracket.isImage then "![" else "["))

end Bracket

namespace Inline

/-- What has been read: the plain text at the end, newest first, the tokens before it as far as
the innermost bracket, newest first, and the brackets, innermost first. `spent` tells a closing
bracket that cannot end the label of a reference by how much text follows it. `allowance` is the
number of bytes that definitions may still put in the place of references. -/
structure Reader where
  allowance : Nat
  plain : List Char := []
  tokens : List Token := []
  brackets : List Bracket := []
  spent : Option Nat := none

/-- A reader, the last character that it has read, and the text that it has yet to read. -/
abbrev Progress := Reader × Char × List Char

namespace Reader

def flush (r : Reader) : Reader :=
  if r.plain.isEmpty then r
  else { r with plain := [], tokens := .inline (.text (String.ofList r.plain.reverse)) :: r.tokens }

def push (r : Reader) (inline : Inline) : Reader :=
  let r := r.flush
  { r with tokens := .inline inline :: r.tokens }

def pushPlain (r : Reader) (c : Char) : Reader :=
  { r with plain := c :: r.plain }

def pushLiteral (r : Reader) (c : Char) : Reader :=
  { r.flush with plain := [c] }

def giveUp (r : Reader) : Reader :=
  match r.brackets with
  | [] => r
  | bracket :: outer =>
    { r with tokens := r.tokens ++ bracket.literal :: bracket.before, brackets := outer }

/-- Turns what stands behind the innermost bracket into the content of a link or an image. A
link makes all brackets around it inactive that would open another link. -/
def enclose (r : Reader) (target : Target) : Reader :=
  match r.brackets with
  | [] => r
  | bracket :: outer =>
    let content := Emphasis.resolve r.tokens.reverse
    if bracket.isImage then
      { r with tokens := .inline (.image target content) :: bracket.before, brackets := outer }
    else
      { r with
        tokens := .inline (.link target content) :: bracket.before
        brackets := outer.map fun b => { b with active := b.active && b.isImage } }

/-- Encloses the target of a reference, which uses up some of the allowance. -/
def follow (r : Reader) (target : Target) : Reader :=
  let size := target.url.utf8ByteSize + target.title.utf8ByteSize
  { r with allowance := r.allowance - size }.enclose target

end Reader

/-- What stands before the next run of exactly `length` backticks, with that run, and what
follows it. `count` backticks stand directly before. -/
def closeCode? (length : Nat) : Nat → List Char → Option (List Char × List Char)
  | count, [] => if count = length then some ([], []) else none
  | count, c :: rest =>
    if c = '`' then (closeCode? length (count + 1) rest).map fun (inside, r) => (c :: inside, r)
    else if count = length then some ([], c :: rest)
    else (closeCode? length 0 rest).map fun (inside, r) => (c :: inside, r)

def unprotectBars : List Char → List Char
  | '\\' :: '|' :: rest => '|' :: unprotectBars rest
  | c :: rest => c :: unprotectBars rest
  | [] => []

/-- The text of inline code. Line ends become spaces, and one space is taken off both ends
unless there is nothing but spaces. -/
def codeText (d : Dialect) (inside : List Char) : String :=
  let inside := if d.inTable then unprotectBars inside else inside
  let inside := inside.map fun c => if isNewline c then ' ' else c
  if inside.head? = some ' ' && inside.getLast? = some ' ' && inside.any (· ≠ ' ') then
    String.ofList inside.tail.dropLast
  else String.ofList inside

/-- Reads inline code that a run of backticks opens, or takes the run as text. The first
backtick of the run is text if a backslash stands before it. -/
def readBackticks (d : Dialect) (r : Reader) (escaped : Bool) (cs : List Char) : Progress :=
  let marks := cs.takeWhile (· = '`')
  let after := cs.drop marks.length
  let length := if escaped then marks.length - 1 else marks.length
  match if length = 0 then none else closeCode? length 0 after with
  | some (inside, after) =>
    let r := if escaped then r.push (.text "`") else r
    (r.push (.code (codeText d (inside.take (inside.length - length)))), '`', after)
  | none => (r.push (.text (String.ofList marks)), '`', after)

def readBackslash (d : Dialect) (r : Reader) (rest : List Char) : Progress :=
  match rest with
  | [] => (r.pushPlain '\\', '\\', [])
  | c :: after =>
    if c = '`' then readBackticks d r true rest
    else if d.inTable && "\\|".toList.isPrefixOf rest then
      (r.pushLiteral '|', '|', rest.drop 2)
    else if isAsciiPunctuation c then (r.pushLiteral c, c, after)
    else if isNewline c then
      let line := ((afterLineEnd? rest).getD after).dropWhile fun c => c = ' ' || c = '\t'
      (r.push .hardBreak, c, line)
    else (r.pushPlain '\\', '\\', rest)

def readAngle (r : Reader) (cs rest : List Char) : Progress :=
  match Autolink.read? rest with
  | some (kind, url, after) => 
    (r.push (.link ⟨kind, url, "", ""⟩ [.text url]), '>', after)
  | none =>
    match Html.afterInline? cs with
    | some after => (r.push (.html (String.ofList (consumed cs after))), '>', after)
    | none => (r.push (.text "<"), '<', rest)

/-- Reads the end of a line. Two or more characters of white space before it make a hard
break. White space around it is left out. -/
def readLineEnd (r : Reader) (c : Char) (cs rest : List Char) : Progress :=
  let gaps := (r.plain.takeWhile isGap).length
  let r := { r with plain := r.plain.drop gaps }
  let line := ((afterLineEnd? cs).getD rest).dropWhile fun c => c = ' ' || c = '\t'
  (r.push (if 2 ≤ gaps then .hardBreak else .softBreak), c, line)

def ownLabel? (bracket : Bracket) (rest : List Char) : Option String :=
  match Link.readLabel? ('[' :: bracket.label) with
  | some (label, after) => if after.length = rest.length then some label else none
  | none => none

/-- Where a reference leads, if its label is defined and anything is left of the allowance. -/
def reference? (d : Dialect) (r : Reader) (kind : LinkKind) (label : Option String) :
    Option Target :=
  if r.allowance = 0 then none
  else
    label.bind fun label =>
      (Link.find? d.definitions label).map fun definition =>
        ⟨kind, definition.url, definition.title, label⟩

def readClose (d : Dialect) (r : Reader) (rest : List Char) : Progress :=
  let r := r.flush
  let failed (r : Reader) : Progress :=
    ({ r with tokens := .inline (.text "]") :: r.tokens }.giveUp, ']', rest)
  match r.brackets with
  | [] => failed r
  | bracket :: _ =>
    if !bracket.active then failed r
    else
      match Link.readInline? rest with
      | some (url, title, after) => (r.enclose ⟨.inline, url, title, ""⟩, ')', after)
      | none =>
        if "[]".toList.isPrefixOf rest then
          if r.spent = some rest.length then failed r
          else
            match reference? d r .collapsed (ownLabel? bracket rest) with
            | some target => (r.follow target, ']', rest.drop 2)
            | none => failed r
        else
          match Link.readLabel? rest with
          | some (label, after) =>
            let r := { r with spent := some after.length }
            match reference? d r .reference (some label) with
            | some target => (r.follow target, ']', after)
            | none => failed r
          | none =>
            if r.spent = some rest.length then failed r
            else
              match reference? d r .shortcut (ownLabel? bracket rest) with
              | some target => (r.follow target, ']', rest)
              | none => failed r

def readOne (d : Dialect) (before : Option Char) (c : Char) (rest : List Char) (r : Reader) :
    Progress :=
  let openBracket (isImage : Bool) (label : List Char) : Reader :=
    let r := r.flush
    { r with tokens := [], brackets := ⟨isImage, true, label, r.tokens⟩ :: r.brackets }
  if c = '\\' then readBackslash d r rest
  else if c = '`' then readBackticks d r false (c :: rest)
  else if c = '<' && rest.head? ≠ some '\\' then readAngle r (c :: rest) rest
  else if c = '!' && rest.head? = some '[' then (openBracket true rest.tail, '[', rest.tail)
  else if c = '[' then (openBracket false rest, '[', rest)
  else if c = ']' then readClose d r rest
  else if c = '&' then
    match Text.Entity.read? (c :: rest) with
    | some (value, after) => (r.push (.text value), ';', after)
    | none => (r.pushPlain c, c, rest)
  else if Run.isMark d.tildes c then
    let run := Run.read before c (c :: rest)
    let after := rest.drop (run.length - 1)
    if run.isActive then
      let r := r.flush
      ({ r with tokens := .run run :: r.tokens }, c, after)
    else ({ r with plain := List.replicate run.length c ++ r.plain }, c, after)
  else if isNewline c then readLineEnd r c (c :: rest) rest
  else (r.pushPlain c, c, rest)

/-- Reads a text to its end. Each step reads at least one character. -/
def readAll (d : Dialect) : Nat → Option Char → List Char → Reader → Reader
  | fuel + 1, before, c :: rest, r =>
    let (r, last, after) := readOne d before c rest r
    readAll d fuel (some last) after r
  | _, _, _, r => r

/-- The content of a text, and what is left of an allowance. -/
def ofText (d : Dialect) (allowance : Nat) (cs : List Char) : List Inline × Nat :=
  let r := (readAll d cs.length none cs { allowance }).flush
  let r := r.brackets.foldl (fun r _ => r.giveUp) r
  (Emphasis.resolve r.tokens.reverse, r.allowance)

end Inline

end SpoilerMarkup.Markdown
