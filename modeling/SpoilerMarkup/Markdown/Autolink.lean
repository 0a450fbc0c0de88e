import SpoilerMarkup.Tag
import SpoilerMarkup.Markdown.Line

/-!
Addresses in angle brackets, which are links to themselves: absolute URLs and e-mail
addresses. Main definition: `Autolink.read?`.
-/
namespace SpoilerMarkup.Markdown.Autolink

def isSchemePart (c : Char) : Bool :=
  c.isAlphanum || c = '.' || c = '-' || c = '+'

def isUrlPart (c : Char) : Bool :=
  0x20 < c.toNat && c ≠ '<' && c ≠ '>'

/-- A URL whose scheme has two to thirty-two characters. -/
def readUrl? (cs : List Char) : Option (List Char × List Char) :=
  let scheme := cs.takeWhile isSchemePart
  match cs.drop scheme.length with
  | ':' :: rest =>
    let path := rest.takeWhile isUrlPart
    match rest.drop path.length with
    | '>' :: after =>
      if (scheme.head?.any Char.isAlpha) && 2 ≤ scheme.length && scheme.length ≤ 32 then
        some (scheme ++ ':' :: path, after)
      else none
    | _ => none
  | _ => none

def isLocalPart (c : Char) : Bool :=
  c.isAlphanum || ".!#$%&'*+/=?^_`\x7b|\x7d~-".toList.contains c

/-- A label of a domain neither begins nor ends with a hyphen, and has at most sixty-three
characters. -/
def isDomainLabel (label : List Char) : Bool :=
  !label.isEmpty && label.length ≤ 63 && label.head? ≠ some '-' && label.getLast? ≠ some '-' &&
    label.all fun c => c.isAlphanum || c = '-'

def readEmail? (cs : List Char) : Option (List Char × List Char) :=
  let name := cs.takeWhile isLocalPart
  match cs.drop name.length with
  | '@' :: rest =>
    let domain := rest.takeWhile fun c => c.isAlphanum || c = '-' || c = '.'
    match rest.drop domain.length with
    | '>' :: after =>
      if !name.isEmpty && (domain.splitOn '.').all isDomainLabel then
        some (name ++ '@' :: domain, after)
      else none
    | _ => none
  | _ => none

def read? (cs : List Char) : Option (LinkKind × String × List Char) :=
  match readUrl? cs with
  | some (url, after) => some (.autolink, String.ofList url, after)
  | none => (readEmail? cs).map fun (address, after) => (.email, String.ofList address, after)

end SpoilerMarkup.Markdown.Autolink
