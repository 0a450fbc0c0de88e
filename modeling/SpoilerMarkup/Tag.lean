/-!
Tags of a document: what an element is, and what remains of that in the tag
that closes it. Main definition: `Tag.close`, the closing tag of an opening one.
-/
namespace SpoilerMarkup

inductive HeadingLevel where
  | h1 | h2 | h3 | h4 | h5 | h6
  deriving DecidableEq, Repr

namespace HeadingLevel

def number : HeadingLevel → Nat
  | .h1 => 1
  | .h2 => 2
  | .h3 => 3
  | .h4 => 4
  | .h5 => 5
  | .h6 => 6

def ofNat? : Nat → Option HeadingLevel
  | 1 => some .h1
  | 2 => some .h2
  | 3 => some .h3
  | 4 => some .h4
  | 5 => some .h5
  | 6 => some .h6
  | _ => none

@[simp] theorem ofNat?_number (level : HeadingLevel) : ofNat? level.number = some level := by
  cases level <;> rfl

end HeadingLevel

inductive Alert where
  | note | tip | important | warning | caution
  deriving DecidableEq, Repr

inductive Alignment where
  | none | left | center | right
  deriving DecidableEq, Repr

/-- How a link or an image names its destination. The `unknown` kinds are
references whose label has no definition in the document. -/
inductive LinkKind where
  | inline
  | reference
  | referenceUnknown
  | collapsed
  | collapsedUnknown
  | shortcut
  | shortcutUnknown
  | autolink
  | email
  | wiki
  | wikiPiped
  deriving DecidableEq, Repr

structure Target where
  kind : LinkKind
  url : String
  title : String
  /-- The label of a reference, empty for other kinds. -/
  id : String
  deriving DecidableEq, Repr

inductive MetadataStyle where
  | yaml | pluses
  deriving DecidableEq, Repr

inductive Tag where
  | paragraph
  | heading (level : HeadingLevel) (id : Option String) (classes : List String)
      (attributes : List (String × Option String))
  | blockQuote (alert : Option Alert)
  /-- `info` is the text after an opening fence, and is absent for an indented block. -/
  | codeBlock (info : Option String)
  | htmlBlock
  /-- `start` is the first number of an ordered list, and is absent for a bullet list. -/
  | list (start : Option Nat)
  | item
  | footnoteDefinition (label : String)
  | definitionList
  | definitionTitle
  | definition
  | table (alignments : List Alignment)
  | tableHead
  | tableRow
  | tableCell
  | emphasis
  | strong
  | strikethrough
  | superscript
  | subscript
  | link (target : Target)
  | image (target : Target)
  | metadataBlock (style : MetadataStyle)
  deriving DecidableEq, Repr

inductive EndTag where
  | paragraph
  | heading (level : HeadingLevel)
  | blockQuote (alert : Option Alert)
  | codeBlock
  | htmlBlock
  | list (ordered : Bool)
  | item
  | footnoteDefinition
  | definitionList
  | definitionTitle
  | definition
  | table
  | tableHead
  | tableRow
  | tableCell
  | emphasis
  | strong
  | strikethrough
  | superscript
  | subscript
  | link
  | image
  | metadataBlock (style : MetadataStyle)
  deriving DecidableEq, Repr

namespace Tag

def close : Tag → EndTag
  | .paragraph => .paragraph
  | .heading level _ _ _ => .heading level
  | .blockQuote alert => .blockQuote alert
  | .codeBlock _ => .codeBlock
  | .htmlBlock => .htmlBlock
  | .list start => .list start.isSome
  | .item => .item
  | .footnoteDefinition _ => .footnoteDefinition
  | .definitionList => .definitionList
  | .definitionTitle => .definitionTitle
  | .definition => .definition
  | .table _ => .table
  | .tableHead => .tableHead
  | .tableRow => .tableRow
  | .tableCell => .tableCell
  | .emphasis => .emphasis
  | .strong => .strong
  | .strikethrough => .strikethrough
  | .superscript => .superscript
  | .subscript => .subscript
  | .link _ => .link
  | .image _ => .image
  | .metadataBlock style => .metadataBlock style

/-- The text inside code blocks, images and metadata blocks is not prose and is
never changed. -/
def isVerbatim : Tag → Bool
  | .codeBlock _ | .image _ | .metadataBlock _ => true
  | _ => false

end Tag

end SpoilerMarkup
