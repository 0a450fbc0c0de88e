import SpoilerMarkup.Markdown.Outline

/-!
Reads a Markdown document. Main definition: `Markdown.parse`.
-/
namespace SpoilerMarkup.Markdown

/-- The least number of bytes that definitions may put in the place of references. -/
def minAllowance : Nat := 100000

/-- The events of a document. With `gfm` it may have tables, strikethrough, task lists and
alerts. -/
def parse (gfm : Bool) (source : String) : List Event :=
  let outline := Outline.ofLines gfm (Line.ofText source.toList)
  let dialect : Dialect := { tildes := gfm, definitions := outline.definitions }
  let allowance := max source.utf8ByteSize minAllowance
  (Block.toEventsList dialect false outline.blocks.reverse allowance).1

end SpoilerMarkup.Markdown
