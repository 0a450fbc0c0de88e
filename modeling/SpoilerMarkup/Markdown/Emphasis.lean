import SpoilerMarkup.Markdown.Inline
import SpoilerMarkup.Markdown.Line
import SpoilerMarkup.Text.Blank
import SpoilerMarkup.Text.Punctuation

/-!
Runs of `*`, `_` and `~`, and how they pair up. A run may open emphasis, close it, or both,
depending on the characters around it. Main definitions: `Run.read` and `Emphasis.resolve`.
-/
namespace SpoilerMarkup.Markdown

structure Run where
  mark : Char
  length : Nat
  canOpen : Bool
  canClose : Bool
  deriving DecidableEq, Repr

namespace Run

def canBoth (run : Run) : Bool :=
  run.canOpen && run.canClose

/-- Whether a run can open. The beginning of the text counts as white space, and so does its
end. -/
def opens (mark : Char) (length : Nat) (before after : Option Char) : Bool :=
  match after with
  | none => false
  | some next =>
    if Text.isBlank next then false
    else
      match before with
      | none => true
      | some previous =>
        mark = '*' && !Text.isPunctuation next || mark = '~' && 1 < length ||
          mark = '~' && previous = '~' && !Text.isPunctuation next ||
          Text.isBlank previous || Text.isPunctuation previous

def closes (mark : Char) (length : Nat) (before after : Option Char) : Bool :=
  match before with
  | none => false
  | some previous =>
    if Text.isBlank previous then false
    else
      match after with
      | none => true
      | some next =>
        (mark = '*' || mark = '~' && 1 < length) && !Text.isPunctuation previous ||
          mark = '~' && previous = '~' || Text.isBlank next || Text.isPunctuation next

/-- Whether a character can be a delimiter. Tildes are delimiters only in some dialects. -/
def isMark (tildes : Bool) (c : Char) : Bool :=
  c = '*' || c = '_' || tildes && c = '~'

def read (before : Option Char) (mark : Char) (cs : List Char) : Run :=
  let length := (cs.takeWhile (· = mark)).length
  let after := (cs.drop length).head?
  ⟨mark, length, opens mark length before after, closes mark length before after⟩

/-- Whether a run takes part in emphasis at all. Three tildes or more never do. -/
def isActive (run : Run) : Bool :=
  (run.canOpen || run.canClose) && !(run.mark = '~' && 2 < run.length)

end Run

inductive Token where
  | inline (content : Inline)
  | run (run : Run)

namespace Emphasis

/-- A run that may still be closed. `count` of its delimiters are left; `before` is what stands
before it, newest first. -/
structure Opener where
  run : Run
  count : Nat
  before : List Inline

/-- The text read so far: what follows the innermost opener, newest first, and the openers,
innermost first. Of these the `hidden` outermost ones no tilde can close any more. -/
structure State where
  content : List Inline := []
  openers : List Opener := []
  hidden : Nat := 0

def literal (run : Run) (count : Nat) : List Inline :=
  List.replicate count (.text run.mark.toString)

/-- Content between pairs of delimiters: two of them stand inside a single one. -/
def wrap (mark : Char) : Nat → List Inline → List Inline
  | 0, content => content
  | 1, content => [if mark = '~' then .strikethrough content else .emphasis content]
  | count + 2, content =>
    wrap mark count [if mark = '~' then .strikethrough content else .strong content]

/-- Whether a run can close an opener. Tildes need equal lengths. If either run can both open
and close, the lengths must not add up to a multiple of three unless each is one. -/
def fits (closer : Run) (opener : Opener) : Bool :=
  opener.run.mark = closer.mark &&
    (closer.mark ≠ '~' || opener.run.length = closer.length) &&
    (!closer.canBoth && !opener.run.canBoth || (closer.length + opener.run.length) % 3 ≠ 0 ||
      closer.length % 3 = 0)

def release (content : List Inline) (opener : Opener) : List Inline :=
  content ++ literal opener.run opener.count ++ opener.before

/-- The state after `count` delimiters of a closing run, and the number of those that are left. -/
def close (closer : Run) : Nat → Nat → State → Nat × State
  | 0, count, state => (count, state)
  | _, 0, state => (0, state)
  | fuel + 1, count, state =>
    let visible :=
      if closer.mark = '~' then state.openers.take (state.openers.length - state.hidden)
      else state.openers
    match visible.findIdx? (fits closer) with
    | none =>
      (count, if closer.mark = '~' then { state with hidden := state.openers.length } else state)
    | some index =>
      match state.openers.drop index with
      | [] => (count, state)
      | opener :: outer =>
        let content := (state.openers.take index).foldl release state.content
        let matched := min count opener.count
        let wrapped := (wrap closer.mark matched content.reverse).reverse
        let hidden := min state.hidden outer.length
        let state : State :=
          if matched < opener.count then
            ⟨wrapped, { opener with count := opener.count - matched } :: outer, hidden⟩
          else ⟨wrapped ++ opener.before, outer, hidden⟩
        close closer fuel (count - matched) state

def step (state : State) : Token → State
  | .inline content => { state with content := content :: state.content }
  | .run run =>
    let (count, state) :=
      if run.canClose then close run run.length run.length state else (run.length, state)
    if count = 0 then state
    else if run.canOpen then
      { state with content := [], openers := ⟨run, count, state.content⟩ :: state.openers }
    else { state with content := literal run count ++ state.content }

def resolve (tokens : List Token) : List Inline :=
  let state := tokens.foldl step {}
  (state.openers.foldl release state.content).reverse

end Emphasis

end SpoilerMarkup.Markdown
