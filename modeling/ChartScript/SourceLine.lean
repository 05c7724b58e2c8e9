import ChartScript.Text.Decimal
import ChartScript.Text.Search

/-!
# Source lines

A command file is a sequence of numbered lines.  Blanks, tabs and carriage returns at the
end of a line do not count; lines that are then empty and lines that begin with `--` or `#`
are left out, and the remaining ones keep their numbers in the file.

One variable is built in: `$NUM_CASES` stands for the number of loaded datasets, everywhere
in the file.
-/

namespace ChartScript

structure SourceLine where
  number : Nat
  text : Text
  deriving DecidableEq, Repr

namespace SourceLine

def isLineEnd (c : Char) : Bool := c == ' ' || c == '\t' || c == '\r'

/-- A comment begins in the first column. -/
def isComment : Text → Bool
  | '-' :: '-' :: _ => true
  | '#' :: _ => true
  | _ => false

/-- The line that a piece of the file holds, if it holds one. -/
def ofPiece? (piece : Text) (number : Nat) : Option SourceLine :=
  let text := piece.dropEndWhile isLineEnd
  if text.isEmpty || isComment text then none else some { number, text }

/-- The lines of a file, numbered from 1. -/
def ofContent (content : Text) : List SourceLine :=
  (content.pieces.zipIdx 1).filterMap fun (piece, number) => ofPiece? piece number

def casesVariable : Text := ['$', 'N', 'U', 'M', '_', 'C', 'A', 'S', 'E', 'S']

/-- The line with the number of datasets in place of `$NUM_CASES`. -/
def withCases (datasets : Nat) (line : SourceLine) : SourceLine :=
  { line with text := Text.replaceAll casesVariable (Decimal.ofNat datasets) line.text }

end SourceLine

end ChartScript
