import ChartScript.Text

/-!
# Tokens of a line

A line is cut at its separators and the empty pieces are dropped.  Expressions may hold
commas, so `DEFINE` and `ADD` lines are cut at blanks and tabs only, while `LIST` and
`FOR` lines are cut at commas as well.  The keyword of a line is its first token under the
narrower rule.
-/

namespace ChartScript

inductive Separators where
  | blanks
  | blanksAndCommas
  deriving DecidableEq, Repr

def Separators.contains : Separators → Char → Bool
  | .blanks, c => Text.isBlank c
  | .blanksAndCommas, c => Text.isBlank c || c == ','

theorem Separators.contains_blanksAndCommas (c : Char) :
    contains .blanksAndCommas c = (contains .blanks c || c == ',') :=
  rfl

namespace Text

/-- The longest runs of characters that are no separators, in order. -/
def tokens (separators : Separators) (line : Text) : List Text :=
  (line.splitOnP separators.contains).filter fun piece => !piece.isEmpty

def firstToken? (line : Text) : Option Text := (tokens .blanks line).head?

/-- The tokens of a line written with one blank between them. -/
def joinTokens (words : List Text) : Text := [' '].intercalate words

/-- The first token and what follows it; the text must not begin with a blank. -/
def splitToken (text : Text) : Text × Text :=
  (text.takeWhile (!isBlank ·), text.dropWhile (!isBlank ·))

end Text

/-- The words that decide how a line is read. -/
inductive Keyword where
  | list
  | loop
  | next
  | define
  | add
  | other
  deriving DecidableEq, Repr

namespace Keyword

def ofToken (word : Text) : Keyword :=
  if word = ['L', 'I', 'S', 'T'] then .list
  else if word = ['F', 'O', 'R'] then .loop
  else if word = ['N', 'E', 'X', 'T'] then .next
  else if word = ['D', 'E', 'F', 'I', 'N', 'E'] then .define
  else if word = ['A', 'D', 'D'] then .add
  else .other

/-- The keyword of a line; a line without tokens has none that matters. -/
def ofLine (line : Text) : Keyword :=
  match line.firstToken? with
  | some word => ofToken word
  | none => .other

end Keyword

end ChartScript
