import ChartScript.Directive

/-!
# Dataset markers

A marker, `*` or `?`, stands for every loaded dataset in turn.  It may be the dataset token
of an `ADD SERIES` line or the dataset number of a `DEFINE` name, as in `*:NAME`.  Such a
line is a template: filled with a dataset number it becomes a line whose tokens are
separated by single blanks.
-/

namespace ChartScript

/-- The tokens before the marker, the text glued to it, and the tokens after it. -/
structure Template where
  front : List Text
  suffix : Text
  rest : List Text
  deriving DecidableEq, Repr

namespace Template

def isMarker (c : Char) : Bool := c == '*' || c == '?'

def fill (template : Template) (dataset : Nat) : Text :=
  Text.joinTokens
    (template.front ++ (Decimal.ofNat dataset ++ template.suffix) :: template.rest)

/-- The template of an `ADD SERIES` line, from the tokens that follow these two. -/
def ofSeriesTokens : List Text → Option Template
  | [c] :: rest =>
    if isMarker c then
      some { front := [Directive.addWord, Directive.seriesWord], suffix := [], rest }
    else none
  | _ => none

/-- The template of a `DEFINE` line, from the tokens that follow the keyword.  A marker in
front of the name needs a colon and something after it. -/
def ofDefineTokens : List Text → Except Fault (Option Template)
  | (c :: suffix) :: rest =>
    if isMarker c then
      match suffix with
      | ':' :: _ :: _ => .ok (some { front := [Definition.keyword], suffix, rest })
      | _ => .error (.markerName (c :: suffix))
    else .ok none
  | _ => .ok none

def ofTokens : List Text → Except Fault (Option Template)
  | keyword :: tokens =>
    if keyword = Definition.keyword then ofDefineTokens tokens
    else
      match tokens with
      | word :: tokens =>
        if keyword = Directive.addWord ∧ word = Directive.seriesWord then
          .ok (ofSeriesTokens tokens)
        else .ok none
      | [] => .ok none
  | [] => .ok none

end Template

namespace SourceLine

/-- The line once for every dataset if it has a marker, and else the line alone. -/
def resolveMarker (datasets : Nat) (line : SourceLine) : Except ExpandError (List SourceLine) :=
  match Template.ofTokens (Text.tokens .blanks line.text) with
  | .error fault => .error (.ofFault line.number fault)
  | .ok none => .ok [line]
  | .ok (some template) =>
    .ok ((List.range datasets).map fun index =>
      { line with text := template.fill (index + 1) })

def resolveMarkers (datasets : Nat) (lines : List SourceLine) :
    Except ExpandError (List SourceLine) :=
  (lines.mapM (resolveMarker datasets)).map List.flatten

end SourceLine

end ChartScript
