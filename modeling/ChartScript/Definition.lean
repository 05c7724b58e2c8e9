import ChartScript.Expression
import ChartScript.SourceLine
import ChartScript.Text.Token

/-!
# Definitions of derived quantities

A `DEFINE` line names a derived quantity, may give it a unit, and gives it an expression
after an equals sign:

    DEFINE name [unit] = expression

The first token of the line begins with the keyword.  A name without a dataset number
belongs to dataset 0, and every reference of the expression that has no dataset number is
bound to the dataset of the name.  A definition without a unit has the unit `None`.
-/

namespace ChartScript

structure Definition where
  name : QualifiedName
  expression : Text
  unit : Text
  deriving DecidableEq, Repr

namespace Definition

def keyword : Text := ['D', 'E', 'F', 'I', 'N', 'E']

def noUnit : Text := ['N', 'o', 'n', 'e']

/-- The line that states the definition with its name, unit and references in full. -/
def text (definition : Definition) : Text :=
  keyword ++ ' ' :: definition.name.text ++ ' ' :: definition.unit ++ [' ', '=', ' ']
    ++ definition.expression

def nameOfToken (token : Text) : Except Fault QualifiedName :=
  if token.head? = some '$' then .error (.variableName token)
  else
    match QualifiedName.parse? token with
    | some name => .ok name
    | none =>
      if QualifiedName.isQualified token then .error (.nameNumber token)
      else .ok { dataset := 0, name := token }

/-- The unit, and what follows it.  `rest` follows the name and begins with no white
character. -/
def splitUnit (name : QualifiedName) (rest : Text) : Except Fault (Text × Text) :=
  if rest.head? = some '=' then .ok (noUnit, rest)
  else
    let (unit, after) := Text.splitToken rest
    if unit.isEmpty then .error (.noUnit name) else .ok (unit, Text.trimStart after)

/-- The name, the unit and the text that begins with the expression. -/
def split (line : Text) : Except Fault (QualifiedName × Text × Text) := do
  let some afterKeyword := Text.after? keyword line.trimStart | .error .noDefine
  let (token, afterName) := Text.splitToken (Text.trimStart afterKeyword)
  if token.isEmpty then .error .noName
  let name ← nameOfToken token
  let (unit, afterUnit) ← splitUnit name (Text.trimStart afterName)
  match afterUnit with
  | '=' :: rest =>
    let tail := Text.trimStart rest
    if (Text.trimEnd tail).isEmpty then .error (.noExpression name)
    .ok (name, unit, tail)
  | _ => .error (.noEquals unit)

/-- Reads a `DEFINE` line.  An error in the expression is reported at its column in the
line. -/
def read (line : SourceLine) : Except ExpandError Definition :=
  match split line.text with
  | .error fault => .error (.ofFault line.number fault)
  | .ok (name, unit, tail) =>
    match Expression.qualifyText name.dataset (Text.trimEnd tail) with
    | .error error =>
      .error (.malformed line.number (error.shifted (line.text.length - tail.length)))
    | .ok expression => .ok { name, expression, unit }

end Definition

end ChartScript
