import ChartScript.Text.Decimal

/-!
# JSON values

A JSON value as it is written and read.  Numbers keep their spelling.  The escapes of a
string may name half of a surrogate pair; such a string, and an object with such a key, is
read as `unpaired`, because no text stands for it.

The printed form has one item or field a line, indented by two blanks a level, and writes
arrays and objects without items as `[]` and empty braces.  Strings keep every character
that need not be escaped.
-/

namespace ChartScript

inductive Json where
  | null
  | bool (value : Bool)
  | number (spelling : Text)
  | string (value : Text)
  | unpaired
  | array (items : List Json)
  | object (fields : List (Text × Json))
  deriving Repr

namespace Json

def ofNat (n : Nat) : Json := .number (Decimal.ofNat n)

def ofInt (n : Int) : Json := .number (Decimal.ofInt n)

def ofString (s : String) : Json := .string s.toList

/-- A field that is left out when it has no value. -/
def field? (name : String) (value? : Option Json) : List (Text × Json) :=
  (value?.map fun value => (name.toList, value)).toList

def field (name : String) (value : Json) : List (Text × Json) := [(name.toList, value)]

/-- The escape of a control character by its code point, which has two digits. -/
def codeEscape (n : Nat) : Text :=
  ['\\', 'u', '0', '0', Nat.digitChar (n / 16), Nat.digitChar (n % 16)]

def escape (c : Char) : Text :=
  match c with
  | '"' => ['\\', '"']
  | '\\' => ['\\', '\\']
  | '\x08' => ['\\', 'b']
  | '\x0C' => ['\\', 'f']
  | '\n' => ['\\', 'n']
  | '\r' => ['\\', 'r']
  | '\t' => ['\\', 't']
  | c => if c.toNat < 0x20 then codeEscape c.toNat else [c]

def quote (text : Text) : Text := '"' :: text.flatMap escape ++ ['"']

def lineStart (level : Nat) : Text := '\n' :: List.replicate (2 * level) ' '

/-- Items between brackets, each on a line of its own. -/
def enclose (level : Nat) (opening closing : Char) (items : List Text) : Text :=
  if items.isEmpty then [opening, closing]
  else
    opening :: lineStart (level + 1) ++ (',' :: lineStart (level + 1)).intercalate items
      ++ lineStart level ++ [closing]

def printAt (level : Nat) : Json → Text
  | .null | .unpaired => ['n', 'u', 'l', 'l']
  | .bool true => ['t', 'r', 'u', 'e']
  | .bool false => ['f', 'a', 'l', 's', 'e']
  | .number spelling => spelling
  | .string value => quote value
  | .array items =>
    enclose level '[' ']' (items.attach.map fun ⟨item, _⟩ => printAt (level + 1) item)
  | .object fields =>
    enclose level '{' '}' (fields.attach.map fun ⟨(name, value), _⟩ =>
      quote name ++ ':' :: ' ' :: printAt (level + 1) value)
decreasing_by
  all_goals
    have := List.sizeOf_lt_of_mem (by assumption)
    simp_all
    omega

def print (value : Json) : Text := printAt 0 value

end Json

end ChartScript
