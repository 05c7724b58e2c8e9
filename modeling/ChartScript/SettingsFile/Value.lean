import ChartScript.Text.Alphanumeric

/-!
# Values of a settings file

A value runs to the end of its entry, or to a blank after which nothing but a comment
follows.  It may be quoted, strongly with `'` or weakly with `"`.  Outside strong quotes a
backslash escapes the next character, and `$NAME` or `${NAME}` stands for an earlier value.
A name without braces holds letters and numbers of any script.
-/

namespace ChartScript.SettingsFile

/-- How far a reference has been read. -/
inductive Substitution where
  | absent
  /-- After `$` and the characters of the name. -/
  | bare (name : Text)
  /-- After `${` and the characters of the name. -/
  | braced (name : Text)
  deriving DecidableEq, Repr

/-- The quotes that a value is between. -/
inductive Quoting where
  | unquoted
  | strong
  | weak
  deriving DecidableEq, Repr

/-- The reader of a value; `done` is its finished part, the latest character first, and
the name of a reference is kept likewise. -/
structure ValueState where
  done : Text
  quoting : Quoting
  escaped : Bool
  ended : Bool
  substitution : Substitution
  deriving DecidableEq, Repr

namespace ValueState

def start : ValueState := ⟨[], .unquoted, false, false, .absent⟩

def push (state : ValueState) (c : Char) : ValueState := { state with done := c :: state.done }

/-- Puts in the value of a name, which is empty where the name has none. -/
def insertValue (lookup : Text → Option Text) (name : Text) (state : ValueState) : ValueState :=
  { state with done := ((lookup name.reverse).getD []).reverse ++ state.done,
               substitution := .absent }

/-- The character that a backslash in front of `c` stands for. -/
def unescape? (c : Char) : Option Char :=
  if c == '\\' || c == '\'' || c == '"' || c == '$' || c == ' ' then some c
  else if c == 'n' then some '\n'
  else none

def takeBare (lookup : Text → Option Text) (name : Text) (c : Char) (state : ValueState) :
    ValueState :=
  if Text.isAlphanumeric c then { state with substitution := .bare (c :: name) }
  else if c == '{' && name.isEmpty then { state with substitution := .braced [] }
  else
    let state := state.insertValue lookup name
    if c == '$' then { state with substitution := .bare [] } else state.push c

def takeBraced (lookup : Text → Option Text) (name : Text) (c : Char) (state : ValueState) :
    ValueState :=
  if c == '\x7d' then state.insertValue lookup name
  else { state with substitution := .braced (c :: name) }

/-- Takes a character outside strong quotes, references and escapes. -/
def takePlain (c : Char) (state : ValueState) : ValueState :=
  if c == '$' then { state with substitution := .bare [] }
  else if c == '\\' then { state with escaped := true }
  else
    match state.quoting with
    | .weak => if c == '"' then { state with quoting := .unquoted } else state.push c
    | _ =>
      if c == '\'' then { state with quoting := .strong }
      else if c == '"' then { state with quoting := .weak }
      else if c == ' ' || c == '\t' then { state with ended := true }
      else state.push c

/-- Takes a character; none if it is out of place. -/
def take (lookup : Text → Option Text) (c : Char) (state : ValueState) : Option ValueState :=
  if state.escaped then
    (unescape? c).map fun c => { state.push c with escaped := false }
  else
    match state.quoting, state.substitution with
    | .strong, _ =>
      some (if c == '\'' then { state with quoting := .unquoted } else state.push c)
    | _, .bare name => some (state.takeBare lookup name c)
    | _, .braced name => some (state.takeBraced lookup name c)
    | _, .absent => some (state.takePlain c)

/-- The value at the end; none if something is not closed. -/
def finish (lookup : Text → Option Text) (state : ValueState) : Option Text :=
  match state.quoting, state.substitution with
  | .unquoted, .absent => some (state.done.reverse)
  | .unquoted, .bare name => some (state.insertValue lookup name).done.reverse
  | _, _ => none

def run (lookup : Text → Option Text) (state : ValueState) : Text → Option Text
  | [] => state.finish lookup
  | c :: rest =>
    if state.ended then
      if c == ' ' || c == '\t' then run lookup state rest
      else if c == '#' then state.finish lookup
      else none
    else
      match state.take lookup c with
      | some state => run lookup state rest
      | none => none

end ValueState

end ChartScript.SettingsFile
