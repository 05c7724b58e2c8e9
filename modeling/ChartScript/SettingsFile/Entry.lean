import ChartScript.SettingsFile.Value

/-!
# Entries of a settings file

An entry is a line, or several lines if a quoted value runs over them.  A `#` at the
beginning of an entry or after a blank begins a comment.  An entry names a setting and
gives its value after an equals sign; the word `export` may stand in front.
-/

namespace ChartScript.SettingsFile

/-- Where the reader of entries stands: between quotes or not, after a backslash, or after
a blank outside quotes. -/
inductive Place where
  | plain
  | escape
  | blank
  | strong
  | strongEscape
  | weak
  | weakEscape
  deriving DecidableEq, Repr

/-- The place after a character; none where a comment begins. -/
def Place.next (place : Place) (c : Char) : Option Place :=
  match place with
  | .escape => some .plain
  | .strongEscape => some .strong
  | .weakEscape => some .weak
  | .strong => some (if c == '\'' then .plain else if c == '\\' then .strongEscape else .strong)
  | .weak => some (if c == '"' then .plain else if c == '\\' then .weakEscape else .weak)
  | .plain =>
    some
      (if Text.isWhite c && c != '\n' && c != '\r' then .blank
      else if c == '\\' then .escape
      else if c == '"' then .weak
      else if c == '\'' then .strong
      else .plain)
  | .blank =>
    if c == '#' then none
    else
      some
        (if c == '\\' then .escape
        else if c == '"' then .weak
        else if c == '\'' then .strong
        else .plain)

/-- Reads on to the end of a line: the characters up to it or up to a comment, the latest
first, and the place there. -/
def scanLine (place : Place) (done : Text) : Text → Text × Option Place
  | [] => (done, some place)
  | c :: rest =>
    match place.next c with
    | none => (done, none)
    | some place => scanLine place (c :: done) rest

/-- A line end does not belong to an entry. -/
def dropLineEnd (entry : Text) : Text :=
  match entry.reverse with
  | '\n' :: '\r' :: rest => rest.reverse
  | '\n' :: rest => rest.reverse
  | _ => entry

/-- The entries of a file, given its lines with their line ends; a line that is no text is
none.  `opened` holds the lines of an entry that is not finished.  The last entry is none
where the file is faulty. -/
def entriesFrom (opened : Text) (place : Place) : List (Option Text) → List (Option Text)
  | [] => if place = .plain then [] else [none]
  | none :: _ => [none]
  | some line :: lines =>
    if (Text.trimStart (opened ++ line)).head? = some '#' then
      some [] :: entriesFrom [] .plain lines
    else
      match scanLine place [] line with
      | (read, none) => some (opened ++ read.reverse) :: entriesFrom [] .plain lines
      | (_, some .plain) => some (dropLineEnd (opened ++ line)) :: entriesFrom [] .plain lines
      | (_, some place) => entriesFrom (opened ++ line) place lines

def isKeyStart (c : Char) : Bool := c.isAlpha || c == '_'

def isKeyChar (c : Char) : Bool := c.isAlphanum || c == '_' || c == '.'

/-- A name, and what follows it and the white space after it. -/
def readKey (text : Text) : Option (Text × Text) :=
  match text with
  | c :: _ =>
    if isKeyStart c then
      some (text.takeWhile isKeyChar, Text.trimStart (text.dropWhile isKeyChar))
    else none
  | [] => none

inductive Entry where
  | empty
  | faulty
  | setting (key value : Text)
  deriving DecidableEq, Repr

/-- Reads what follows the equals sign of an entry. -/
def readValue (lookup : Text → Option Text) (key text : Text) : Entry :=
  match text with
  | [] | '#' :: _ => .setting key []
  | text =>
    match ValueState.start.run lookup text with
    | some value => .setting key value
    | none => .faulty

/-- Reads an entry.  The word `export` may stand in front of the name. -/
def readEntry (lookup : Text → Option Text) (entry : Text) : Entry :=
  match Text.trimStart (Text.trimEnd entry) with
  | [] | '#' :: _ => .empty
  | text =>
    match readKey text with
    | none => .faulty
    | some (key, '=' :: rest) => readValue lookup key (Text.trimStart rest)
    | some (key, rest) =>
      if key = "export".toList then
        match readKey rest with
        | some (key, '=' :: rest) => readValue lookup key (Text.trimStart rest)
        | _ => .faulty
      else .faulty

end ChartScript.SettingsFile
