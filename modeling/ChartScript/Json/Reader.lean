import ChartScript.Json

/-!
# Reading JSON

A text is read as one value with nothing but blanks around it.  Reading is strict: no
trailing commas, no leading zeros, no control characters in strings, and every escape of a
string is one of the known ones.

Every step of the reader takes a character or opens a value, so that twice the length of
the text bounds the number of steps.
-/

namespace ChartScript.Json

/-- The characters between tokens. -/
def isGap (c : Char) : Bool := c == ' ' || c == '\n' || c == '\t' || c == '\r'

def skipGap (text : Text) : Text := text.dropWhile isGap

def hexDigit? (c : Char) : Option Nat :=
  if c.isDigit then some (c.toNat - '0'.toNat)
  else if 'a' ≤ c ∧ c ≤ 'f' then some (c.toNat - 'a'.toNat + 10)
  else if 'A' ≤ c ∧ c ≤ 'F' then some (c.toNat - 'A'.toNat + 10)
  else none

def readHex : Text → Option (Nat × Text)
  | a :: b :: c :: d :: rest => do
    let a ← hexDigit? a
    let b ← hexDigit? b
    let c ← hexDigit? c
    let d ← hexDigit? d
    some (((a * 16 + b) * 16 + c) * 16 + d, rest)
  | _ => none

def isLead (n : Nat) : Bool := 0xD800 ≤ n && n ≤ 0xDBFF

def isTrail (n : Nat) : Bool := 0xDC00 ≤ n && n ≤ 0xDFFF

def ofSurrogates (lead trail : Nat) : Char :=
  Char.ofNat (0x10000 + (lead - 0xD800) * 0x400 + (trail - 0xDC00))

/-- The characters that a backslash in front of `c` names, other than by code point. -/
def shortEscape? : Char → Option Char
  | '"' => some '"'
  | '\\' => some '\\'
  | '/' => some '/'
  | 'b' => some '\x08'
  | 'f' => some '\x0C'
  | 'n' => some '\n'
  | 'r' => some '\r'
  | 't' => some '\t'
  | _ => none

/-- What a string holds at its next place: a character, or half of a surrogate pair. -/
def readUnit : Text → Option (Option Char × Text)
  | '\\' :: 'u' :: rest => do
    let (n, rest) ← readHex rest
    if isLead n then
      match rest with
      | '\\' :: 'u' :: more => do
        let (trail, afterPair) ← readHex more
        if isTrail trail then some (some (ofSurrogates n trail), afterPair)
        else some (none, rest)
      | _ => some (none, rest)
    else if isTrail n then some (none, rest)
    else some (some (Char.ofNat n), rest)
  | '\\' :: c :: rest => (shortEscape? c).map fun found => (some found, rest)
  | c :: rest => if c.toNat < 0x20 || c == '\\' then none else some (some c, rest)
  | [] => none

/-- The contents of a string up to the closing quote.  `done` holds what was read, the
latest first. -/
def readUnits : Nat → List (Option Char) → Text → Option (List (Option Char) × Text)
  | _, done, '"' :: rest => some (done.reverse, rest)
  | 0, _, _ => none
  | fuel + 1, done, text =>
    match readUnit text with
    | some (unit, rest) => readUnits fuel (unit :: done) rest
    | none => none

/-- A string after its opening quote; it is no text if half of a pair is in it. -/
def readString (text : Text) : Option (Option Text × Text) :=
  (readUnits text.length [] text).map fun (units, rest) => (units.mapM id, rest)

def takeDigits (text : Text) : Text × Text :=
  (text.takeWhile Char.isDigit, text.dropWhile Char.isDigit)

/-- The digits in front of the point: no zero leads others. -/
def readWhole (text : Text) : Option (Text × Text) :=
  match takeDigits text with
  | ([], _) => none
  | ('0' :: _ :: _, _) => none
  | (digits, rest) => some (digits, rest)

/-- The point and the digits after it, if there are any. -/
def readPlaces : Text → Option (Text × Text)
  | '.' :: text =>
    match takeDigits text with
    | ([], _) => none
    | (digits, rest) => some ('.' :: digits, rest)
  | text => some ([], text)

def readExponent : Text → Option (Text × Text)
  | e :: text =>
    if e == 'e' || e == 'E' then
      let (sign, text) : Text × Text :=
        match text with
        | '+' :: rest => (['+'], rest)
        | '-' :: rest => (['-'], rest)
        | rest => ([], rest)
      match takeDigits text with
      | ([], _) => none
      | (digits, rest) => some (e :: sign ++ digits, rest)
    else some ([], e :: text)
  | [] => some ([], [])

def readNumber (text : Text) : Option (Text × Text) := do
  let (sign, text) : Text × Text :=
    match text with
    | '-' :: rest => (['-'], rest)
    | rest => ([], rest)
  let (whole, text) ← readWhole text
  let (places, text) ← readPlaces text
  let (exponent, text) ← readExponent text
  some (sign ++ whole ++ places ++ exponent, text)

/-- An object whose fields are known; a key that is no text spoils it. -/
def ofFields (fields : List (Option Text × Json)) : Json :=
  match fields.mapM fun (key?, value) => key?.map fun key => (key, value) with
  | some fields => .object fields
  | none => .unpaired

mutual

def readValue : Nat → Text → Option (Json × Text)
  | 0, _ => none
  | fuel + 1, text =>
    match skipGap text with
    | 'n' :: 'u' :: 'l' :: 'l' :: rest => some (.null, rest)
    | 't' :: 'r' :: 'u' :: 'e' :: rest => some (.bool true, rest)
    | 'f' :: 'a' :: 'l' :: 's' :: 'e' :: rest => some (.bool false, rest)
    | '"' :: rest =>
      (readString rest).map fun (text?, rest) => ((text?.map string).getD unpaired, rest)
    | '[' :: rest =>
      match skipGap rest with
      | ']' :: rest => some (.array [], rest)
      | rest => readItems fuel [] rest
    | '{' :: rest =>
      match skipGap rest with
      | '}' :: rest => some (.object [], rest)
      | rest => readFields fuel [] rest
    | rest => (readNumber rest).map fun (spelling, rest) => (.number spelling, rest)

/-- The items of an array up to its end; at least one follows. -/
def readItems : Nat → List Json → Text → Option (Json × Text)
  | 0, _, _ => none
  | fuel + 1, done, text =>
    match readValue fuel text with
    | none => none
    | some (item, rest) =>
      match skipGap rest with
      | ',' :: rest => readItems fuel (item :: done) rest
      | ']' :: rest => some (.array (item :: done).reverse, rest)
      | _ => none

/-- The fields of an object up to its end; at least one follows. -/
def readFields : Nat → List (Option Text × Json) → Text → Option (Json × Text)
  | 0, _, _ => none
  | fuel + 1, done, text =>
    match skipGap text with
    | '"' :: rest =>
      match readString rest with
      | none => none
      | some (key?, rest) =>
        match skipGap rest with
        | ':' :: rest =>
          match readValue fuel rest with
          | none => none
          | some (value, rest) =>
            match skipGap rest with
            | ',' :: rest => readFields fuel ((key?, value) :: done) rest
            | '}' :: rest => some (ofFields ((key?, value) :: done).reverse, rest)
            | _ => none
        | _ => none
    | _ => none

end

def read? (text : Text) : Option Json :=
  match readValue (2 * text.length + 1) text with
  | some (value, rest) => if (skipGap rest).isEmpty then some value else none
  | none => none

end ChartScript.Json
