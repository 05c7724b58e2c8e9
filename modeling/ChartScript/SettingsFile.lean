import ChartScript.Encoding.Utf8
import ChartScript.Environment
import ChartScript.SettingsFile.Entry

/-!
# Settings files

A settings file adds to the environment the names that it does not have.  A reference in a
value means the environment first and then the earlier entries of the file.  A faulty entry
ends the reading of the file; what was read before it counts.
-/

namespace ChartScript.SettingsFile

/-- The environment with a name that it did not have. -/
def addMissing (key value : Text) (environment : Environment) : Environment :=
  if (environment.lookup key).isSome then environment else environment ++ [(key, value)]

/-- The environment after entries.  `read` holds the settings of the earlier entries, the
latest first; a reference means the environment first and then these. -/
def loadFrom (read environment : Environment) : List (Option Text) → Environment
  | [] | none :: _ => environment
  | some entry :: entries =>
    match readEntry (fun name => (environment.referenced? name).or (read.lookup name)) entry with
    | .empty => loadFrom read environment entries
    | .faulty => environment
    | .setting key value =>
      loadFrom ((key, value) :: read) (addMissing key value environment) entries

/-- The lines of a file with their line ends.  A line that is no text is none. -/
def linesOf (bytes : List UInt8) : List (Option Text) :=
  match (bytes.splitOnP (· == 0x0A)).reverse with
  | [] => []
  | last :: before =>
    let ended := before.map (· ++ [0x0A])
    (if last.isEmpty then ended else last :: ended).reverse.map Utf8.decode?

/-- The bytes without a byte order mark in front. -/
def dropMark : List UInt8 → List UInt8
  | 0xEF :: 0xBB :: 0xBF :: bytes => bytes
  | bytes => bytes

def load (bytes : List UInt8) (environment : Environment) : Environment :=
  loadFrom [] environment (entriesFrom [] .plain (linesOf (dropMark bytes)))

/-- What stands after the dollar signs of a text as a name, with braces or without. -/
def namesReferenced : Text → List Text
  | [] => []
  | '$' :: '\x7b' :: rest => rest.takeWhile (· != '\x7d') :: namesReferenced rest
  | '$' :: rest => rest.takeWhile Text.isAlphanumeric :: namesReferenced rest
  | _ :: rest => namesReferenced rest

/-- All names that a settings file may ask the environment for: what its references name, and
its words, among which are the names that it gives values to.  No name holds a NUL. -/
def namesIn (bytes : List UInt8) : List Text :=
  let text := Utf8.decode bytes
  (namesReferenced text ++ text.splitOnP (!isKeyChar ·)).filter (!·.contains '\x00')

end ChartScript.SettingsFile
