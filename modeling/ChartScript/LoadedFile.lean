import ChartScript.Encoding
import ChartScript.SourceLine

/-!
# Loaded files

A file that is valid UTF-8 is taken as such.  For any other file the caller says which
character set its bytes seem to be in.
-/

namespace ChartScript

/-- The lines of a file, and the encoding that they were read from. -/
structure LoadedFile where
  lines : List SourceLine
  encoding : Text
  deriving DecidableEq, Repr

namespace LoadedFile

def ofSource (source : Text) : LoadedFile :=
  { lines := SourceLine.ofContent source, encoding := Encoding.utf8Name }

/-- The file with the given bytes, which seem to be in `charset` if they are no UTF-8. -/
def ofBytes (charset : Text) (bytes : List UInt8) : LoadedFile :=
  match Utf8.decode? bytes with
  | some content => ofSource content
  | none =>
    let name := Encoding.nameOfCharset charset
    { lines := SourceLine.ofContent ((Encoding.ofName name).decode bytes), encoding := name }

end LoadedFile

end ChartScript
