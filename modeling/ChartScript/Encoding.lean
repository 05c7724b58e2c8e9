import ChartScript.Encoding.SingleByte
import ChartScript.Encoding.Utf16
import ChartScript.Text.Lowercase

/-!
# Encodings

An encoding is known by a name, in which case does not matter.  What has another name is
read as UTF-8 with replacements.  The name ISO-8859-1 stands for ISO-8859-15.

The single-byte encodings give way to a byte order mark: if the bytes begin with one, it
says what the rest is encoded in.
-/

namespace ChartScript

/-- How the bytes of a file stand for characters. -/
inductive Encoding where
  | utf8
  | latin9
  | windows1252
  deriving DecidableEq, Repr

namespace Encoding

def latinNames : List String := ["iso-8859-1", "latin-1", "latin1"]

def windowsNames : List String := ["windows-1252", "cp1252"]

def utf8Names : List String := ["ascii", "utf-8", "utf8", ""]

def utf8Name : Text := "utf-8".toList

def ofName (name : Text) : Encoding :=
  let known := name.lowercase.str
  if latinNames.contains known then .latin9
  else if windowsNames.contains known then .windows1252
  else .utf8

/-- The name under which a file of a character set is reported. -/
def nameOfCharset (charset : Text) : Text :=
  let known := charset.lowercase.str
  if utf8Names.contains known then utf8Name
  else if latinNames.contains known || known == "iso-8859-15" then "iso-8859-1".toList
  else if windowsNames.contains known then "windows-1252".toList
  else charset

/-- Decodes bytes that no byte order mark begins. -/
def decodeUnmarked : Encoding → List UInt8 → Text
  | .utf8, bytes => Utf8.decode bytes
  | .latin9, bytes => SingleByte.decode SingleByte.latin9 bytes
  | .windows1252, bytes => SingleByte.decode SingleByte.windows1252 bytes

def decode (encoding : Encoding) (bytes : List UInt8) : Text :=
  if encoding = .utf8 then encoding.decodeUnmarked bytes
  else
    match bytes with
    | 0xEF :: 0xBB :: 0xBF :: rest => Utf8.decode rest
    | 0xFF :: 0xFE :: rest => Utf16.decode .littleEndian rest
    | 0xFE :: 0xFF :: rest => Utf16.decode .bigEndian rest
    | bytes => encoding.decodeUnmarked bytes

end Encoding

end ChartScript
