import ChartScript.Text

/-!
# Encodings of one byte a character

A byte of such an encoding is the code point of its character, but for the bytes that a
table lists.
-/

namespace ChartScript.SingleByte

/-- The bytes whose characters are not at their own code points. -/
abbrev Table := List (Nat × Nat)

/-- ISO-8859-15 -/
def latin9 : Table :=
  [(0xA4, 0x20AC), (0xA6, 0x160), (0xA8, 0x161), (0xB4, 0x17D), (0xB8, 0x17E), (0xBC, 0x152),
   (0xBD, 0x153), (0xBE, 0x178)]

def windows1252 : Table :=
  [(0x80, 0x20AC), (0x82, 0x201A), (0x83, 0x192), (0x84, 0x201E), (0x85, 0x2026),
   (0x86, 0x2020), (0x87, 0x2021), (0x88, 0x2C6), (0x89, 0x2030), (0x8A, 0x160),
   (0x8B, 0x2039), (0x8C, 0x152), (0x8E, 0x17D), (0x91, 0x2018), (0x92, 0x2019),
   (0x93, 0x201C), (0x94, 0x201D), (0x95, 0x2022), (0x96, 0x2013), (0x97, 0x2014),
   (0x98, 0x2DC), (0x99, 0x2122), (0x9A, 0x161), (0x9B, 0x203A), (0x9C, 0x153),
   (0x9E, 0x17E), (0x9F, 0x178)]

def decodeByte (table : Table) (byte : UInt8) : Char :=
  Char.ofNat ((table.lookup byte.toNat).getD byte.toNat)

def decode (table : Table) (bytes : List UInt8) : Text := bytes.map (decodeByte table)

end ChartScript.SingleByte
