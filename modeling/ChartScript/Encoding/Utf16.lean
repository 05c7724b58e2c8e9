import ChartScript.Encoding.Utf8

/-!
# UTF-16

Two bytes are a code unit, and a code unit is a character unless it is half of a surrogate
pair.  A half that is alone is invalid, and so is what is left at the end, a half, a byte or
both.
-/

namespace ChartScript.Utf16

inductive ByteOrder where
  | littleEndian
  | bigEndian
  deriving DecidableEq, Repr

def ByteOrder.codeUnit : ByteOrder → UInt8 → UInt8 → Nat
  | .littleEndian, first, second => second.toNat * 256 + first.toNat
  | .bigEndian, first, second => first.toNat * 256 + second.toNat

def isLead (n : Nat) : Bool := 0xD800 ≤ n && n ≤ 0xDBFF

def isTrail (n : Nat) : Bool := 0xDC00 ≤ n && n ≤ 0xDFFF

/-- The characters of a sequence of bytes.  `done` holds those before, the latest first, and
`lead?` is half of a pair in front of the bytes. -/
def decodeFrom (order : ByteOrder) (done : Text) (lead? : Option Nat) : List UInt8 → Text
  | first :: second :: bytes =>
    let n := order.codeUnit first second
    match lead? with
    | some lead =>
      if isTrail n then
        let c := Char.ofNat (0x10000 + (lead - 0xD800) * 0x400 + (n - 0xDC00))
        decodeFrom order (c :: done) none bytes
      else if isLead n then decodeFrom order (Utf8.replacement :: done) (some n) bytes
      else decodeFrom order (Char.ofNat n :: Utf8.replacement :: done) none bytes
    | none =>
      if isLead n then decodeFrom order done (some n) bytes
      else if isTrail n then decodeFrom order (Utf8.replacement :: done) none bytes
      else decodeFrom order (Char.ofNat n :: done) none bytes
  | rest =>
    if lead?.isSome || !rest.isEmpty then (Utf8.replacement :: done).reverse else done.reverse

def decode (order : ByteOrder) (bytes : List UInt8) : Text := decodeFrom order [] none bytes

end ChartScript.Utf16
