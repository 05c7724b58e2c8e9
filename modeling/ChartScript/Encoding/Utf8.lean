import ChartScript.Text

/-!
# UTF-8

Bytes are decoded one after the other.  A character of several bytes is pending until its
last byte; the bounds on its next byte rule out overlong forms, surrogates and code points
that are too large.  A byte that cannot go on with the pending character ends it as invalid
and is then taken by itself, so that every invalid unit is as long as it can be.
-/

namespace ChartScript.Utf8

/-- A character of which `owed` bytes are missing: its leading bits, and the bounds of the
next byte. -/
structure Pending where
  bits : Nat
  owed : Nat
  low : Nat
  high : Nat
  deriving DecidableEq, Repr

/-- What stands for an invalid unit. -/
def replacement : Char := '\uFFFD'

/-- What a byte does between characters: it is a character, or it begins one, or it is
invalid. -/
inductive Opening where
  | whole (c : Char)
  | begins (pending : Pending)
  | invalid

def opening (byte : Nat) : Opening :=
  if byte < 0x80 then .whole (Char.ofNat byte)
  else if byte < 0xC2 then .invalid
  else if byte < 0xE0 then .begins ⟨byte - 0xC0, 1, 0x80, 0xBF⟩
  else if byte < 0xF0 then
    .begins
      ⟨byte - 0xE0, 2, if byte = 0xE0 then 0xA0 else 0x80, if byte = 0xED then 0x9F else 0xBF⟩
  else if byte < 0xF5 then
    .begins
      ⟨byte - 0xF0, 3, if byte = 0xF0 then 0x90 else 0x80, if byte = 0xF4 then 0x8F else 0xBF⟩
  else .invalid

/-- The units that are finished, the latest first, and the pending character. -/
structure Progress where
  units : List (Option Char)
  pending? : Option Pending

namespace Progress

def start : Progress := ⟨[], none⟩

def takeFresh (units : List (Option Char)) (byte : Nat) : Progress :=
  match opening byte with
  | .whole c => ⟨some c :: units, none⟩
  | .begins pending => ⟨units, some pending⟩
  | .invalid => ⟨none :: units, none⟩

def take (progress : Progress) (byte : UInt8) : Progress :=
  match progress.pending? with
  | none => Progress.takeFresh progress.units byte.toNat
  | some pending =>
    if pending.low ≤ byte.toNat ∧ byte.toNat ≤ pending.high then
      let bits := pending.bits * 64 + (byte.toNat - 0x80)
      if pending.owed = 1 then ⟨some (Char.ofNat bits) :: progress.units, none⟩
      else ⟨progress.units, some ⟨bits, pending.owed - 1, 0x80, 0xBF⟩⟩
    else Progress.takeFresh (none :: progress.units) byte.toNat

/-- All units in order; a character that is still pending is invalid. -/
def finish (progress : Progress) : List (Option Char) :=
  match progress.pending? with
  | none => progress.units.reverse
  | some _ => (none :: progress.units).reverse

end Progress

/-- The characters of a sequence of bytes, and its invalid units. -/
def units (bytes : List UInt8) : List (Option Char) :=
  (bytes.foldl Progress.take Progress.start).finish

def decode? (bytes : List UInt8) : Option Text := (units bytes).mapM id

/-- The text with the replacement character for every invalid unit. -/
def decode (bytes : List UInt8) : Text := (units bytes).map (·.getD replacement)

end ChartScript.Utf8
