import ChartScript.Json

/-!
# Records in JSON

A record is read from an object, whose fields may stand in any order and among unknown
ones, or from an array of its fields in order.  A known field may not be given twice.  Some
fields may be left out.
-/

namespace ChartScript.Json

inductive Absence where
  | never
  /-- Only from an object. -/
  | fromObject
  /-- From an object, and from the end of an array. -/
  | always
  deriving DecidableEq, Repr

structure FieldRule where
  name : Text
  absence : Absence
  deriving DecidableEq, Repr

def required (name : String) : FieldRule := ⟨name.toList, .never⟩

def namedValue? (fields : List (Text × Json)) (rule : FieldRule) : Option (Option Json) :=
  match fields.filter (·.1 == rule.name) with
  | [] => if rule.absence = .never then none else some none
  | [(_, value)] => some (some value)
  | _ => none

/-- The values of fields from the items of an array. -/
def listedValues? : List FieldRule → List Json → Option (List (Option Json))
  | [], [] => some []
  | [], _ :: _ => none
  | rule :: rules, [] =>
    if rule.absence = .always then (listedValues? rules []).map (none :: ·) else none
  | _ :: rules, item :: items => (listedValues? rules items).map (some item :: ·)

def fieldValues? (rules : List FieldRule) : Json → Option (List (Option Json))
  | .object fields => rules.mapM (namedValue? fields)
  | .array items => listedValues? rules items
  | _ => none

def text? : Json → Option Text
  | .string value => some value
  | _ => none

def bool? : Json → Option Bool
  | .bool value => some value
  | _ => none

def nat? (limit : Nat) : Json → Option Nat
  | .number spelling => (Decimal.nat? spelling).filter (· < limit)
  | _ => none

/-- An integer from `low` to `high`; a minus sign in front of zero makes it none. -/
def int? (low high : Int) : Json → Option Int
  | .number spelling => if spelling = ['-', '0'] then none else Decimal.between? low high spelling
  | _ => none

def list? {α : Type} (item? : Json → Option α) : Json → Option (List α)
  | .array items => items.mapM item?
  | _ => none

/-- A word, alone or as the only key of an object with no value. -/
def word? : Json → Option Text
  | .string word => some word
  | .object [(word, .null)] => some word
  | _ => none

end ChartScript.Json
