import ChartScript.Text.Decimal

/-!
# Qualified names

A quantity belongs to a dataset by its qualified name `N:name`: the number of the dataset,
a colon and the name, which may hold further colons but no line feed.  Dataset 0 stands for
a definition that belongs to no dataset.

The shape `N:name` admits the digits of every script in front of the colon; a number can be
read off it only if they are ASCII digits and the number fits in 64 bits.
-/

namespace ChartScript

structure QualifiedName where
  dataset : Nat
  name : Text
  deriving DecidableEq, Repr

namespace QualifiedName

/-- The digits and the name of a text of the shape `N:name`. -/
def split? (text : Text) : Option (Text × Text) :=
  let digits := text.takeWhile Decimal.isAnyDigit
  match text.dropWhile Decimal.isAnyDigit with
  | ':' :: name =>
    if digits.isEmpty || name.isEmpty || name.contains '\n' then none else some (digits, name)
  | _ => none

def isQualified (text : Text) : Bool := (split? text).isSome

def parse? (text : Text) : Option QualifiedName :=
  match split? text with
  | some (digits, name) =>
    (Decimal.below? Decimal.wordLimit digits).map fun dataset => { dataset, name }
  | none => none

/-- The written form, with the number free of leading zeros. -/
def text (q : QualifiedName) : Text := Decimal.ofNat q.dataset ++ ':' :: q.name

/-- What is said of a text that is no qualified name. -/
def refusal (text : Text) : String := s!"'{text.str}' is not of the form <dataset>:<name>"

/-- By dataset number, then by the code points of the name. -/
def le (a b : QualifiedName) : Bool :=
  a.dataset < b.dataset || (a.dataset == b.dataset && Text.le a.name b.name)

end QualifiedName

end ChartScript
