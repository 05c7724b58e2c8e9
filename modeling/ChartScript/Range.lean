import ChartScript.Fault
import ChartScript.Text.Search
import ChartScript.Text.Token

/-!
# Ranges

`RANGE(a,b)` stands for the integers from `a` to `b`, both included, so none if `a > b`.
Its first closing parenthesis ends it, white space may surround the bounds, and they are
64-bit integers that span at most 100000 values.

A loop takes the values of a range.  A list line has its ranges replaced by their values,
one after the other and each time from the start of the line.  An empty range can leave the
two halves of another `RANGE(` side by side, but every replacement removes a parenthesis,
so that the process ends.
-/

namespace ChartScript

/-- The bounds of a range, both included. -/
structure Range where
  low : Int
  high : Int
  deriving DecidableEq, Repr

/-- The first range of a line and the text around it. -/
structure RangeOccurrence where
  before : Text
  range : Range
  after : Text
  deriving DecidableEq, Repr

namespace Range

def opening : Text := ['R', 'A', 'N', 'G', 'E', '(']

/-- The largest number of values of one range. -/
def maxLength : Nat := 100000

def length (range : Range) : Int := range.high - range.low + 1

/-- The decimal forms of the values, in increasing order. -/
def values (range : Range) : List Text :=
  (List.range range.length.toNat).map fun (k : Nat) => Decimal.ofInt (range.low + k)

/-- The least bound, a signed number of 64 bits. -/
def minBound : Int := -9223372036854775808

def maxBound : Int := 9223372036854775807

/-- A sign, if there is one, and the digits that follow; then the rest. -/
def takeSigned? (text : Text) : Option (Text × Text) :=
  let (sign, rest) : Text × Text :=
    match text with
    | '+' :: rest => (['+'], rest)
    | '-' :: rest => (['-'], rest)
    | rest => ([], rest)
  let digits := rest.takeWhile Decimal.isAnyDigit
  if digits.isEmpty then none else some (sign ++ digits, rest.dropWhile Decimal.isAnyDigit)

/-- The texts of the two bounds between the parentheses of a range. -/
def boundTexts? (inner : Text) : Option (Text × Text) :=
  match takeSigned? inner.trimStart with
  | none => none
  | some (low, rest) =>
    match Text.trimStart rest with
    | ',' :: rest =>
      match takeSigned? (Text.trimStart rest) with
      | none => none
      | some (high, rest) => if (Text.trimStart rest).isEmpty then some (low, high) else none
    | _ => none

def bound (column : Nat) (text : Text) : Except SyntaxError Int :=
  match Decimal.between? minBound maxBound text with
  | some n => .ok n
  | none => .error ⟨some column, .rangeBoundSize text⟩

/-- Reads what stands between the parentheses.  `start` is the column of the range and
`inside` that of the character after its opening parenthesis. -/
def ofInner (start inside : Nat) (inner : Text) : Except SyntaxError Range :=
  match boundTexts? inner with
  | none => .error ⟨some inside, .rangeBounds inner⟩
  | some (lowText, highText) => do
    let low ← bound inside lowText
    let high ← bound inside highText
    let range : Range := { low, high }
    if range.length > maxLength then .error ⟨some start, .rangeLength⟩ else .ok range

/-- The first range of a line. -/
def locate (line : Text) : Except SyntaxError (Option RangeOccurrence) :=
  match Text.cut? opening line with
  | none => .ok none
  | some (before, rest) =>
    let start := before.length + 1
    match rest.dropWhile (· != ')') with
    | [] => .error ⟨some start, .openRange⟩
    | _ :: after =>
      (ofInner start (start + opening.length) (rest.takeWhile (· != ')'))).map fun range =>
        some { before, range, after }

def valuesIn (line : Text) : Except SyntaxError (List Text) :=
  match locate line with
  | .error error => .error error
  | .ok none => .error ⟨none, .noRange⟩
  | .ok (some occurrence) => .ok occurrence.range.values

end Range

def RangeOccurrence.expanded (occurrence : RangeOccurrence) : Text :=
  occurrence.before ++ Text.joinTokens occurrence.range.values ++ occurrence.after

namespace Range

theorem paren_not_mem_ofInt (n : Int) : '(' ∉ Decimal.ofInt n := by
  intro h
  rcases Decimal.isDigit_or_minus_of_mem_ofInt h with h | h <;> exact absurd h (by decide)

theorem paren_not_mem_joinTokens_values (range : Range) :
    '(' ∉ Text.joinTokens range.values := by
  have hvalues : ∀ word ∈ range.values, '(' ∉ word := by
    intro word hword
    obtain ⟨k, _, rfl⟩ := List.mem_map.1 hword
    exact paren_not_mem_ofInt _
  generalize range.values = words at hvalues
  induction words with
  | nil => simp [Text.joinTokens]
  | cons word words ih =>
    have hword := hvalues word (by simp)
    have hrest := ih fun w hw => hvalues w (by simp [hw])
    cases words with
    | nil => simpa [Text.joinTokens, List.intercalate] using hword
    | cons next words =>
      simpa [Text.joinTokens, List.intercalate, hword] using hrest

/-- Replacing a range leaves fewer parentheses open. -/
theorem count_paren_expanded_lt {line : Text} {occurrence : RangeOccurrence}
    (h : locate line = .ok (some occurrence)) :
    occurrence.expanded.count '(' < line.count '(' := by
  unfold locate at h
  split at h
  · simp at h
  · next before rest hcut =>
    simp only at h
    split at h
    · simp at h
    · next c after hafter =>
      cases hrange : ofInner (before.length + 1) (before.length + 1 + opening.length)
          (rest.takeWhile (· != ')')) with
      | error error => simp [hrange, Except.map] at h
      | ok range =>
        simp only [hrange, Except.map, Except.ok.injEq, Option.some.injEq] at h
        subst h
        have hline := Text.eq_of_cut?_eq_some hcut
        have hrest : rest = rest.takeWhile (· != ')') ++ c :: after := by
          rw [← hafter, List.takeWhile_append_dropWhile]
        have hnone : (Text.joinTokens range.values).count '(' = 0 :=
          List.count_eq_zero.2 (paren_not_mem_joinTokens_values range)
        have hopening : opening.count '(' = 1 := by decide
        have hcount : rest.count '(' =
            (rest.takeWhile (· != ')')).count '(' + (c :: after).count '(' := by
          conv => lhs; rw [hrest]
          rw [List.count_append]
        have hafter_le : after.count '(' ≤ (c :: after).count '(' :=
          List.Sublist.count_le _ (List.sublist_cons_self c after)
        simp only [RangeOccurrence.expanded, hline, List.count_append, hnone, hopening, hcount]
        omega

/-- Replaces the ranges of a line until none is left. -/
def expandAll (line : Text) : Except SyntaxError Text :=
  match _h : locate line with
  | .error error => .error error
  | .ok none => .ok line
  | .ok (some occurrence) => expandAll occurrence.expanded
termination_by line.count '('
decreasing_by exact count_paren_expanded_lt (by assumption)

def expandFirst (line : Text) : Except SyntaxError Text :=
  match locate line with
  | .error error => .error error
  | .ok none => .ok line
  | .ok (some occurrence) => .ok occurrence.expanded

end Range

end ChartScript
