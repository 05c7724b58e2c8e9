import ChartScript.Registry
import ChartScript.Text.Token

/-!
# Segments of a file

A file falls into segments of consecutive lines: a `FOR` line runs to the `NEXT` that
closes it, and every other line is a segment of its own.  What closes a `FOR` is the first
`NEXT` beyond those that answer to inner `FOR` lines, so that a faulty block is left behind
as a whole; without such a `NEXT` the segment runs to the end of the file.

A segment holds a block, or the error that makes it none.  Of several errors in a loop the
missing `NEXT` comes first, then the first inner `FOR`, then what is wrong with the header.
-/

namespace ChartScript

/-- Where a loop takes its values from. -/
inductive LoopSource where
  | range (values : List Text)
  | list (name : Text)
  deriving DecidableEq, Repr

/-- The lines of `body` once for every value of the loop variable. -/
structure Loop where
  line : Nat
  var : Text
  source : LoopSource
  body : List SourceLine
  deriving DecidableEq, Repr

inductive Block where
  | list (statement : ListStatement)
  | loop (loop : Loop)
  | plain (line : SourceLine)
  deriving DecidableEq, Repr

/-- Consecutive lines, and the block that they make up. -/
structure Segment where
  lines : List SourceLine
  block : Except ExpandError Block

namespace LoopSource

def inWord : Text := ['I', 'N']

/-- The list that `name`, `$name` or `${name}` refers to. -/
def listName (reference : Text) : Except Fault Text :=
  let name? : Option Text :=
    match reference with
    | '$' :: '{' :: inside => if inside.getLast? = some '}' then some inside.dropLast else none
    | '$' :: name => some name
    | name => some name
  match name? with
  | none => .error (.openListReference reference)
  | some name => if name.isEmpty then .error .emptyListReference else .ok name

/-- Reads the source of a loop from its header line, of which `token` is the first token
after `IN` and `more` are the tokens that follow. -/
def ofTokens (line : Text) (token : Text) (more : List Text) : Except SyntaxError LoopSource :=
  if Range.opening.isPrefixOf token then (Range.valuesIn line).map .range
  else if !more.isEmpty then .error ⟨none, .loopSource⟩
  else
    match listName token with
    | .error fault => .error ⟨none, fault⟩
    | .ok name => .ok (.list name)

end LoopSource

namespace Loop

/-- Reads the variable and the source from the line `FOR variable IN source`. -/
def readHeader (header : Text) : Except SyntaxError (Text × LoopSource) :=
  match Text.tokens .blanksAndCommas header with
  | _ :: var :: word :: token :: more =>
    if word = LoopSource.inWord then
      (LoopSource.ofTokens header token more).map fun source => (var, source)
    else .error ⟨none, .loopHeader⟩
  | _ => .error ⟨none, .loopHeader⟩

/-- The loop with a header and a body, where there is no inner loop. -/
def read (header : SourceLine) (body : List SourceLine) : Except ExpandError Loop :=
  match body.find? fun line => Keyword.ofLine line.text == .loop with
  | some line => .error (.ofFault line.number .nestedLoop)
  | none =>
    match readHeader header.text with
    | .error error => .error (.malformed header.number error)
    | .ok (var, source) => .ok { line := header.number, var, source, body }

/-- The lines before the `NEXT` that closes a loop, that `NEXT`, and the lines after it;
`depth` inner loops are open. -/
def splitBody? (depth : Nat) :
    List SourceLine → Option (List SourceLine × SourceLine × List SourceLine)
  | [] => none
  | line :: rest =>
    match Keyword.ofLine line.text, depth with
    | .next, 0 => some ([], line, rest)
    | .next, depth + 1 => (splitBody? depth rest).map (keep line)
    | .loop, depth => (splitBody? (depth + 1) rest).map (keep line)
    | _, depth => (splitBody? depth rest).map (keep line)
where
  keep (line : SourceLine) : List SourceLine × SourceLine × List SourceLine →
      List SourceLine × SourceLine × List SourceLine
    | (body, next, after) => (line :: body, next, after)

/-- Splitting loses no line. -/
theorem eq_of_splitBody?_eq_some {depth : Nat} {lines body after : List SourceLine}
    {next : SourceLine} (h : splitBody? depth lines = some (body, next, after)) :
    lines = body ++ next :: after := by
  induction lines generalizing depth body with
  | nil => simp [splitBody?] at h
  | cons line rest ih =>
    have hkept {inner : Nat}
        (h : (splitBody? inner rest).map (splitBody?.keep line) = some (body, next, after)) :
        line :: rest = body ++ next :: after := by
      obtain ⟨⟨found, first, last⟩, hfound, heq⟩ := Option.map_eq_some_iff.1 h
      simp only [splitBody?.keep, Prod.mk.injEq] at heq
      obtain ⟨rfl, rfl, rfl⟩ := heq
      rw [ih hfound, List.cons_append]
    unfold splitBody? at h
    split at h
    · obtain ⟨rfl, rfl, rfl⟩ := by simpa using h
      rfl
    · exact hkept h
    · exact hkept h
    · exact hkept h

end Loop

namespace Block

/-- The block of a line that begins no loop. -/
def ofLine (line : SourceLine) : Except ExpandError Block :=
  match Keyword.ofLine line.text with
  | .list => (ListStatement.read line).map .list
  | .next => .error (.ofFault line.number .strayNext)
  | _ => .ok (.plain line)

end Block

def segments (lines : List SourceLine) : List Segment :=
  match lines with
  | [] => []
  | line :: rest =>
    if Keyword.ofLine line.text = .loop then
      match _h : Loop.splitBody? 0 rest with
      | none => [⟨line :: rest, .error (.ofFault line.number .openLoop)⟩]
      | some (body, next, after) =>
        ⟨line :: body ++ [next], (Loop.read line body).map .loop⟩ :: segments after
    else ⟨[line], Block.ofLine line⟩ :: segments rest
termination_by lines.length
decreasing_by
  · have hlines := congrArg List.length (Loop.eq_of_splitBody?_eq_some _h)
    simp only [List.length_append, List.length_cons] at hlines ⊢
    omega
  · simp

/-- The segments of a file are its lines, in order. -/
theorem flatMap_lines_segments (lines : List SourceLine) :
    (segments lines).flatMap Segment.lines = lines := by
  fun_induction segments lines with
  | case1 => rfl
  | case2 line rest _ h => simp
  | case3 line rest _ body next after h ih =>
    simp only [List.flatMap_cons, ih]
    simp [Loop.eq_of_splitBody?_eq_some h]
  | case4 line rest _ ih => simp [ih]

end ChartScript
