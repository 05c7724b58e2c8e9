import ChartScript.Fault
import ChartScript.Range
import ChartScript.SourceLine

/-!
# Named lists

A `LIST` line creates a list or appends to one:

    LIST NEW name token ...
    LIST ADD name token ...

Its ranges are replaced by their values before it is cut into tokens, and commas separate
tokens as blanks do.  Creating a list that exists empties it first; appending needs a list
that exists.  The registry holds the lists of a file, each name once, in the order in which
the names first appeared.
-/

namespace ChartScript

inductive ListOperation where
  | new
  | add
  deriving DecidableEq, Repr

namespace ListOperation

def word : ListOperation → Text
  | .new => ['N', 'E', 'W']
  | .add => ['A', 'D', 'D']

def ofWord? (word : Text) : Option ListOperation :=
  if word = ListOperation.new.word then some .new
  else if word = ListOperation.add.word then some .add
  else none

end ListOperation

structure ListStatement where
  line : Nat
  operation : ListOperation
  name : Text
  tokens : List Text
  deriving DecidableEq, Repr

namespace ListStatement

def read (line : SourceLine) : Except ExpandError ListStatement :=
  match Range.expandAll line.text with
  | .error error => .error (.malformed line.number error)
  | .ok text =>
    match Text.tokens .blanksAndCommas text with
    | _ :: operation :: name :: token :: tokens =>
      match ListOperation.ofWord? operation with
      | some operation =>
        .ok { line := line.number, operation, name, tokens := token :: tokens }
      | none => .error (.ofFault line.number (.listOperation operation))
    | _ => .error (.ofFault line.number .shortList)

end ListStatement

structure Registry where
  lists : List (Text × List Text)
  nodup : (lists.map Prod.fst).Nodup
  deriving DecidableEq

namespace Registry

def empty : Registry := ⟨[], List.nodup_nil⟩

def get? (registry : Registry) (name : Text) : Option (List Text) := registry.lists.lookup name

def contains (registry : Registry) (name : Text) : Bool :=
  (registry.lists.map Prod.fst).contains name

def size (registry : Registry) : Nat := registry.lists.length

/-- The names by their code points. -/
def names (registry : Registry) : List Text :=
  (registry.lists.map Prod.fst).mergeSort Text.le

/-- The lists with `tokens` under `name`, in the place of an earlier list of that name or
else at the end. -/
def setList (name : Text) (tokens : List Text) :
    List (Text × List Text) → List (Text × List Text)
  | [] => [(name, tokens)]
  | (other, found) :: lists =>
    if other = name then (other, tokens) :: lists
    else (other, found) :: setList name tokens lists

theorem mem_map_fst_setList {name other : Text} {tokens : List Text}
    {lists : List (Text × List Text)} :
    other ∈ (setList name tokens lists).map Prod.fst ↔
      other = name ∨ other ∈ lists.map Prod.fst := by
  induction lists with
  | nil => simp [setList]
  | cons entry lists ih =>
    obtain ⟨first, found⟩ := entry
    by_cases h : first = name
    · subst h
      simp [setList]
    · simp only [setList, if_neg h, List.map_cons, List.mem_cons, ih]
      exact or_left_comm

theorem nodup_setList {name : Text} {tokens : List Text} {lists : List (Text × List Text)}
    (h : (lists.map Prod.fst).Nodup) : ((setList name tokens lists).map Prod.fst).Nodup := by
  induction lists with
  | nil => simp [setList]
  | cons entry lists ih =>
    obtain ⟨first, found⟩ := entry
    obtain ⟨hfirst, hlists⟩ := List.nodup_cons.1 h
    by_cases hname : first = name
    · simpa [setList, hname] using h
    · simp only [setList, if_neg hname, List.map_cons]
      refine List.nodup_cons.2 ⟨fun hmem => ?_, ih hlists⟩
      rcases mem_map_fst_setList.1 hmem with hmem | hmem
      · exact hname hmem
      · exact hfirst hmem

def set (registry : Registry) (name : Text) (tokens : List Text) : Registry :=
  ⟨setList name tokens registry.lists, nodup_setList registry.nodup⟩

theorem lookup_setList_self (name : Text) (tokens : List Text)
    (lists : List (Text × List Text)) : (setList name tokens lists).lookup name = some tokens := by
  induction lists with
  | nil => simp [setList]
  | cons entry lists ih =>
    obtain ⟨first, found⟩ := entry
    by_cases h : first = name
    · simp [setList, h]
    · simp [setList, h, List.lookup_cons, ih, beq_false_of_ne (Ne.symm h)]

theorem lookup_setList_of_ne {name other : Text} (h : other ≠ name) (tokens : List Text)
    (lists : List (Text × List Text)) :
    (setList name tokens lists).lookup other = lists.lookup other := by
  induction lists with
  | nil => simp [setList, List.lookup_cons, beq_false_of_ne h]
  | cons entry lists ih =>
    obtain ⟨first, found⟩ := entry
    by_cases hfirst : first = name
    · subst hfirst
      simp [setList, List.lookup_cons, beq_false_of_ne h]
    · simp [setList, hfirst, List.lookup_cons, ih]

@[simp] theorem get?_set_self (registry : Registry) (name : Text) (tokens : List Text) :
    (registry.set name tokens).get? name = some tokens :=
  lookup_setList_self name tokens registry.lists

theorem get?_set_of_ne (registry : Registry) {name other : Text} (h : other ≠ name)
    (tokens : List Text) : (registry.set name tokens).get? other = registry.get? other :=
  lookup_setList_of_ne h tokens registry.lists

/-- Carries out a `LIST` statement. -/
def apply (registry : Registry) (statement : ListStatement) : Except ExpandError Registry :=
  match statement.operation with
  | .new => .ok (registry.set statement.name statement.tokens)
  | .add =>
    match registry.get? statement.name with
    | none => .error (.unknownList statement.line statement.name)
    | some tokens => .ok (registry.set statement.name (tokens ++ statement.tokens))

end Registry

end ChartScript
