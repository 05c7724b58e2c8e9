import ChartScript.DefinitionIndex

/-!
# The table of definitions

The table holds one definition for every name.  Defining a name again takes the earlier
definition out and puts the new one at the end, so that the table is in the order of the
last definitions.
-/

namespace ChartScript

structure DefinitionTable where
  entries : List Definition
  index : DefinitionIndex
  locates : index.Locates entries
  deriving DecidableEq

namespace DefinitionTable

def empty : DefinitionTable := ⟨[], [], DefinitionIndex.locates_nil⟩

def position? (table : DefinitionTable) (name : QualifiedName) : Option Nat :=
  table.index.lookup name

/-- The table without the definition of a name. -/
def remove (table : DefinitionTable) (name : QualifiedName) : DefinitionTable :=
  match hfound : table.index.lookup name with
  | none => table
  | some gap =>
    { entries := table.entries.eraseIdx gap
      index := (table.index.remove name).closeGap gap
      locates := table.locates.eraseIdx hfound }

theorem lookup_index_remove (table : DefinitionTable) (name : QualifiedName) :
    (table.remove name).index.lookup name = none := by
  unfold remove
  split
  · assumption
  · rw [DefinitionIndex.lookup_closeGap, DefinitionIndex.lookup_remove_self]
    rfl

def insert (table : DefinitionTable) (definition : Definition) : DefinitionTable :=
  let others := table.remove definition.name
  { entries := others.entries ++ [definition]
    index := (definition.name, others.entries.length) :: others.index
    locates := others.locates.concat (table.lookup_index_remove definition.name) }

/-- The table after the definitions among some statements. -/
def ofStatements (statements : List Statement) : DefinitionTable :=
  statements.foldl
    (fun table statement =>
      match statement.directive with
      | .define definition => table.insert definition
      | _ => table)
    empty

/-- The position of the name that is written `key`. -/
def positionOf? (table : DefinitionTable) (key : Text) : Option Nat :=
  (QualifiedName.parse? key).bind table.position?

def get? (table : DefinitionTable) (name : QualifiedName) : Option Definition :=
  (table.position? name).bind fun position => table.entries[position]?

def contains (table : DefinitionTable) (name : QualifiedName) : Bool :=
  (table.position? name).isSome

def size (table : DefinitionTable) : Nat := table.entries.length

end DefinitionTable

end ChartScript
