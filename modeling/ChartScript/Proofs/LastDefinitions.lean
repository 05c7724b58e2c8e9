import ChartScript.DefinitionTable
import Mathlib.Data.List.Induction
import Mathlib.Data.List.Nodup

/-!
# The table holds the last definitions

Whatever is inserted into an empty table, and however often a name comes again, the table holds
the last definition of every name, in the order in which these were inserted, and its index
gives exactly their positions.  The positions shift with every definition that is taken out; the
entries do not show it, since taking a name out leaves the other entries in their order.
-/

namespace ChartScript

/-- The definitions whose names do not come again, in order. -/
def lastDefinitions : List Definition → List Definition
  | [] => []
  | definition :: later =>
    if definition.name ∈ later.map Definition.name then lastDefinitions later
    else definition :: lastDefinitions later

theorem lastDefinitions_concat (history : List Definition) (definition : Definition) :
    lastDefinitions (history ++ [definition]) =
      (lastDefinitions history).filter (fun other => other.name ≠ definition.name) ++
        [definition] := by
  induction history with
  | nil => rfl
  | cons first history ih =>
      have hmem : first.name ∈ (history ++ [definition]).map Definition.name ↔
          first.name ∈ history.map Definition.name ∨ first.name = definition.name := by
        simp
      rw [List.cons_append, lastDefinitions, lastDefinitions, ih]
      by_cases hagain : first.name ∈ history.map Definition.name
      · rw [if_pos (hmem.2 (.inl hagain)), if_pos hagain]
      · by_cases hsame : first.name = definition.name
        · rw [if_pos (hmem.2 (.inr hsame)), if_neg hagain,
            List.filter_cons_of_neg (by simp [hsame])]
        · rw [if_neg (mt hmem.1 (not_or.2 ⟨hagain, hsame⟩)), if_neg hagain,
            List.filter_cons_of_pos (by simp [hsame]), List.cons_append]

namespace DefinitionTable

variable {table : DefinitionTable} {name : QualifiedName}

theorem lookup_index_iff {position : Nat} :
    table.index.lookup name = some position ↔
      ∃ hposition : position < table.entries.length, table.entries[position].name = name := by
  rw [table.locates, Option.map_eq_some_iff]
  simp only [List.getElem?_eq_some_iff]
  constructor
  · rintro ⟨definition, ⟨hposition, rfl⟩, hname⟩
    exact ⟨hposition, hname⟩
  · rintro ⟨hposition, hname⟩
    exact ⟨_, ⟨hposition, rfl⟩, hname⟩

/-- No two entries have one name, since the name has one position. -/
theorem nodup_names (table : DefinitionTable) : (table.entries.map Definition.name).Nodup := by
  rw [List.nodup_iff_injective_getElem]
  rintro ⟨first, hfirst⟩ ⟨second, hsecond⟩ hsame
  rw [List.length_map] at hfirst hsecond
  have hname : table.entries[first].name = table.entries[second].name := by simpa using hsame
  have hposition := (lookup_index_iff.2 ⟨hfirst, hname⟩).symm.trans
    (lookup_index_iff.2 ⟨hsecond, rfl⟩)
  exact Fin.ext (Option.some.inj hposition)

/-! ## One insertion -/

theorem entries_remove (table : DefinitionTable) (name : QualifiedName) :
    (table.remove name).entries =
      table.entries.filter fun definition => definition.name ≠ name := by
  have hother : ∀ position definition, table.entries[position]? = some definition →
      table.index.lookup name ≠ some position → definition.name ≠ name := by
    intro position definition hentry hposition hname
    exact hposition ((table.locates name position).2 (by rw [hentry, ← hname]; rfl))
  unfold remove
  split
  · next hnone =>
      symm
      rw [List.filter_eq_self]
      intro definition hdefinition
      obtain ⟨position, hentry⟩ := List.mem_iff_getElem?.1 hdefinition
      exact decide_eq_true (hother position definition hentry (by rw [hnone]; exact nofun))
  · next gap hgap =>
      obtain ⟨hposition, hname⟩ := lookup_index_iff.1 hgap
      have hfront : ∀ definition ∈ table.entries.take gap, definition.name ≠ name := by
        intro definition hdefinition
        obtain ⟨position, hentry⟩ := List.mem_iff_getElem?.1 hdefinition
        rw [List.getElem?_take] at hentry
        split at hentry
        · next hless =>
            refine hother position definition hentry ?_
            rw [hgap, Ne, Option.some.injEq]
            omega
        · cases hentry
      have hback : ∀ definition ∈ table.entries.drop (gap + 1), definition.name ≠ name := by
        intro definition hdefinition
        obtain ⟨position, hentry⟩ := List.mem_iff_getElem?.1 hdefinition
        rw [List.getElem?_drop] at hentry
        refine hother _ definition hentry ?_
        rw [hgap, Ne, Option.some.injEq]
        omega
      have hsplit : table.entries =
          table.entries.take gap ++ table.entries[gap] :: table.entries.drop (gap + 1) := by
        rw [← List.drop_eq_getElem_cons hposition, List.take_append_drop]
      conv => rhs; rw [hsplit]
      rw [List.filter_append, List.filter_cons_of_neg (by simp [hname]),
        List.filter_eq_self.2 fun definition h => decide_eq_true (hfront definition h),
        List.filter_eq_self.2 fun definition h => decide_eq_true (hback definition h)]
      exact List.eraseIdx_eq_take_drop_succ _ _

theorem entries_insert (table : DefinitionTable) (definition : Definition) :
    (table.insert definition).entries =
      (table.entries.filter fun other => other.name ≠ definition.name) ++ [definition] := by
  unfold insert
  simp only [entries_remove]

theorem contains_iff_mem_map :
    table.contains name = true ↔ name ∈ table.entries.map Definition.name := by
  unfold contains position?
  rw [Option.isSome_iff_exists, List.mem_map]
  simp only [lookup_index_iff]
  constructor
  · rintro ⟨position, hposition, hname⟩
    exact ⟨_, List.getElem_mem hposition, hname⟩
  · rintro ⟨definition, hdefinition, hname⟩
    obtain ⟨position, hposition, rfl⟩ := List.mem_iff_getElem.1 hdefinition
    exact ⟨position, hposition, hname⟩

theorem get?_eq_some_iff {definition : Definition} :
    table.get? name = some definition ↔
      definition ∈ table.entries ∧ definition.name = name := by
  unfold get? position?
  rw [Option.bind_eq_some_iff]
  constructor
  · rintro ⟨position, hlookup, hentry⟩
    have hname := (table.locates name position).1 hlookup
    rw [hentry] at hname
    exact ⟨List.mem_of_getElem? hentry, Option.some.inj hname⟩
  · rintro ⟨hdefinition, rfl⟩
    obtain ⟨position, hentry⟩ := List.mem_iff_getElem?.1 hdefinition
    exact ⟨position, (table.locates _ position).2 (by rw [hentry]; rfl), hentry⟩

theorem get?_insert_self (table : DefinitionTable) (definition : Definition) :
    (table.insert definition).get? definition.name = some definition := by
  rw [get?_eq_some_iff, entries_insert]
  exact ⟨by simp, rfl⟩

theorem get?_insert_of_ne {definition : Definition} (hne : definition.name ≠ name) :
    (table.insert definition).get? name = table.get? name := by
  apply Option.ext
  intro found
  rw [get?_eq_some_iff, get?_eq_some_iff, entries_insert]
  constructor
  · rintro ⟨hfound, rfl⟩
    rcases List.mem_append.1 hfound with hfound | hfound
    · exact ⟨List.mem_of_mem_filter hfound, rfl⟩
    · obtain rfl := List.mem_singleton.1 hfound
      exact absurd rfl hne
  · rintro ⟨hfound, rfl⟩
    refine ⟨List.mem_append_left _ (List.mem_filter.2 ⟨hfound, ?_⟩), rfl⟩
    exact decide_eq_true (Ne.symm hne)

/-! ## A history of insertions -/

def ofDefinitions (history : List Definition) : DefinitionTable := history.foldl insert empty

theorem ofDefinitions_concat (history : List Definition) (definition : Definition) :
    ofDefinitions (history ++ [definition]) = (ofDefinitions history).insert definition := by
  unfold ofDefinitions
  rw [List.foldl_append, List.foldl_cons, List.foldl_nil]

/-- The table is an ordered map from the names of the history to their last definitions. -/
structure HoldsLast (history : List Definition) (table : DefinitionTable) : Prop where
  entries_eq : table.entries = lastDefinitions history
  nodup : (table.entries.map Definition.name).Nodup
  lookup_iff : ∀ name position, table.index.lookup name = some position ↔
    ∃ hposition : position < table.entries.length, table.entries[position].name = name
  get?_eq : ∀ name, table.get? name = history.reverse.find? fun definition =>
    definition.name = name

theorem HoldsLast.insert
    {history : List Definition} (hlast : HoldsLast history table) (definition : Definition) :
    HoldsLast (history ++ [definition]) (table.insert definition) := by
  refine ⟨?_, nodup_names _, fun _ _ => lookup_index_iff, ?_⟩
  · rw [entries_insert, hlast.entries_eq, lastDefinitions_concat]
  · intro name
    rw [List.reverse_concat]
    by_cases hname : definition.name = name
    · subst hname
      rw [get?_insert_self, List.find?_cons_of_pos (by simp)]
    · rw [get?_insert_of_ne hname, hlast.get?_eq, List.find?_cons_of_neg (by simp [hname])]

theorem holdsLast_ofDefinitions (history : List Definition) :
    HoldsLast history (ofDefinitions history) := by
  induction history using List.reverseRecOn with
  | nil => exact ⟨rfl, List.nodup_nil, fun _ _ => lookup_index_iff, fun _ => rfl⟩
  | append_singleton history definition ih =>
      rw [ofDefinitions_concat]
      exact ih.insert definition

end DefinitionTable

def Directive.definition? : Directive → Option Definition
  | .define definition => some definition
  | _ => none

namespace DefinitionTable

theorem ofStatements_eq_ofDefinitions (statements : List Statement) :
    ofStatements statements =
      ofDefinitions (statements.filterMap fun statement => statement.directive.definition?) := by
  unfold ofStatements ofDefinitions
  rw [List.foldl_filterMap]
  congr 1
  funext table statement
  cases statement.directive <;> rfl

/-- After every history of insertions the table holds the last definitions; and the table of
some statements is that of the definitions among them. -/
theorem holdsLast_after_insertions :
    (∀ history, HoldsLast history (ofDefinitions history)) ∧
      ∀ statements : List Statement,
        let history := statements.filterMap fun statement => statement.directive.definition?
        ofStatements statements = ofDefinitions history ∧
          HoldsLast history (ofStatements statements) := by
  refine ⟨holdsLast_ofDefinitions, fun statements => ⟨ofStatements_eq_ofDefinitions statements, ?_⟩⟩
  rw [ofStatements_eq_ofDefinitions]
  exact holdsLast_ofDefinitions _

end DefinitionTable

end ChartScript
