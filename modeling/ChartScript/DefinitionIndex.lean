import ChartScript.Directive

/-!
# The index of a table of definitions

A table of definitions keeps the position of every name in an index, so that a definition is
found without a search.  When a definition is taken out, those behind it move up by one, and
the index follows them.
-/

namespace ChartScript

/-- The position of every name in the table. -/
abbrev DefinitionIndex := List (QualifiedName × Nat)

namespace DefinitionIndex

/-- The index gives the name of every entry its position, and gives no other positions. -/
def Locates (index : DefinitionIndex) (entries : List Definition) : Prop :=
  ∀ name position,
    index.lookup name = some position ↔ (entries[position]?).map Definition.name = some name

def remove (name : QualifiedName) (index : DefinitionIndex) : DefinitionIndex :=
  index.filter fun entry => entry.1 != name

/-- Where an entry stands after the one at `gap` is taken out. -/
def movedUp (gap position : Nat) : Nat := if gap < position then position - 1 else position

def closeGap (gap : Nat) (index : DefinitionIndex) : DefinitionIndex :=
  index.map fun entry => (entry.1, movedUp gap entry.2)

theorem lookup_remove_self (name : QualifiedName) (index : DefinitionIndex) :
    (index.remove name).lookup name = none := by
  rw [List.lookup_eq_none_iff]
  intro entry hentry
  have hne := (List.mem_filter.1 hentry).2
  rw [bne_comm] at hne
  exact hne

theorem lookup_remove_of_ne {name other : QualifiedName} (hne : other ≠ name)
    (index : DefinitionIndex) : (index.remove name).lookup other = index.lookup other := by
  induction index with
  | nil => rfl
  | cons entry index ih =>
    obtain ⟨first, position⟩ := entry
    unfold remove at ih ⊢
    by_cases h : first = name
    · rw [List.filter_cons_of_neg (by simp [h]), ih, List.lookup_cons, h, beq_false_of_ne hne]
    · rw [List.filter_cons_of_pos (by simp [h]), List.lookup_cons, List.lookup_cons, ih]

theorem lookup_closeGap (gap : Nat) (name : QualifiedName) (index : DefinitionIndex) :
    (index.closeGap gap).lookup name = (index.lookup name).map (movedUp gap) := by
  induction index with
  | nil => rfl
  | cons entry index ih =>
    obtain ⟨first, position⟩ := entry
    unfold closeGap at ih ⊢
    rw [List.map_cons, List.lookup_cons, List.lookup_cons, ih]
    cases name == first <;> rfl

theorem locates_nil : Locates [] [] := by
  intro name position
  simp

variable {index : DefinitionIndex} {entries : List Definition}

theorem Locates.position_eq (h : index.Locates entries) {name : QualifiedName} {first second : Nat}
    (hfirst : (entries[first]?).map Definition.name = some name)
    (hsecond : (entries[second]?).map Definition.name = some name) : first = second := by
  rw [← h] at hfirst hsecond
  exact Option.some.inj (hfirst.symm.trans hsecond)

/-- Taking an entry out and closing the gap keeps the index right, since the only entry of its
name stood in the gap. -/
theorem Locates.eraseIdx (h : index.Locates entries) {name : QualifiedName} {gap : Nat}
    (hgap : index.lookup name = some gap) :
    ((index.remove name).closeGap gap).Locates (entries.eraseIdx gap) := by
  have hname := (h name gap).1 hgap
  intro other position
  rw [lookup_closeGap, List.getElem?_eraseIdx, Option.map_eq_some_iff]
  by_cases hother : other = name
  · subst hother
    rw [lookup_remove_self]
    refine ⟨by simp, fun hfound => ?_⟩
    split at hfound
    · have := h.position_eq hname hfound
      omega
    · have := h.position_eq hname hfound
      omega
  · rw [lookup_remove_of_ne hother]
    constructor
    · rintro ⟨found, hfound, rfl⟩
      have hne : found ≠ gap := by
        rintro rfl
        exact hother (Option.some.inj (((h other found).1 hfound).symm.trans hname))
      rw [h] at hfound
      unfold movedUp
      by_cases hbehind : gap < found
      · have hback : found - 1 + 1 = found := by omega
        rw [if_pos hbehind, if_neg (by omega), hback]
        exact hfound
      · rw [if_neg hbehind, if_pos (by omega)]
        exact hfound
    · intro hfound
      split at hfound
      · next hfront => exact ⟨position, (h other position).2 hfound, if_neg (by omega)⟩
      · next hbehind =>
        exact ⟨position + 1, (h other (position + 1)).2 hfound, if_pos (by omega)⟩

/-- An entry with a new name gets the position at the end. -/
theorem Locates.concat (h : index.Locates entries) {definition : Definition}
    (hnew : index.lookup definition.name = none) :
    Locates ((definition.name, entries.length) :: index) (entries ++ [definition]) := by
  intro name position
  by_cases hname : name = definition.name
  · subst hname
    rw [List.lookup_cons_self, Option.some.injEq]
    constructor
    · rintro rfl
      rw [List.getElem?_concat_length]
      rfl
    · intro hfound
      by_cases hfront : position < entries.length
      · rw [List.getElem?_append_left hfront, ← h, hnew] at hfound
        cases hfound
      · obtain ⟨found, hentry, _⟩ := Option.map_eq_some_iff.1 hfound
        have hlength := (List.getElem?_eq_some_iff.1 hentry).1
        rw [List.length_append, List.length_singleton] at hlength
        omega
  · rw [List.lookup_cons, beq_false_of_ne hname, h]
    by_cases hfront : position < entries.length
    · rw [List.getElem?_append_left hfront]
    · have hbehind := Nat.le_of_not_lt hfront
      rw [List.getElem?_eq_none hbehind, List.getElem?_append_right hbehind,
        List.getElem?_singleton]
      split <;> simp [Ne.symm hname]

end DefinitionIndex

end ChartScript
