import ChartScript.Proofs.ExpansionRerun
import ChartScript.Proofs.LastDefinitions

/-!
# Derived quantities on charts and in the table

A quantity is derived if some statement of the file defines it.  A chart knows this by a flag
on the series, with the dataset counted from 0; the table of definitions knows it by an entry,
and the position of the entry is found by the written name.  All three agree: the table holds
exactly the names that are defined, the flag was read off the finished table, and every name
that a line can give is read back from its text.
-/

namespace ChartScript

/-! ## The table -/

namespace Directive

def Defines (name : QualifiedName) (directive : Directive) : Prop :=
  ∃ definition, directive = .define definition ∧ definition.name = name

end Directive

namespace DefinitionTable

variable {table : DefinitionTable} {name : QualifiedName}

theorem position?_ne_none_iff : table.position? name ≠ none ↔ table.contains name = true := by
  unfold contains
  exact Option.isSome_iff_ne_none.symm

theorem position?_of_getElem?
    {position : Nat} {definition : Definition}
    (hentry : table.entries[position]? = some definition) :
    table.position? definition.name = some position := by
  unfold position?
  rw [table.locates, hentry]
  rfl

theorem positionOf?_text (hname : name.Readable) :
    table.positionOf? name.text = table.position? name := by
  unfold positionOf?
  rw [hname.parse?_text, Option.bind_some]

theorem contains_insert (definition : Definition) :
    (table.insert definition).contains name = true ↔
      definition.name = name ∨ table.contains name = true := by
  simp only [contains_iff_mem_map, entries_insert, List.map_append, List.mem_append,
    List.map_singleton, List.mem_singleton, List.mem_map, List.mem_filter]
  constructor
  · rintro (⟨found, ⟨hfound, _⟩, rfl⟩ | rfl)
    · exact .inr ⟨found, hfound, rfl⟩
    · exact .inl rfl
  · rintro (rfl | ⟨found, hfound, rfl⟩)
    · exact .inr rfl
    · by_cases hsame : found.name = definition.name
      · exact .inr hsame
      · exact .inl ⟨found, ⟨hfound, by simpa using hsame⟩, rfl⟩

theorem contains_after (directive : Directive) :
    (table.after directive).contains name = true ↔
      directive.Defines name ∨ table.contains name = true := by
  unfold Directive.Defines
  cases directive with
  | define definition =>
      simpa [after] using @contains_insert table name definition
  | addChart => simp [after]
  | addSeries dataset quantity axis => simp [after]
  | passthrough text => simp [after]

/-- The table holds the names that are defined, wherever the definitions stand. -/
theorem contains_ofStatements_iff {statements : List Statement} :
    (ofStatements statements).contains name = true ↔
      ∃ statement ∈ statements, statement.directive.Defines name := by
  have hfold : ∀ (directives : List Directive) (table : DefinitionTable),
      (directives.foldl after table).contains name = true ↔
        (∃ directive ∈ directives, directive.Defines name) ∨ table.contains name = true := by
    intro directives
    induction directives with
    | nil => simp
    | cons directive rest ih =>
        intro table
        rw [List.foldl_cons, ih, contains_after, List.exists_mem_cons_iff, or_assoc, or_left_comm]
  have hempty : empty.contains name = false := rfl
  rw [ofStatements_eq_foldl, hfold, hempty]
  simp

end DefinitionTable

/-! ## Names that a line gives -/

theorem Definition.name_readable_of_read
    {line : SourceLine} {definition : Definition} (hread : read line = .ok definition)
    (hfeed : '\n' ∉ line.text) :
    definition.name.Readable := by
  unfold read at hread
  split at hread
  · cases hread
  · next name unit tail hsplit =>
      split at hread
      · cases hread
      · obtain rfl := Except.ok.inj hread
        exact (readable_of_split hsplit hfeed).1

namespace Directive

/-- The quantity that a directive defines or shows. -/
def name? : Directive → Option QualifiedName
  | .define definition => some definition.name
  | .addSeries dataset quantity _ => some ⟨dataset, quantity⟩
  | _ => none

theorem Canonical.name_readable
    {directive : Directive} (hcanonical : directive.Canonical) {name : QualifiedName}
    (hname : directive.name? = some name) :
    name.Readable := by
  cases directive with
  | define definition =>
      obtain rfl := Option.some.inj hname
      exact Definition.Canonical.name_readable hcanonical
  | addSeries dataset quantity axis =>
      obtain rfl := Option.some.inj hname
      obtain ⟨hdataset, hquantity, hfeed, _⟩ := hcanonical
      exact ⟨hdataset, hquantity.1, hfeed⟩
  | addChart => cases hname
  | passthrough text => cases hname

/-- The name that a line gives can be read back. -/
theorem name_readable_of_read
    {line : SourceLine} {directive : Directive} (hread : read line = .ok directive)
    (hfeed : '\n' ∉ line.text) {name : QualifiedName} (hname : directive.name? = some name) :
    name.Readable := by
  by_cases hkeyword : Keyword.ofLine line.text = .define
  · unfold read at hread
    rw [hkeyword] at hread
    obtain ⟨definition, hdefinition, rfl⟩ := map_eq_ok_iff.1 hread
    obtain rfl := Option.some.inj hname
    exact Definition.name_readable_of_read hdefinition hfeed
  · have hpass : directive.isPassthrough = false := by
      cases directive with
      | passthrough text => cases hname
      | define definition => rfl
      | addChart => rfl
      | addSeries dataset quantity axis => rfl
    exact (canonical_of_read hread hpass hfeed fun h => absurd h hkeyword).name_readable hname

end Directive

/-! ## Series -/

/-- The statement asks for the series, and its flag says whether the table has its name. -/
structure Series.AddedBy (table : DefinitionTable) (statement : Statement) (series : Series) :
    Prop where
  directive_eq :
    statement.directive = .addSeries (series.dataset + 1) series.quantity series.axis
  isDerived_eq : series.isDerived = table.contains ⟨series.dataset + 1, series.quantity⟩

namespace ChartDraft

def allSeries (draft : ChartDraft) : List Series :=
  (draft.current?.toList ++ draft.finished).flatten

theorem mem_allSeries_of_charts
    {draft : ChartDraft} {xRange : Text} {chart : Chart} {series : Series}
    (hchart : chart ∈ draft.charts xRange) (hseries : series ∈ chart.series) :
    series ∈ draft.allSeries := by
  unfold charts at hchart
  obtain ⟨found, hfound, rfl⟩ := List.mem_map.1 (List.mem_reverse.1 hchart)
  exact List.mem_flatten.2 ⟨found, hfound, List.mem_reverse.1 hseries⟩

/-- A statement adds nothing but the series that it asks for. -/
theorem mem_allSeries_of_add
    {datasets : Nat} {table : DefinitionTable} {statement : Statement} {draft next : ChartDraft}
    (hadd : draft.add datasets table statement = .ok next) {series : Series}
    (hseries : series ∈ next.allSeries) :
    series ∈ draft.allSeries ∨ series.AddedBy table statement := by
  unfold add at hadd
  split at hadd
  · obtain rfl := Except.ok.inj hadd
    exact .inl (by simpa [allSeries] using hseries)
  · next dataset quantity axis hdirective =>
      split at hadd
      · cases hadd
      · next current hcurrent =>
          split at hadd
          · next hdataset =>
              obtain rfl := Except.ok.inj hadd
              have hnumber : dataset - 1 + 1 = dataset := Nat.sub_add_cancel hdataset.1
              simp only [allSeries, Option.toList_some, List.flatten_cons,
                List.cons_append, List.mem_cons] at hseries
              rcases hseries with rfl | hseries
              · exact .inr ⟨by rw [hdirective, hnumber], by rw [hnumber]⟩
              · exact .inl (by simpa [allSeries, hcurrent] using hseries)
          · cases hadd
  · obtain rfl := Except.ok.inj hadd
    exact .inl hseries

end ChartDraft

namespace ChartSet

/-- Every series of a finished set is in the draft that it began with or was asked for by a
statement, under either policy. -/
theorem exists_addedBy_of_ofDraft
    {options : Options} {table : DefinitionTable} {xRange : Text} {draft : ChartDraft}
    {statements : List Statement} {set : ChartSet}
    (hrun : (ofDraft options table xRange draft statements).result = .ok set)
    {chart : Chart} (hchart : chart ∈ set.charts) {series : Series}
    (hseries : series ∈ chart.series) :
    series ∈ draft.allSeries ∨ ∃ statement ∈ statements, series.AddedBy table statement := by
  induction statements generalizing draft set with
  | nil =>
      obtain rfl := Except.ok.inj hrun
      exact .inl (ChartDraft.mem_allSeries_of_charts hchart hseries)
  | cons statement rest ih =>
      unfold ofDraft at hrun
      cases hadd : draft.add options.datasets table statement with
      | ok next =>
          rw [hadd] at hrun
          rcases ih hrun hchart with hmem | ⟨other, hother, hadded⟩
          · rcases ChartDraft.mem_allSeries_of_add hadd hmem with hmem | hadded
            · exact .inl hmem
            · exact .inr ⟨statement, List.mem_cons_self, hadded⟩
          · exact .inr ⟨other, List.mem_cons_of_mem statement hother, hadded⟩
      | error error =>
          rw [hadd] at hrun
          cases hpolicy : options.onError with
          | abort =>
              rw [hpolicy] at hrun
              cases hrun
          | skip =>
              rw [hpolicy] at hrun
              obtain ⟨others, hothers, rfl⟩ := map_eq_ok_iff.1 hrun
              rcases ih hothers hchart with hmem | ⟨other, hother, hadded⟩
              · exact .inl hmem
              · exact .inr ⟨other, List.mem_cons_of_mem statement hother, hadded⟩

end ChartSet

/-! ## Files -/

namespace CommandFile

theorem name_readable_of_mem_statements
    {options : Options} {source : Text} {file : CommandFile}
    (hfile : (ofSource options source).result = .ok file)
    {statement : Statement} (hstatement : statement ∈ file.statements) {name : QualifiedName}
    (hname : statement.directive.name? = some name) :
    name.Readable := by
  obtain ⟨line, _, hfeed, hread⟩ := exists_line_of_mem_statements hfile hstatement
  exact Directive.name_readable_of_read hread hfeed hname

theorem exists_addedBy_of_charts
    {file : CommandFile} {xRange : Text} {set : ChartSet}
    (hset : (file.charts xRange).result = .ok set) {chart : Chart} (hchart : chart ∈ set.charts)
    {series : Series} (hseries : series ∈ chart.series) :
    ∃ statement ∈ file.statements, series.AddedBy file.derived statement := by
  unfold charts at hset
  simp only at hset
  split at hset
  · cases hset
  · next found hfound =>
      obtain rfl := Except.ok.inj hset
      rcases ChartSet.exists_addedBy_of_ofDraft hfound hchart hseries with hmem | hadded
      · cases hmem
      · exact hadded

/-- The flags on charts, the statements and the table of definitions say the same. -/
structure DerivedAgree (file : CommandFile) (set : ChartSet) : Prop where
  isDerived_iff_defined : ∀ chart ∈ set.charts, ∀ series ∈ chart.series,
    (series.isDerived = true ↔ ∃ statement ∈ file.statements,
      statement.directive.Defines ⟨series.dataset + 1, series.quantity⟩)
  isDerived_iff_found : ∀ chart ∈ set.charts, ∀ series ∈ chart.series,
    (series.isDerived = true ↔
      file.derivedIndex? (QualifiedName.text ⟨series.dataset + 1, series.quantity⟩) ≠ none)
  entry_found : ∀ position definition, file.derived.entries[position]? = some definition →
    file.derivedIndex? definition.name.text = some position

/-- A series of a file is marked as derived exactly if some statement defines its quantity,
before or after the series, and exactly if its written name is found in the table; and every
entry of the table is found by its written name, since the statement that defines it has a name
that can be read. -/
theorem derivedAgree_of_ofSource
    {options : Options} {source xRange : Text} {file : CommandFile} {set : ChartSet}
    (hfile : (ofSource options source).result = .ok file)
    (hset : (file.charts xRange).result = .ok set) :
    file.DerivedAgree set := by
  obtain ⟨_, _, _, hderived⟩ := of_ofSource hfile
  refine ⟨?_, ?_, ?_⟩
  · intro chart hchart series hseries
    obtain ⟨statement, _, hadded⟩ := exists_addedBy_of_charts hset hchart hseries
    rw [hadded.isDerived_eq, hderived]
    exact DefinitionTable.contains_ofStatements_iff
  · intro chart hchart series hseries
    obtain ⟨statement, hstatement, hadded⟩ := exists_addedBy_of_charts hset hchart hseries
    have hname : statement.directive.name? = some ⟨series.dataset + 1, series.quantity⟩ := by
      rw [hadded.directive_eq]
      rfl
    have hreadable := name_readable_of_mem_statements hfile hstatement hname
    unfold derivedIndex?
    rw [hadded.isDerived_eq, DefinitionTable.positionOf?_text hreadable,
      DefinitionTable.position?_ne_none_iff]
  · intro position definition hentry
    have hmem : definition.name ∈ file.derived.entries.map Definition.name :=
      List.mem_map_of_mem (List.mem_of_getElem? hentry)
    rw [← DefinitionTable.contains_iff_mem_map, hderived,
      DefinitionTable.contains_ofStatements_iff] at hmem
    obtain ⟨statement, hstatement, found, hdirective, hsame⟩ := hmem
    have hname : statement.directive.name? = some definition.name := by
      rw [hdirective, ← hsame]
      rfl
    have hreadable := name_readable_of_mem_statements hfile hstatement hname
    unfold derivedIndex?
    rw [DefinitionTable.positionOf?_text hreadable]
    exact DefinitionTable.position?_of_getElem? hentry

/-- Quantities that are defined after their series, defined again, and never defined. -/
def redefinedSource : Text :=
  ['\n'].intercalate
    ["DEFINE 1:p = $a".toList, "ADD CHART".toList, "ADD SERIES 1 p".toList,
      "ADD SERIES 2 p".toList, "ADD SERIES 2 7:p".toList, "DEFINE 2:7:p m = $b".toList,
      "DEFINE 01:p = $c".toList]

theorem derivedAgree_of_ofSource_redefinedSource :
    ∃ file set,
      (ofSource ⟨2, .abort⟩ redefinedSource).result = .ok file ∧
        (file.charts ['x']).result = .ok set ∧
        set.charts.map (fun chart => chart.series.map Series.isDerived) =
          [[true, false, true]] ∧
        file.derived.entries.map Definition.name = [⟨2, "7:p".toList⟩, ⟨1, "p".toList⟩] ∧
        file.DerivedAgree set := by
  have hrun : (ofSource ⟨2, .abort⟩ redefinedSource).result.map
      (fun file => (file.derived.entries.map Definition.name,
        (file.charts ['x']).result.map fun set =>
          set.charts.map fun chart => chart.series.map Series.isDerived)) =
      .ok ([⟨2, "7:p".toList⟩, ⟨1, "p".toList⟩], .ok [[true, false, true]]) := by
    decide +kernel
  obtain ⟨file, hfile, hfound⟩ := map_eq_ok_iff.1 hrun
  obtain ⟨hentries, hcharts⟩ := Prod.mk.inj hfound
  obtain ⟨set, hset, hflags⟩ := map_eq_ok_iff.1 hcharts
  exact ⟨file, set, hfile, hset, hflags, hentries, derivedAgree_of_ofSource hfile hset⟩

end CommandFile

end ChartScript
