import ChartScript.CommandFile
import ChartScript.Proofs.AbsentCharacters
import ChartScript.Proofs.WrittenDirectives

/-!
# Expanding an expanded file

The statements of an expansion, written as lines, are a file of their own.  Each of these
lines is canonical: it stands for itself in every stage of a run, from the splitting of the
file to the reading of the directive.  A second run therefore comes to the same directives,
and so to the same lines and the same table of definitions.
-/

namespace ChartScript

/-! ## A canonical line in a run -/

namespace Statement

/-- The line that a statement is written as. -/
def sourceLine (statement : Statement) : SourceLine :=
  ⟨statement.line, statement.directive.text⟩

theorem ofLine_sourceLine
    {statement : Statement} (hcanonical : statement.directive.Canonical) :
    Keyword.ofLine statement.sourceLine.text ≠ .loop ∧
      Block.ofLine statement.sourceLine = .ok (.plain statement.sourceLine) := by
  have hkeyword : Keyword.ofLine statement.sourceLine.text = statement.directive.keyword :=
    hcanonical.keyword_text
  unfold Block.ofLine
  rw [hkeyword]
  cases hdirective : statement.directive with
  | define definition => exact ⟨by simp [Directive.keyword], rfl⟩
  | addChart => exact ⟨by simp [Directive.keyword], rfl⟩
  | addSeries dataset quantity axis => exact ⟨by simp [Directive.keyword], rfl⟩
  | passthrough text =>
      rw [hdirective] at hcanonical
      exact absurd hcanonical id

theorem read_sourceLine
    {statement : Statement} (hcanonical : statement.directive.Canonical) :
    read statement.sourceLine = .ok statement := by
  have hread := hcanonical.read_text statement.line
  unfold read sourceLine
  rw [hread]

/-- The line of a canonical statement leaves the lists alone and gives the statement. -/
theorem run_plain_sourceLine
    {statement : Statement} (hcanonical : statement.directive.Canonical)
    (datasets : Nat) (registry : Registry) :
    (Block.run datasets registry (.plain statement.sourceLine)).result =
      .ok (registry, [statement]) := by
  have hresolve := hcanonical.resolveMarker_text datasets statement.line
  have hread : (readAll [statement.sourceLine]).result = .ok [statement] :=
    readAll_eq_ok_iff.2 (.cons (read_sourceLine hcanonical) .nil)
  unfold Block.run Block.read Block.resolve
  unfold sourceLine at hread ⊢
  simp only [Block.updateLists, hresolve, hread]
  rfl

end Statement

namespace Expansion

/-- Canonical statements, written as lines, are what the lines expand to. -/
theorem ofSegments_sourceLines
    {statements : List Statement}
    (hcanonical : ∀ statement ∈ statements, statement.directive.Canonical)
    (options : Options) (registry : Registry) :
    (ofSegments options registry (segments (statements.map Statement.sourceLine))).result =
      .ok { statements, skipped := [], lists := registry } := by
  induction statements with
  | nil =>
      rw [List.map_nil, segments_nil]
      rfl
  | cons statement rest ih =>
      have hfirst := hcanonical statement List.mem_cons_self
      have hrest := ih fun other hother => hcanonical other (List.mem_cons_of_mem _ hother)
      obtain ⟨hkeyword, hblock⟩ := Statement.ofLine_sourceLine hfirst
      have hrun := Statement.run_plain_sourceLine hfirst options.datasets registry
      rw [List.map_cons, segments_cons_single _ hkeyword, hblock]
      unfold ofSegments Segment.run
      simp only [hrun, hrest]
      rfl

end Expansion

namespace DefinitionTable

def after (table : DefinitionTable) : Directive → DefinitionTable
  | .define definition => table.insert definition
  | _ => table

/-- The table depends on the directives alone. -/
theorem ofStatements_eq_foldl (statements : List Statement) :
    ofStatements statements = (statements.map Statement.directive).foldl after empty := by
  rw [List.foldl_map]
  rfl

end DefinitionTable

/-! ## The first run -/

namespace CommandFile

theorem of_ofSource
    {options : Options} {source : Text} {file : CommandFile}
    (hfile : (ofSource options source).result = .ok file) :
    file.options = options ∧
      file.lines = (SourceLine.ofContent source).map (SourceLine.withCases options.datasets) ∧
      file.statements = Expansion.statementsOf options.datasets
        (Expansion.steps options.datasets .empty (segments file.lines)) ∧
      file.derived = DefinitionTable.ofStatements file.statements := by
  unfold ofSource ofLoaded Expansion.ofLines LoadedFile.ofSource at hfile
  simp only at hfile
  split at hfile
  · cases hfile
  · next expansion hexpansion =>
      obtain ⟨hstatements, _⟩ := Expansion.eq_of_ofSegments_eq_ok hexpansion
      obtain rfl := Except.ok.inj hfile
      exact ⟨rfl, rfl, hstatements, rfl⟩

theorem of_ofSource_abort
    {datasets : Nat} {source : Text} {file : CommandFile}
    (hfile : (ofSource ⟨datasets, .abort⟩ source).result = .ok file) :
    file.lines = (SourceLine.ofContent source).map (SourceLine.withCases datasets) ∧
      file.statements = Expansion.statementsOf datasets
        (Expansion.steps datasets .empty (segments file.lines)) ∧
      file.derived = DefinitionTable.ofStatements file.statements :=
  (of_ofSource hfile).2

theorem no_lineFeed_of_mem_lines
    {datasets : Nat} {source : Text} {line : SourceLine}
    (hline : line ∈ (SourceLine.ofContent source).map (SourceLine.withCases datasets)) :
    '\n' ∉ line.text := by
  obtain ⟨origin, horigin, rfl⟩ := List.mem_map.1 hline
  intro hmem
  rcases Text.mem_replaceAll hmem with hmem | hmem
  · cases Decimal.isDigit_of_mem_ofNat hmem
  · exact SourceLine.not_mem_of_mem_ofContent horigin hmem

/-- Every statement of a file is read from a line without line feeds. -/
theorem exists_line_of_mem_statements
    {options : Options} {source : Text} {file : CommandFile}
    (hfile : (ofSource options source).result = .ok file)
    {statement : Statement} (hstatement : statement ∈ file.statements) :
    ∃ line ∈ Expansion.linesRead options.datasets file.lines,
      '\n' ∉ line.text ∧ Directive.read line = .ok statement.directive := by
  obtain ⟨_, hlines, hstatements, _⟩ := of_ofSource hfile
  rw [hstatements] at hstatement
  obtain ⟨line, hline, hread⟩ := Expansion.exists_line_of_mem_statementsOf hstatement
  refine ⟨line, hline, ?_, ?_⟩
  · refine Expansion.not_mem_of_mem_linesRead (by decide) ?_ options.datasets line hline
    intro origin horigin
    rw [hlines] at horigin
    exact no_lineFeed_of_mem_lines horigin
  · unfold Statement.read at hread
    split at hread
    · cases hread
    · next directive hdirective =>
        obtain rfl := Except.ok.inj hread
        exact hdirective

/-- Every statement that is not passed through is canonical. -/
theorem canonical_of_mem_statements
    {datasets : Nat} {source : Text} {file : CommandFile}
    (hfile : (ofSource ⟨datasets, .abort⟩ source).result = .ok file)
    (hclosed : ∀ line ∈ Expansion.linesRead datasets file.lines,
      Keyword.ofLine line.text = .define → Definition.Enclosable line.text)
    {statement : Statement} (hstatement : statement ∈ file.statements)
    (hpass : statement.directive.isPassthrough = false) :
    statement.directive.Canonical := by
  obtain ⟨line, hline, hfeed, hread⟩ := exists_line_of_mem_statements hfile hstatement
  exact Directive.canonical_of_read hread hpass hfeed (hclosed line hline)

/-! ## The second run -/

/-- The statements with the line numbers 1, 2, 3 and so on. -/
def renumbered (statements : List Statement) : List Statement :=
  (statements.zipIdx 1).map fun (statement, number) => ⟨number, statement.directive⟩

theorem map_directive_renumbered (statements : List Statement) :
    (renumbered statements).map Statement.directive = statements.map Statement.directive := by
  unfold renumbered
  rw [List.map_map]
  have hfst : (fun pair : Statement × Nat => pair.1.directive) =
      Statement.directive ∘ Prod.fst := rfl
  calc (statements.zipIdx 1).map (fun pair => pair.1.directive)
      = ((statements.zipIdx 1).map Prod.fst).map Statement.directive := by
        rw [List.map_map, hfst]
    _ = statements.map Statement.directive := by rw [List.zipIdx_map_fst]

theorem mem_of_mem_renumbered
    {statements : List Statement} {statement : Statement}
    (hstatement : statement ∈ renumbered statements) :
    ∃ original ∈ statements, statement.directive = original.directive := by
  obtain ⟨⟨original, number⟩, hmem, rfl⟩ := List.mem_map.1 hstatement
  exact ⟨original, List.fst_mem_of_mem_zipIdx hmem, rfl⟩

theorem map_sourceLine_renumbered (statements : List Statement) :
    (renumbered statements).map Statement.sourceLine =
      ((statements.map (·.directive.text)).zipIdx 1).map
        fun (text, number) => ⟨number, text⟩ := by
  unfold renumbered
  rw [List.zipIdx_map, List.map_map, List.map_map]
  rfl

/-- The lines of canonical statements, joined to a source, are expanded to the statements:
splitting the source and putting in the number of datasets find the lines again. -/
theorem ofSource_intercalate
    {statements : List Statement}
    (hcanonical : ∀ statement ∈ statements, statement.directive.Canonical)
    (hcases : ∀ statement ∈ statements,
      ¬ SourceLine.casesVariable <:+: statement.directive.text)
    (hreturn : ∀ statement ∈ statements, statement.directive.text.getLast? ≠ some '\r')
    (options : Options) :
    ∃ file,
      (ofSource options (['\n'].intercalate (statements.map (·.directive.text)))).result =
          .ok file ∧
        file.statements = renumbered statements ∧
          file.derived = DefinitionTable.ofStatements (renumbered statements) := by
  have hcontent : SourceLine.ofContent
      (['\n'].intercalate (statements.map (·.directive.text))) =
        (renumbered statements).map Statement.sourceLine := by
    rw [map_sourceLine_renumbered]
    apply SourceLine.ofContent_intercalate
    · intro text htext
      obtain ⟨statement, hstatement, rfl⟩ := List.mem_map.1 htext
      exact (hcanonical statement hstatement).no_lineFeed
    · intro text htext number
      obtain ⟨statement, hstatement, rfl⟩ := List.mem_map.1 htext
      exact (hcanonical statement hstatement).ofPiece?_text (hreturn statement hstatement) number
  have hlines : ((renumbered statements).map Statement.sourceLine).map
      (SourceLine.withCases options.datasets) =
        (renumbered statements).map Statement.sourceLine := by
    rw [List.map_map]
    apply List.map_congr_left
    intro statement hstatement
    obtain ⟨original, horiginal, hdirective⟩ := mem_of_mem_renumbered hstatement
    apply SourceLine.withCases_eq_self
    unfold Statement.sourceLine
    rw [hdirective]
    exact hcases original horiginal
  have hrenumbered : ∀ statement ∈ renumbered statements, statement.directive.Canonical := by
    intro statement hstatement
    obtain ⟨original, horiginal, hdirective⟩ := mem_of_mem_renumbered hstatement
    rw [hdirective]
    exact hcanonical original horiginal
  have hexpansion := Expansion.ofSegments_sourceLines hrenumbered options .empty
  unfold ofSource ofLoaded LoadedFile.ofSource Expansion.ofLines
  simp only [hcontent, hlines, hexpansion]
  exact ⟨_, rfl, rfl, rfl⟩

/-- Expansion is idempotent: a file that is expanded without error or line that is passed
through is written out as a source that is expanded to the same lines, directives and table,
if no line names the number of datasets or ends in a carriage return, and if binding the
references of the definitions put no brace inside braces.  The first run gives canonical
statements, and the second one leaves these alone. -/
theorem ofSource_processedLines
    {datasets : Nat} {source : Text} {file : CommandFile}
    (hfile : (ofSource ⟨datasets, .abort⟩ source).result = .ok file)
    (hpass : ∀ statement ∈ file.statements, statement.directive.isPassthrough = false)
    (hcases : ∀ text ∈ file.processedLines, ¬ SourceLine.casesVariable <:+: text)
    (hreturn : ∀ text ∈ file.processedLines, text.getLast? ≠ some '\r')
    (hclosed : ∀ line ∈ Expansion.linesRead datasets file.lines,
      Keyword.ofLine line.text = .define → Definition.Enclosable line.text) :
    ∃ again,
      (ofSource ⟨datasets, .abort⟩ (['\n'].intercalate file.processedLines)).result =
          .ok again ∧
        again.processedLines = file.processedLines ∧
          again.statements.map (·.directive) = file.statements.map (·.directive) ∧
            again.derived = file.derived := by
  have hcanonical : ∀ statement ∈ file.statements, statement.directive.Canonical :=
    fun statement hstatement =>
      canonical_of_mem_statements hfile hclosed hstatement (hpass statement hstatement)
  obtain ⟨again, hagain, hstatements, hderived⟩ := ofSource_intercalate hcanonical
    (fun statement hstatement => hcases _ (List.mem_map_of_mem hstatement))
    (fun statement hstatement => hreturn _ (List.mem_map_of_mem hstatement))
    ⟨datasets, .abort⟩
  have hdirectives : again.statements.map Statement.directive =
      file.statements.map Statement.directive := by
    rw [hstatements, map_directive_renumbered]
  refine ⟨again, hagain, ?_, hdirectives, ?_⟩
  · have htexts := congrArg (List.map Directive.text) hdirectives
    rw [List.map_map, List.map_map] at htexts
    exact htexts
  · obtain ⟨_, _, htable⟩ := of_ofSource_abort hfile
    rw [hderived, htable, DefinitionTable.ofStatements_eq_foldl,
      DefinitionTable.ofStatements_eq_foldl, map_directive_renumbered]

/-- A source with a marker and a reference to bind. -/
def markedSource : Text :=
  ['\n'].intercalate
    [Text.joinTokens [Directive.addWord, Directive.seriesWord, ['*'], ['p']],
      Text.joinTokens [Definition.keyword, ['q'], ['='], ['$', 'p']]]

theorem enclosable_markedSource :
    Definition.Enclosable ['D', 'E', 'F', 'I', 'N', 'E', ' ', 'q', ' ', '=', ' ', '$', 'p'] := by
  have hsplit : Definition.split
      ['D', 'E', 'F', 'I', 'N', 'E', ' ', 'q', ' ', '=', ' ', '$', 'p'] =
        .ok (⟨0, ['q']⟩, Definition.noUnit, ['$', 'p']) := by
    decide +kernel
  have hparse : Expression.parse (Text.trimEnd ['$', 'p']) =
      .ok ⟨[([], ⟨['p'], false⟩)], []⟩ := by
    decide +kernel
  refine Definition.enclosable_of_split hsplit hparse ?_
  unfold Expression.Enclosable
  decide

theorem ofSource_processedLines_markedSource :
    ∃ file again,
      (ofSource ⟨2, .abort⟩ markedSource).result = .ok file ∧
      (ofSource ⟨2, .abort⟩ (['\n'].intercalate file.processedLines)).result = .ok again ∧
        again.processedLines = file.processedLines ∧
          again.statements.map (·.directive) = file.statements.map (·.directive) ∧
            again.derived = file.derived := by
  have hrun : (ofSource ⟨2, .abort⟩ markedSource).result.map
        (fun file => (file.statements, Expansion.linesRead 2 file.lines)) =
      .ok
        ([⟨1, .addSeries 1 ['p'] none⟩, ⟨1, .addSeries 2 ['p'] none⟩,
            ⟨2, .define ⟨⟨0, ['q']⟩, ['$', '{', '0', ':', 'p', '}'], Definition.noUnit⟩⟩],
          [⟨1, ['A', 'D', 'D', ' ', 'S', 'E', 'R', 'I', 'E', 'S', ' ', '1', ' ', 'p']⟩,
            ⟨1, ['A', 'D', 'D', ' ', 'S', 'E', 'R', 'I', 'E', 'S', ' ', '2', ' ', 'p']⟩,
            ⟨2, ['D', 'E', 'F', 'I', 'N', 'E', ' ', 'q', ' ', '=', ' ', '$', 'p']⟩]) := by
    decide +kernel
  obtain ⟨file, hfile, hfound⟩ := map_eq_ok_iff.1 hrun
  obtain ⟨hstatements, hread⟩ := Prod.mk.inj hfound
  have hpass : ∀ statement ∈ file.statements,
      statement.directive.isPassthrough = false := by
    rw [hstatements]
    decide
  have hcases : ∀ text ∈ file.processedLines, ¬ SourceLine.casesVariable <:+: text := by
    unfold processedLines
    rw [hstatements]
    decide
  have hreturn : ∀ text ∈ file.processedLines, text.getLast? ≠ some '\r' := by
    unfold processedLines
    rw [hstatements]
    decide
  have hclosed : ∀ line ∈ Expansion.linesRead 2 file.lines,
      Keyword.ofLine line.text = .define → Definition.Enclosable line.text := by
    rw [hread]
    intro line hline hkeyword
    simp only [List.mem_cons, List.not_mem_nil, or_false] at hline
    rcases hline with rfl | rfl | rfl
    · cases hkeyword
    · cases hkeyword
    · exact enclosable_markedSource
  obtain ⟨again, hagain⟩ := ofSource_processedLines hfile hpass hcases hreturn hclosed
  exact ⟨file, again, hfile, hagain⟩

end CommandFile

end ChartScript
