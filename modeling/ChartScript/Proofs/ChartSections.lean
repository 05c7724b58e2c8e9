import ChartScript.Chart
import ChartScript.Proofs.LastDefinitions

/-!
# Charts and the statements that they come from

Every `ADD CHART` opens a section of the statements, which ends before the next one.  Under
`skip` the charts are the sections, each with the series that its statements ask for, and the
errors are those of all other series: in front of the first section there is no chart to take
them, whatever their dataset, and inside a section their dataset is not loaded.

The builder reads one statement after the other and holds the chart that is open.  The sections
are defined without it, and the two are compared for a builder in any state.
-/

namespace ChartScript

namespace Statement

def opensChart (statement : Statement) : Bool := statement.directive = .addChart

def addsSeries (statement : Statement) : Bool :=
  match statement.directive with
  | .addSeries _ _ _ => true
  | _ => false

/-- The series that a statement adds to an open chart. -/
def series? (datasets : Nat) (table : DefinitionTable) (statement : Statement) : Option Series :=
  match statement.directive with
  | .addSeries dataset quantity axis =>
    if 1 ≤ dataset ∧ dataset ≤ datasets then
      some
        { dataset := dataset - 1, quantity, axis
          isDerived := decide (⟨dataset, quantity⟩ ∈ table.entries.map Definition.name) }
    else none
  | _ => none

/-- What is wrong with a series inside a section. -/
def noDataset? (datasets : Nat) (statement : Statement) : Option ChartError :=
  match statement.directive with
  | .addSeries dataset _ _ =>
    if 1 ≤ dataset ∧ dataset ≤ datasets then none
    else some (.noDataset statement.line dataset datasets)
  | _ => none

/-- What is wrong with a series in front of the first section. -/
def noChart? (statement : Statement) : Option ChartError :=
  if statement.addsSeries then some (.noChart statement.line) else none

end Statement

def beforeCharts (statements : List Statement) : List Statement :=
  statements.takeWhile fun statement => !statement.opensChart

def fromCharts (statements : List Statement) : List Statement :=
  statements.dropWhile fun statement => !statement.opensChart

/-- For every `ADD CHART` the statements between it and the next one. -/
def chartSections : List Statement → List (List Statement)
  | [] => []
  | statement :: rest =>
    if statement.opensChart then beforeCharts rest :: chartSections rest else chartSections rest

@[simp] theorem beforeCharts_nil : beforeCharts [] = [] := rfl

@[simp] theorem chartSections_nil : chartSections [] = [] := rfl

@[simp] theorem beforeCharts_cons (statement : Statement) (rest : List Statement) :
    beforeCharts (statement :: rest) =
      if statement.opensChart then [] else statement :: beforeCharts rest := by
  unfold beforeCharts
  rw [List.takeWhile_cons]
  cases statement.opensChart <;> rfl

@[simp] theorem fromCharts_cons (statement : Statement) (rest : List Statement) :
    fromCharts (statement :: rest) =
      if statement.opensChart then statement :: rest else fromCharts rest := by
  unfold fromCharts
  rw [List.dropWhile_cons]
  cases statement.opensChart <;> rfl

@[simp] theorem chartSections_cons (statement : Statement) (rest : List Statement) :
    chartSections (statement :: rest) =
      if statement.opensChart then beforeCharts rest :: chartSections rest
      else chartSections rest := by
  rw [chartSections]

namespace Statement

variable {datasets : Nat} {table : DefinitionTable} {statement : Statement}

theorem addsSeries_of_opensChart (hopens : statement.opensChart = true) :
    statement.addsSeries = false := by
  unfold opensChart at hopens
  unfold addsSeries
  rw [of_decide_eq_true hopens]

theorem series?_of_not_addsSeries (hadds : statement.addsSeries = false) :
    statement.series? datasets table = none := by
  unfold addsSeries at hadds
  unfold series?
  split <;> simp_all

theorem noDataset?_of_not_addsSeries (hadds : statement.addsSeries = false) :
    statement.noDataset? datasets = none := by
  unfold addsSeries at hadds
  unfold noDataset?
  split <;> simp_all

theorem noChart?_of_not_addsSeries (hadds : statement.addsSeries = false) :
    statement.noChart? = none := by
  unfold noChart?
  rw [hadds]
  rfl

theorem series?_or_noDataset?
    (datasets : Nat) (table : DefinitionTable) (hadds : statement.addsSeries = true) :
    (∃ series, statement.series? datasets table = some series ∧
      statement.noDataset? datasets = none) ∨
    ∃ error, statement.series? datasets table = none ∧
      statement.noDataset? datasets = some error := by
  obtain ⟨line, directive⟩ := statement
  cases directive with
  | addSeries dataset quantity axis =>
      by_cases hdataset : 1 ≤ dataset ∧ dataset ≤ datasets
      · exact .inl ⟨_, if_pos hdataset, if_pos hdataset⟩
      · exact .inr ⟨_, if_neg hdataset, if_neg hdataset⟩
  | define definition => cases hadds
  | addChart => cases hadds
  | passthrough text => cases hadds

theorem dataset_lt_of_series? {series : Series}
    (hseries : statement.series? datasets table = some series) :
    series.dataset < datasets := by
  unfold series? at hseries
  split at hseries
  · split at hseries
    · next hdataset =>
        obtain rfl := Option.some.inj hseries
        exact Nat.sub_one_lt_of_le hdataset.1 hdataset.2
    · cases hseries
  · cases hseries

end Statement

def seriesShown (datasets : Nat) (table : DefinitionTable) (statements : List Statement) :
    List Series :=
  statements.filterMap (Statement.series? datasets table)

@[simp] theorem seriesShown_nil (datasets : Nat) (table : DefinitionTable) :
    seriesShown datasets table [] = [] := rfl

@[simp] theorem seriesShown_cons
    (datasets : Nat) (table : DefinitionTable) (statement : Statement) (rest : List Statement) :
    seriesShown datasets table (statement :: rest) =
      (statement.series? datasets table).toList ++ seriesShown datasets table rest := by
  unfold seriesShown
  rw [List.filterMap_cons]
  cases statement.series? datasets table <;> rfl

/-! ## One statement -/

namespace ChartDraft

variable (datasets : Nat) (table : DefinitionTable)

/-- The series of the charts that a draft and the statements behind it come to. -/
def shownAfter (draft : ChartDraft) (statements : List Statement) : List (List Series) :=
  let sections := (chartSections statements).map (seriesShown datasets table)
  (draft.finished.map List.reverse).reverse ++
    match draft.current? with
    | none => sections
    | some current =>
      (current.reverse ++ seriesShown datasets table (beforeCharts statements)) :: sections

def refusedAfter (draft : ChartDraft) (statements : List Statement) : List ChartError :=
  match draft.current? with
  | none =>
    (beforeCharts statements).filterMap Statement.noChart? ++
      (fromCharts statements).filterMap (Statement.noDataset? datasets)
  | some _ => statements.filterMap (Statement.noDataset? datasets)

theorem add_of_opens
    {statement : Statement} (hopens : statement.opensChart = true) (draft : ChartDraft) :
    draft.add datasets table statement =
      .ok ⟨draft.current?.toList ++ draft.finished, some []⟩ := by
  unfold add
  rw [of_decide_eq_true hopens]

theorem add_of_ignored
    {statement : Statement} (hopens : statement.opensChart = false)
    (hadds : statement.addsSeries = false) (draft : ChartDraft) :
    draft.add datasets table statement = .ok draft := by
  unfold Statement.opensChart at hopens
  unfold Statement.addsSeries at hadds
  unfold add
  split <;> simp_all

theorem add_of_addsSeries_none
    {statement : Statement} (hadds : statement.addsSeries = true) (finished : List (List Series)) :
    add datasets table statement ⟨finished, none⟩ = .error (.noChart statement.line) := by
  unfold Statement.addsSeries at hadds
  unfold add
  split <;> simp_all

theorem add_of_series?
    {statement : Statement} {series : Series}
    (hseries : statement.series? datasets table = some series) (finished : List (List Series))
    (current : List Series) :
    add datasets table statement ⟨finished, some current⟩ =
      .ok ⟨finished, some (series :: current)⟩ := by
  unfold Statement.series? at hseries
  split at hseries
  · next dataset quantity axis hdirective =>
      split at hseries
      · next hdataset =>
          obtain rfl := Option.some.inj hseries
          have hderived : table.contains ⟨dataset, quantity⟩ =
              decide (⟨dataset, quantity⟩ ∈ table.entries.map Definition.name) := by
            rw [Bool.eq_iff_iff, DefinitionTable.contains_iff_mem_map, decide_eq_true_iff]
          unfold add
          simp only [hdirective, if_pos hdataset, hderived]
      · cases hseries
  · cases hseries

theorem add_of_noDataset?
    {statement : Statement} {error : ChartError}
    (herror : statement.noDataset? datasets = some error) (finished : List (List Series))
    (current : List Series) :
    add datasets table statement ⟨finished, some current⟩ = .error error := by
  unfold Statement.noDataset? at herror
  split at herror
  · next dataset quantity axis hdirective =>
      split at herror
      · cases herror
      · next hdataset =>
          obtain rfl := Option.some.inj herror
          unfold add
          simp only [hdirective, if_neg hdataset]
  · cases herror

/-- A statement is carried out or refused, and the charts and errors to come are those that
the other statements come to. -/
theorem add_cases (draft : ChartDraft) (statement : Statement) (rest : List Statement) :
    (∃ next, draft.add datasets table statement = .ok next ∧
      draft.shownAfter datasets table (statement :: rest) = next.shownAfter datasets table rest ∧
      draft.refusedAfter datasets (statement :: rest) = next.refusedAfter datasets rest) ∨
    ∃ error, draft.add datasets table statement = .error error ∧
      draft.shownAfter datasets table (statement :: rest) = draft.shownAfter datasets table rest ∧
      draft.refusedAfter datasets (statement :: rest) =
        error :: draft.refusedAfter datasets rest := by
  obtain ⟨finished, current?⟩ := draft
  cases hopens : statement.opensChart with
  | true =>
      have hadds := Statement.addsSeries_of_opensChart hopens
      have herror : statement.noDataset? datasets = none :=
        Statement.noDataset?_of_not_addsSeries hadds
      refine .inl ⟨_, add_of_opens datasets table hopens _, ?_⟩
      cases current? with
      | none => simp [shownAfter, refusedAfter, hopens, herror]
      | some current => simp [shownAfter, refusedAfter, hopens, herror]
  | false =>
      cases hadds : statement.addsSeries with
      | false =>
          have hseries : statement.series? datasets table = none :=
            Statement.series?_of_not_addsSeries hadds
          have herror : statement.noDataset? datasets = none :=
            Statement.noDataset?_of_not_addsSeries hadds
          have hnoChart := Statement.noChart?_of_not_addsSeries hadds
          refine .inl ⟨_, add_of_ignored datasets table hopens hadds _, ?_⟩
          cases current? with
          | none => simp [shownAfter, refusedAfter, hopens, hnoChart]
          | some current => simp [shownAfter, refusedAfter, hopens, hseries, herror]
      | true =>
          cases current? with
          | none =>
              have hnoChart : statement.noChart? = some (.noChart statement.line) := if_pos hadds
              refine .inr ⟨_, add_of_addsSeries_none datasets table hadds finished, ?_⟩
              simp [shownAfter, refusedAfter, hopens, hnoChart]
          | some current =>
              rcases Statement.series?_or_noDataset? datasets table hadds with
                ⟨series, hseries, herror⟩ | ⟨error, hseries, herror⟩
              · refine .inl ⟨_, add_of_series? datasets table hseries finished current, ?_⟩
                simp [shownAfter, refusedAfter, hopens, hseries, herror]
              · refine .inr ⟨_, add_of_noDataset? datasets table herror finished current, ?_⟩
                simp [shownAfter, refusedAfter, hopens, hseries, herror]

end ChartDraft

/-! ## The run -/

namespace ChartSet

theorem exists_ofDraft_skip_sections
    (datasets : Nat) (table : DefinitionTable) (xRange : Text) (draft : ChartDraft)
    (statements : List Statement) :
    ∃ set, (ofDraft ⟨datasets, .skip⟩ table xRange draft statements).result = .ok set ∧
      set.charts = (draft.shownAfter datasets table statements).map
        (fun series => { series, xRange }) ∧
      set.skipped = draft.refusedAfter datasets statements := by
  induction statements generalizing draft with
  | nil =>
      refine ⟨_, rfl, ?_, ?_⟩
      · unfold ChartDraft.charts ChartDraft.shownAfter
        cases draft.current? <;> simp [Function.comp_def]
      · unfold ChartDraft.refusedAfter
        cases draft.current? <;> rfl
  | cons statement rest ih =>
      unfold ofDraft
      rcases draft.add_cases datasets table statement rest with
        ⟨next, hadd, hshown, hrefused⟩ | ⟨error, hadd, hshown, hrefused⟩
      · rw [hadd, hshown, hrefused]
        exact ih next
      · obtain ⟨set, hset, hcharts, hskipped⟩ := ih draft
        rw [hadd, hshown, hrefused]
        refine ⟨set.prependSkipped error, ?_, hcharts, ?_⟩
        · simp only [hset]
          rfl
        · rw [← hskipped]
          rfl

/-- Behind some statements the run goes on with the draft that they lead to. -/
theorem exists_ofDraft_append
    (datasets : Nat) (table : DefinitionTable) (xRange : Text) (draft : ChartDraft)
    (statements : List Statement) :
    ∃ (last : ChartDraft) (errors : List ChartError), ∀ more set,
      (ofDraft ⟨datasets, .skip⟩ table xRange last more).result = .ok set →
        (ofDraft ⟨datasets, .skip⟩ table xRange draft (statements ++ more)).result =
          .ok { set with skipped := errors ++ set.skipped } := by
  induction statements generalizing draft with
  | nil => exact ⟨draft, [], fun more set hset => hset⟩
  | cons statement rest ih =>
      cases hadd : draft.add datasets table statement with
      | ok next =>
          obtain ⟨last, errors, hlast⟩ := ih next
          refine ⟨last, errors, fun more set hset => ?_⟩
          rw [List.cons_append, ofDraft, hadd]
          exact hlast more set hset
      | error error =>
          obtain ⟨last, errors, hlast⟩ := ih draft
          refine ⟨last, error :: errors, fun more set hset => ?_⟩
          rw [List.cons_append, ofDraft, hadd]
          simp only [hlast more set hset]
          rfl

/-- The charts after one more statement, which is either carried out or refused. -/
theorem charts_concat
    {datasets : Nat} {table : DefinitionTable} {xRange : Text} {statements : List Statement}
    {set : ChartSet}
    (hset : (ofStatements ⟨datasets, .skip⟩ table xRange statements).result = .ok set)
    (statement : Statement) :
    ∃ next,
      (ofStatements ⟨datasets, .skip⟩ table xRange (statements ++ [statement])).result =
          .ok next ∧
        (next.skipped = set.skipped ∨
          (∃ error, next.skipped = set.skipped ++ [error]) ∧ next.charts = set.charts) := by
  obtain ⟨last, errors, hlast⟩ := exists_ofDraft_append datasets table xRange .empty statements
  have hnone := hlast [] _ rfl
  unfold ofStatements at hset ⊢
  rw [List.append_nil, hset] at hnone
  obtain rfl := Except.ok.inj hnone
  cases hadd : last.add datasets table statement with
  | ok next =>
      refine ⟨_, hlast [statement] ⟨next.charts xRange, []⟩ ?_, .inl rfl⟩
      rw [ofDraft, hadd]
      rfl
  | error error =>
      refine ⟨_, hlast [statement] ⟨last.charts xRange, [error]⟩ ?_, .inr ⟨⟨error, ?_⟩, rfl⟩⟩
      · rw [ofDraft, hadd]
        rfl
      · simp

end ChartSet

/-! ## Counting -/

section

variable (datasets : Nat) (table : DefinitionTable)

theorem length_chartSections (statements : List Statement) :
    (chartSections statements).length = statements.countP Statement.opensChart := by
  induction statements with
  | nil => rfl
  | cons statement rest ih =>
      rw [chartSections_cons, List.countP_cons]
      cases statement.opensChart <;> simp [ih]

theorem length_seriesShown (statements : List Statement) :
    (seriesShown datasets table statements).length +
        (statements.filterMap (Statement.noDataset? datasets)).length =
      statements.countP Statement.addsSeries := by
  induction statements with
  | nil => rfl
  | cons statement rest ih =>
      rw [seriesShown_cons, List.countP_cons, ← ih, List.filterMap_cons]
      cases hadds : statement.addsSeries with
      | false =>
          rw [Statement.series?_of_not_addsSeries hadds,
            Statement.noDataset?_of_not_addsSeries hadds]
          simp
      | true =>
          rcases Statement.series?_or_noDataset? datasets table hadds with
            ⟨series, hseries, herror⟩ | ⟨error, hseries, herror⟩
          · simp [hseries, herror]
            omega
          · simp [hseries, herror]
            omega

theorem length_filterMap_noChart? (statements : List Statement) :
    (statements.filterMap Statement.noChart?).length =
      statements.countP Statement.addsSeries := by
  induction statements with
  | nil => rfl
  | cons statement rest ih =>
      rw [List.filterMap_cons, List.countP_cons, ← ih]
      unfold Statement.noChart?
      cases statement.addsSeries <;> simp

theorem seriesShown_eq_append (statements : List Statement) :
    seriesShown datasets table statements =
      seriesShown datasets table (beforeCharts statements) ++
        (chartSections statements).flatMap (seriesShown datasets table) := by
  induction statements with
  | nil => rfl
  | cons statement rest ih =>
      rw [seriesShown_cons, beforeCharts_cons, chartSections_cons, ih]
      cases hopens : statement.opensChart with
      | true =>
          rw [Statement.series?_of_not_addsSeries (Statement.addsSeries_of_opensChart hopens)]
          simp
      | false => simp

theorem flatMap_chartSections (statements : List Statement) :
    (chartSections statements).flatMap (seriesShown datasets table) =
      seriesShown datasets table (fromCharts statements) := by
  induction statements with
  | nil => rfl
  | cons statement rest ih =>
      rw [chartSections_cons, fromCharts_cons]
      cases hopens : statement.opensChart with
      | true =>
          have hseries : statement.series? datasets table = none :=
            Statement.series?_of_not_addsSeries (Statement.addsSeries_of_opensChart hopens)
          simp [hseries, ← seriesShown_eq_append]
      | false => simpa using ih

end

/-! ## The charts of some statements -/

namespace ChartSet

/-- The charts are the sections of the statements, and the errors are those of all series that
no section shows. -/
structure ShowsSections
    (datasets : Nat) (table : DefinitionTable) (xRange : Text) (statements : List Statement)
    (set : ChartSet) : Prop where
  charts_eq : set.charts = (chartSections statements).map fun statements =>
    { series := statements.filterMap (Statement.series? datasets table), xRange }
  skipped_eq : set.skipped =
    (beforeCharts statements).filterMap Statement.noChart? ++
      (fromCharts statements).filterMap (Statement.noDataset? datasets)
  length_charts : set.charts.length = statements.countP Statement.opensChart
  dataset_lt : ∀ chart ∈ set.charts, ∀ series ∈ chart.series, series.dataset < datasets
  count_eq : set.seriesCount + set.skipped.length = statements.countP Statement.addsSeries

/-- The series in front of the first section are refused, those from it on are shown or refused:
so the counts are those of the two parts. -/
theorem showsSections_of_ofStatements
    {datasets : Nat} {table : DefinitionTable} {xRange : Text} {statements : List Statement}
    {set : ChartSet}
    (hset : (ofStatements ⟨datasets, .skip⟩ table xRange statements).result = .ok set) :
    set.ShowsSections datasets table xRange statements := by
  obtain ⟨found, hfound, hcharts, hskipped⟩ :=
    exists_ofDraft_skip_sections datasets table xRange .empty statements
  unfold ofStatements at hset
  rw [hfound] at hset
  obtain rfl := Except.ok.inj hset
  have hsections : found.charts = (chartSections statements).map fun statements =>
      { series := seriesShown datasets table statements, xRange } := by
    rw [hcharts]
    simp [ChartDraft.shownAfter, ChartDraft.empty, Function.comp_def]
  refine ⟨hsections, hskipped, ?_, ?_, ?_⟩
  · rw [hsections, List.length_map, length_chartSections]
  · intro chart hchart series hseries
    rw [hsections] at hchart
    obtain ⟨part, _, rfl⟩ := List.mem_map.1 hchart
    obtain ⟨statement, _, hshown⟩ := List.mem_filterMap.1 hseries
    exact Statement.dataset_lt_of_series? hshown
  · have hsplit : beforeCharts statements ++ fromCharts statements = statements :=
      List.takeWhile_append_dropWhile
    have hshown : found.seriesCount =
        (seriesShown datasets table (fromCharts statements)).length := by
      unfold seriesCount
      rw [hsections, List.flatMap_map, flatMap_chartSections]
    have hrefused : found.skipped =
        (beforeCharts statements).filterMap Statement.noChart? ++
          (fromCharts statements).filterMap (Statement.noDataset? datasets) := hskipped
    have hsum := length_seriesShown datasets table (fromCharts statements)
    conv => rhs; rw [← hsplit, List.countP_append, ← hsum, ← length_filterMap_noChart?]
    rw [hshown, hrefused, List.length_append]
    omega

/-- Whatever the statements, the run under `skip` comes to the charts of their sections, and a
further statement that is refused leaves these charts as they are. -/
theorem ofStatements_skip_showsSections
    (datasets : Nat) (table : DefinitionTable) (xRange : Text) (statements : List Statement) :
    ∃ set, (ofStatements ⟨datasets, .skip⟩ table xRange statements).result = .ok set ∧
      set.ShowsSections datasets table xRange statements ∧
      ∀ statement, ∃ next,
        (ofStatements ⟨datasets, .skip⟩ table xRange (statements ++ [statement])).result =
            .ok next ∧
          (next.skipped = set.skipped ∨
            (∃ error, next.skipped = set.skipped ++ [error]) ∧ next.charts = set.charts) := by
  obtain ⟨set, hset, _⟩ := exists_ofDraft_skip_sections datasets table xRange .empty statements
  exact ⟨set, hset, showsSections_of_ofStatements hset, charts_concat hset⟩

end ChartSet

end ChartScript
