import ChartScript.Expansion
import ChartScript.Proofs.SegmentPartition

/-!
# Expansion step by step

Expansion reaches the segments of a file one after the other, each with the lists that the
segments before it have left behind.  A step that fails leaves the lists as they were, so
that the steps are the same under both error policies up to the first failure.  Both runs
are described by the steps alone, and a file without its failing segments has the steps that
succeed in the file with them.
-/

namespace ChartScript

namespace Registry

theorem apply_eq_ok_iff {registry lists : Registry} {statement : ListStatement} :
    registry.apply statement = .ok lists ↔
      (statement.operation = .new ∧
        lists = registry.set statement.name statement.tokens) ∨
      (statement.operation = .add ∧ ∃ found, registry.get? statement.name = some found ∧
        lists = registry.set statement.name (found ++ statement.tokens)) := by
  unfold Registry.apply
  cases statement.operation with
  | new => simp [eq_comm]
  | add => cases registry.get? statement.name <;> simp [eq_comm]

/-- Only appending to a list that does not exist fails. -/
theorem apply_eq_error_iff
    {registry : Registry} {statement : ListStatement} {error : ExpandError} :
    registry.apply statement = .error error ↔
      statement.operation = .add ∧ registry.get? statement.name = none ∧
        error = .unknownList statement.line statement.name := by
  unfold Registry.apply
  cases statement.operation with
  | new => simp
  | add => cases registry.get? statement.name <;> simp [eq_comm]

end Registry

/-- A result that stands only if there is no error; else the first error stands. -/
def unlessError {ε α : Type} (errors : List ε) (value : α) : Except ε α :=
  match errors with
  | [] => .ok value
  | error :: _ => .error error

theorem unlessError_eq_ok_iff {ε α : Type} {errors : List ε} {value found : α} :
    unlessError errors value = .ok found ↔ errors = [] ∧ value = found := by
  cases errors <;> simp [unlessError]

theorem unlessError_eq_error_iff {ε α : Type} {errors : List ε} {value : α} {error : ε} :
    unlessError errors value = .error error ↔ errors.head? = some error := by
  cases errors <;> simp [unlessError]

namespace Segment

/-- The lists after a segment; one that fails does not touch them. -/
def listsAfter (datasets : Nat) (registry : Registry) (segment : Segment) : Registry :=
  match (segment.run datasets registry).result with
  | .ok (lists, _) => lists
  | .error _ => registry

end Segment

namespace Expansion

/-- A segment and the lists that are defined when it is reached. -/
structure Step where
  segment : Segment
  lists : Registry

namespace Step

def result (datasets : Nat) (step : Step) : Except ExpandError (Registry × List Statement) :=
  (step.segment.run datasets step.lists).result

def statements (datasets : Nat) (step : Step) : List Statement :=
  match step.result datasets with
  | .ok (_, statements) => statements
  | .error _ => []

def error? (datasets : Nat) (step : Step) : Option ExpandError :=
  match step.result datasets with
  | .ok _ => none
  | .error error => some error

def succeeds (datasets : Nat) (step : Step) : Bool := (step.error? datasets).isNone

theorem exists_result_of_succeeds
    {datasets : Nat} {step : Step} (hstep : step.succeeds datasets = true) :
    ∃ outcome, step.result datasets = .ok outcome := by
  unfold succeeds error? at hstep
  cases hresult : step.result datasets with
  | ok outcome => exact ⟨outcome, rfl⟩
  | error error => simp [hresult] at hstep

theorem exists_block_of_succeeds
    {datasets : Nat} {step : Step} (hstep : step.succeeds datasets = true) :
    ∃ block, step.segment.block = .ok block := by
  obtain ⟨outcome, hresult⟩ := exists_result_of_succeeds hstep
  unfold result Segment.run at hresult
  cases hblock : step.segment.block with
  | ok block => exact ⟨block, rfl⟩
  | error error => simp [hblock] at hresult

end Step

def steps (datasets : Nat) (registry : Registry) : List Segment → List Step
  | [] => []
  | segment :: rest =>
      ⟨segment, registry⟩ :: steps datasets (segment.listsAfter datasets registry) rest

def listsAfter (datasets : Nat) (registry : Registry) (list : List Segment) : Registry :=
  list.foldl (fun registry segment => segment.listsAfter datasets registry) registry

def statementsOf (datasets : Nat) (steps : List Step) : List Statement :=
  steps.flatMap (Step.statements datasets)

def errorsOf (datasets : Nat) (steps : List Step) : List ExpandError :=
  steps.filterMap (Step.error? datasets)

theorem map_segment_steps
    (datasets : Nat) (registry : Registry) (list : List Segment) :
    (steps datasets registry list).map Step.segment = list := by
  induction list generalizing registry with
  | nil => rfl
  | cons segment rest ih =>
      simp only [steps, List.map_cons]
      rw [ih]

/-- Only a list statement that can be carried out changes the lists. -/
theorem listsAfter_segment
    (datasets : Nat) (registry : Registry) (segment : Segment) :
    segment.listsAfter datasets registry = registry ∨
      ∃ statement, segment.block = .ok (.list statement) ∧
        registry.apply statement = .ok (segment.listsAfter datasets registry) := by
  unfold Segment.listsAfter Segment.run
  cases hblock : segment.block with
  | error error => exact .inl rfl
  | ok block =>
      simp only [Block.run]
      cases hlists : block.updateLists registry with
      | error error => exact .inl rfl
      | ok lists =>
          simp only
          cases hread : (block.read datasets registry).result with
          | error error => exact .inl rfl
          | ok statements =>
              simp only [Except.map]
              cases block with
              | list statement => exact .inr ⟨statement, rfl, hlists⟩
              | loop loop =>
                  obtain rfl := Except.ok.inj hlists
                  exact .inl rfl
              | plain line =>
                  obtain rfl := Except.ok.inj hlists
                  exact .inl rfl

/-- What the lists have at the start and every list statement keeps, they have at every
step. -/
theorem lists_of_mem_steps
    {datasets : Nat} {P : Registry → Prop} {list : List Segment} {registry : Registry}
    (hstart : P registry)
    (hkeep : ∀ segment ∈ list, ∀ statement, segment.block = .ok (.list statement) →
      ∀ before after, P before → before.apply statement = .ok after → P after) :
    ∀ step ∈ steps datasets registry list, P step.lists := by
  induction list generalizing registry with
  | nil => simp [steps]
  | cons segment rest ih =>
      intro step hstep
      rcases List.mem_cons.1 hstep with rfl | hstep
      · exact hstart
      · have hkeepRest := fun other hother => hkeep other (List.mem_cons_of_mem segment hother)
        refine ih ?_ hkeepRest step hstep
        rcases listsAfter_segment datasets registry segment with hsame | ⟨statement, hblock, happly⟩
        · rw [hsame]
          exact hstart
        · exact hkeep segment List.mem_cons_self statement hblock registry _ hstart happly

/-- Under `skip` every step contributes its statements or its error. -/
theorem ofSegments_skip
    (datasets : Nat) (registry : Registry) (list : List Segment) :
    (ofSegments ⟨datasets, .skip⟩ registry list).result =
      .ok
        { statements := statementsOf datasets (steps datasets registry list)
          skipped := errorsOf datasets (steps datasets registry list)
          lists := listsAfter datasets registry list } := by
  induction list generalizing registry with
  | nil => rfl
  | cons segment rest ih =>
      have hrest := ih (segment.listsAfter datasets registry)
      unfold ofSegments
      simp only [steps, statementsOf, errorsOf, listsAfter, List.flatMap_cons,
        List.filterMap_cons, List.foldl_cons, Step.statements, Step.error?, Step.result]
      cases hrun : (segment.run datasets registry).result with
      | ok outcome =>
          obtain ⟨lists, statements⟩ := outcome
          rw [Segment.listsAfter, hrun] at hrest ⊢
          simp only at hrest ⊢
          rw [hrest]
          rfl
      | error error =>
          rw [Segment.listsAfter, hrun] at hrest ⊢
          simp only at hrest ⊢
          rw [hrest]
          rfl

/-- Under `abort` the first error among the steps is the result, and without one the result
is that of `skip`. -/
theorem ofSegments_abort
    (datasets : Nat) (registry : Registry) (list : List Segment) :
    (ofSegments ⟨datasets, .abort⟩ registry list).result =
      unlessError (errorsOf datasets (steps datasets registry list))
        { statements := statementsOf datasets (steps datasets registry list)
          skipped := []
          lists := listsAfter datasets registry list } := by
  induction list generalizing registry with
  | nil => rfl
  | cons segment rest ih =>
      have hrest := ih (segment.listsAfter datasets registry)
      unfold ofSegments
      simp only [steps, statementsOf, errorsOf, listsAfter, List.flatMap_cons,
        List.filterMap_cons, List.foldl_cons, Step.statements, Step.error?, Step.result]
      cases hrun : (segment.run datasets registry).result with
      | ok outcome =>
          obtain ⟨lists, statements⟩ := outcome
          rw [Segment.listsAfter, hrun] at hrest ⊢
          simp only at hrest ⊢
          rw [hrest]
          unfold errorsOf
          cases List.filterMap (Step.error? datasets) (steps datasets lists rest) with
          | nil => rfl
          | cons error errors => rfl
      | error error => rfl

/-- A run that comes to a result has the statements of its steps and the lists that they leave
behind, whatever is done with errors. -/
theorem eq_of_ofSegments_eq_ok
    {options : Options} {registry : Registry} {list : List Segment} {expansion : Expansion}
    (hrun : (ofSegments options registry list).result = .ok expansion) :
    expansion.statements =
        statementsOf options.datasets (steps options.datasets registry list) ∧
      expansion.lists = listsAfter options.datasets registry list := by
  obtain ⟨datasets, policy⟩ := options
  cases policy with
  | abort =>
      rw [ofSegments_abort, unlessError_eq_ok_iff] at hrun
      obtain ⟨_, rfl⟩ := hrun
      exact ⟨rfl, rfl⟩
  | skip =>
      rw [ofSegments_skip] at hrun
      obtain rfl := Except.ok.inj hrun
      exact ⟨rfl, rfl⟩

/-- Leaving out the steps that fail changes none of the others: a failing step hands on the
lists that it found. -/
theorem steps_map_segment_filter
    (datasets : Nat) (registry : Registry) (list : List Segment) :
    let kept := (steps datasets registry list).filter (Step.succeeds datasets)
    steps datasets registry (kept.map Step.segment) = kept ∧
      listsAfter datasets registry (kept.map Step.segment) =
        listsAfter datasets registry list := by
  induction list generalizing registry with
  | nil => exact ⟨rfl, rfl⟩
  | cons segment rest ih =>
      obtain ⟨hsteps, hlists⟩ := ih (segment.listsAfter datasets registry)
      simp only [steps, List.filter_cons]
      by_cases hstep : Step.succeeds datasets ⟨segment, registry⟩ = true
      · rw [if_pos hstep]
        simp only [List.map_cons, steps, listsAfter, List.foldl_cons]
        rw [hsteps]
        exact ⟨rfl, hlists⟩
      · rw [if_neg hstep]
        have hsame : segment.listsAfter datasets registry = registry := by
          unfold Segment.listsAfter
          cases hrun : (segment.run datasets registry).result with
          | ok outcome => simp [Step.succeeds, Step.error?, Step.result, hrun] at hstep
          | error error => rfl
        rw [hsame] at hsteps hlists ⊢
        simp only [listsAfter, List.foldl_cons] at hlists ⊢
        rw [hsame]
        exact ⟨hsteps, hlists⟩

theorem errorsOf_filter_succeeds (datasets : Nat) (list : List Step) :
    errorsOf datasets (list.filter (Step.succeeds datasets)) = [] := by
  unfold errorsOf
  rw [List.filterMap_eq_nil_iff]
  intro step hmem
  have hstep := (List.mem_filter.1 hmem).2
  simpa [Step.succeeds] using hstep

theorem statementsOf_filter_succeeds (datasets : Nat) (list : List Step) :
    statementsOf datasets (list.filter (Step.succeeds datasets)) =
      statementsOf datasets list := by
  unfold statementsOf
  induction list with
  | nil => rfl
  | cons step rest ih =>
      by_cases hstep : step.succeeds datasets = true
      · rw [List.filter_cons_of_pos hstep, List.flatMap_cons, List.flatMap_cons, ih]
      · rw [List.filter_cons_of_neg hstep, List.flatMap_cons, ih]
        have hnone : step.statements datasets = [] := by
          unfold Step.statements
          cases hresult : step.result datasets with
          | ok outcome => simp [Step.succeeds, Step.error?, hresult] at hstep
          | error error => rfl
        rw [hnone, List.nil_append]

end Expansion

/-! ## Files without some of their segments -/

/-- A segment that could be read ends where it ends, whatever follows it. -/
theorem segments_lines_append
    {lines : List SourceLine} {segment : Segment} {block : Block}
    (hmem : segment ∈ segments lines) (hblock : segment.block = .ok block)
    (rest : List SourceLine) :
    segments (segment.lines ++ rest) = segment :: segments rest := by
  obtain ⟨file, later, hleads⟩ := exists_leads_of_mem hmem
  cases hleads with
  | single _ hline => exact segments_cons_single rest hline
  | closed _ hheader hfirst =>
      simpa using segments_cons_closed rest hheader hfirst
  | unclosed hheader hopen => cases hblock

theorem segments_flatMap_lines
    {lines : List SourceLine} {kept : List Segment}
    (hkept : ∀ segment ∈ kept, segment ∈ segments lines ∧ ∃ block, segment.block = .ok block) :
    segments (kept.flatMap Segment.lines) = kept := by
  induction kept with
  | nil => exact segments_nil
  | cons segment kept ih =>
      obtain ⟨hmem, block, hblock⟩ := hkept segment (by simp)
      rw [List.flatMap_cons, segments_lines_append hmem hblock]
      rw [ih fun other hother => hkept other (by simp [hother])]

namespace Expansion

/-- The lines of the segments that do not fail when the others are skipped. -/
def survivingLines (datasets : Nat) (lines : List SourceLine) : List SourceLine :=
  ((steps datasets .empty (segments lines)).filter (Step.succeeds datasets)).flatMap
    fun step => step.segment.lines

theorem segments_survivingLines (datasets : Nat) (lines : List SourceLine) :
    segments (survivingLines datasets lines) =
      ((steps datasets .empty (segments lines)).filter (Step.succeeds datasets)).map
        Step.segment := by
  have hkept : ∀ segment ∈
      ((steps datasets .empty (segments lines)).filter (Step.succeeds datasets)).map
        Step.segment,
      segment ∈ segments lines ∧ ∃ block, segment.block = .ok block := by
    intro segment hmem
    obtain ⟨step, hstep, rfl⟩ := List.mem_map.1 hmem
    obtain ⟨hfound, hsucceeds⟩ := List.mem_filter.1 hstep
    refine ⟨?_, Step.exists_block_of_succeeds hsucceeds⟩
    rw [← map_segment_steps datasets .empty (segments lines)]
    exact List.mem_map_of_mem hfound
  unfold survivingLines
  rw [← List.flatMap_map, segments_flatMap_lines hkept]

/-- A failing segment leaves no trace: the file without the failing segments is expanded
under `abort`, to the statements and lists of the whole file under `skip`. -/
theorem abort_survivingLines_eq_skip (datasets : Nat) (lines : List SourceLine) :
    ∃ skipping,
      (ofLines ⟨datasets, .skip⟩ lines).result = .ok skipping ∧
        skipping.skipped = errorsOf datasets (steps datasets .empty (segments lines)) ∧
        (ofLines ⟨datasets, .abort⟩ (survivingLines datasets lines)).result =
          .ok
            { statements := skipping.statements, skipped := [], lists := skipping.lists } := by
  refine ⟨_, ofSegments_skip datasets .empty (segments lines), rfl, ?_⟩
  obtain ⟨hsteps, hlists⟩ := steps_map_segment_filter datasets .empty (segments lines)
  unfold ofLines
  rw [segments_survivingLines, ofSegments_abort, hsteps, hlists]
  rw [errorsOf_filter_succeeds, statementsOf_filter_succeeds]
  rfl

end Expansion

end ChartScript
