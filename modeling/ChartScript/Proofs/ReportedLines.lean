import ChartScript.Proofs.RunComposition

/-!
# The lines that statements and errors are reported at

Every reader reports an error at a line of the segment that it reads: the header of a loop,
the first inner header, a line of the body, or the only line there is.  A statement carries
the number of the plain line or of the line of the body that it stems from, in whatever order
a loop brings these up.  Segments are consecutive, so in a file with increasing line numbers
the errors that are skipped are in the order of the file, one for each segment that fails.
-/

namespace ChartScript

/-! ## Readers -/

theorem ListStatement.line_of_read
    {line : SourceLine} {statement : ListStatement} (hread : read line = .ok statement) :
    statement.line = line.number := by
  unfold read at hread
  split at hread
  · cases hread
  · split at hread
    · split at hread
      · obtain rfl := Except.ok.inj hread
        rfl
      · cases hread
    · cases hread

theorem ListStatement.line_of_read_eq_error
    {line : SourceLine} {error : ExpandError} (hread : read line = .error error) :
    error.line = line.number := by
  unfold read at hread
  split at hread
  · obtain rfl := Except.error.inj hread
    rfl
  · split at hread
    · split at hread
      · cases hread
      · obtain rfl := Except.error.inj hread
        rfl
    · obtain rfl := Except.error.inj hread
      rfl

theorem Definition.line_of_read_eq_error
    {line : SourceLine} {error : ExpandError} (hread : read line = .error error) :
    error.line = line.number := by
  unfold read at hread
  split at hread
  · obtain rfl := Except.error.inj hread
    rfl
  · split at hread
    · obtain rfl := Except.error.inj hread
      rfl
    · cases hread

theorem Directive.line_of_read_eq_error
    {line : SourceLine} {error : ExpandError} (hread : read line = .error error) :
    error.line = line.number := by
  unfold read at hread
  split at hread
  · exact Definition.line_of_read_eq_error (map_eq_error_iff.1 hread)
  · split at hread
    · obtain rfl := Except.error.inj hread
      rfl
    · cases hread
  · obtain rfl := Except.error.inj hread
    rfl
  · obtain rfl := Except.error.inj hread
    rfl
  · obtain rfl := Except.error.inj hread
    rfl
  · cases hread

namespace Statement

theorem line_of_read
    {line : SourceLine} {statement : Statement} (hread : read line = .ok statement) :
    statement.line = line.number := by
  unfold read at hread
  split at hread
  · cases hread
  · obtain rfl := Except.ok.inj hread
    rfl

theorem line_of_read_eq_error
    {line : SourceLine} {error : ExpandError} (hread : read line = .error error) :
    error.line = line.number := by
  unfold read at hread
  split at hread
  · next other hother =>
      obtain rfl := Except.error.inj hread
      exact Directive.line_of_read_eq_error hother
  · cases hread

end Statement

namespace SourceLine

theorem line_of_resolveMarker_eq_error
    {datasets : Nat} {line : SourceLine} {error : ExpandError}
    (hresolve : line.resolveMarker datasets = .error error) :
    error.line = line.number := by
  unfold resolveMarker at hresolve
  split at hresolve
  · obtain rfl := Except.error.inj hresolve
    rfl
  · cases hresolve
  · cases hresolve

theorem exists_line_of_resolveMarkers_eq_error
    {datasets : Nat} {lines : List SourceLine} {error : ExpandError}
    (hresolve : resolveMarkers datasets lines = .error error) :
    ∃ line ∈ lines, error.line = line.number := by
  obtain ⟨line, hline, hresolve⟩ := exists_of_mapM_eq_error (map_eq_error_iff.1 hresolve)
  exact ⟨line, hline, line_of_resolveMarker_eq_error hresolve⟩

end SourceLine

/-! ## Blocks -/

theorem Loop.line_of_values_eq_error
    {registry : Registry} {loop : Loop} {error : ExpandError}
    (hvalues : loop.values registry = .error error) :
    error.line = loop.line := by
  unfold values at hvalues
  split at hvalues
  · cases hvalues
  · split at hvalues
    · cases hvalues
    · obtain rfl := Except.error.inj hvalues
      rfl

namespace Block

/-- The numbers of the lines at which a block can be reported. -/
def numbers : Block → List Nat
  | .list statement => [statement.line]
  | .loop block => block.line :: block.body.map SourceLine.number
  | .plain line => [line.number]

theorem line_mem_numbers_of_run_eq_error
    {datasets : Nat} {registry : Registry} {block : Block} {error : ExpandError}
    (hrun : (block.run datasets registry).result = .error error) :
    error.line ∈ block.numbers := by
  cases block with
  | list statement =>
      unfold run at hrun
      split at hrun
      · next other hlists =>
          obtain rfl := Except.error.inj hrun
          obtain ⟨_, _, rfl⟩ := Registry.apply_eq_error_iff.1 hlists
          exact List.mem_singleton_self _
      · cases hrun
  | plain line =>
      rw [run_plain_result, bind_eq_error_iff] at hrun
      rcases hrun with hresolve | ⟨found, hfound, hread⟩
      · rw [SourceLine.line_of_resolveMarker_eq_error hresolve]
        exact List.mem_singleton_self _
      · obtain ⟨other, hother, hread⟩ := exists_of_mapM_eq_error (map_eq_error_iff.1 hread)
        have hstems := SourceLine.stemsFrom_of_resolveMarker hfound hother
        rw [Statement.line_of_read_eq_error hread, hstems.number_eq]
        exact List.mem_singleton_self _
  | loop loop =>
      rw [run_loop_result, bind_eq_error_iff] at hrun
      rcases hrun with hvalues | ⟨values, _, hrun⟩
      · rw [Loop.line_of_values_eq_error hvalues]
        exact List.mem_cons_self
      · apply List.mem_cons_of_mem
        rcases bind_eq_error_iff.1 hrun with hunroll | ⟨found, hfound, hread⟩
        · obtain ⟨line, hline, hnumber⟩ :=
            SourceLine.exists_line_of_resolveMarkers_eq_error (map_eq_error_iff.1 hunroll)
          rw [hnumber]
          exact List.mem_map_of_mem hline
        · obtain ⟨other, hother, hread⟩ := exists_of_mapM_eq_error (map_eq_error_iff.1 hread)
          obtain ⟨origin, horigin, hstems⟩ := Loop.exists_origin_of_unroll hfound hother
          rw [Statement.line_of_read_eq_error hread, hstems.number_eq]
          exact List.mem_map_of_mem horigin

/-- The block of a single line is reported at that line. -/
theorem numbers_of_ofLine
    {line : SourceLine} {block : Block} (hblock : Block.ofLine line = .ok block) :
    block.numbers = [line.number] := by
  unfold Block.ofLine at hblock
  split at hblock
  · obtain ⟨statement, hread, rfl⟩ := map_eq_ok_iff.1 hblock
    rw [numbers, ListStatement.line_of_read hread]
  · cases hblock
  · obtain rfl := Except.ok.inj hblock
    rfl

theorem line_of_ofLine_eq_error
    {line : SourceLine} {error : ExpandError} (hblock : Block.ofLine line = .error error) :
    error.line = line.number := by
  unfold Block.ofLine at hblock
  split at hblock
  · exact ListStatement.line_of_read_eq_error (map_eq_error_iff.1 hblock)
  · obtain rfl := Except.error.inj hblock
    rfl
  · cases hblock

theorem lines_of_ofLine
    {line : SourceLine} {block : Block} (hblock : Block.ofLine line = .ok block) :
    block.lines <:+: [line] := by
  unfold Block.ofLine at hblock
  split at hblock
  · obtain ⟨statement, _, rfl⟩ := map_eq_ok_iff.1 hblock
    exact List.nil_infix
  · cases hblock
  · obtain rfl := Except.ok.inj hblock
    exact List.infix_rfl

end Block

/-! ## Segments -/

/-- A loop is refused at its header or at its first inner header. -/
theorem Loop.exists_line_of_read_eq_error
    {header : SourceLine} {body : List SourceLine} {error : ExpandError}
    (hread : Loop.read header body = .error error) :
    ∃ line ∈ header :: body, error.line = line.number := by
  unfold Loop.read at hread
  split at hread
  · next inner hinner =>
      obtain rfl := Except.error.inj hread
      exact ⟨inner, List.mem_cons_of_mem header (List.mem_of_find?_eq_some hinner), rfl⟩
  · split at hread
    · obtain rfl := Except.error.inj hread
      exact ⟨header, List.mem_cons_self, rfl⟩
    · cases hread

namespace Segment

variable {file : List SourceLine} {segment : Segment} (hsegment : segment ∈ segments file)

include hsegment

theorem exists_line_of_block_eq_error
    {error : ExpandError} (hblock : segment.block = .error error) :
    ∃ line ∈ segment.lines, error.line = line.number := by
  obtain ⟨lines, after, hleads⟩ := exists_leads_of_mem hsegment
  cases hleads with
  | single _ hline => exact ⟨_, List.mem_cons_self, Block.line_of_ofLine_eq_error hblock⟩
  | closed _ hheader hfirst =>
      obtain ⟨line, hline, hnumber⟩ :=
        Loop.exists_line_of_read_eq_error (map_eq_error_iff.1 hblock)
      exact ⟨line, List.mem_append_left _ hline, hnumber⟩
  | unclosed hheader hopen =>
      obtain rfl := Except.error.inj hblock
      exact ⟨_, List.mem_cons_self, rfl⟩

theorem numbers_subset
    {block : Block} (hblock : segment.block = .ok block) :
    block.numbers ⊆ segment.lines.map SourceLine.number := by
  obtain ⟨lines, after, hleads⟩ := exists_leads_of_mem hsegment
  cases hleads with
  | single _ hline =>
      rw [Block.numbers_of_ofLine hblock]
      exact List.Subset.refl _
  | closed _ hheader hfirst =>
      obtain ⟨loop, hread, rfl⟩ := map_eq_ok_iff.1 hblock
      obtain ⟨_, _, hnumber, hbody⟩ := Loop.read_eq_ok_iff.1 hread
      rw [Block.numbers, hnumber, hbody, List.cons_append, List.map_cons, List.map_append]
      exact List.cons_subset_cons _ (List.subset_append_left _ _)
  | unclosed hheader hopen => cases hblock

/-- The lines of a block stand one after the other in its segment. -/
theorem lines_infix
    {block : Block} (hblock : segment.block = .ok block) :
    block.lines <:+: segment.lines := by
  obtain ⟨lines, after, hleads⟩ := exists_leads_of_mem hsegment
  cases hleads with
  | single _ hline => exact Block.lines_of_ofLine hblock
  | @closed header next body _ hheader hfirst =>
      obtain ⟨loop, hread, rfl⟩ := map_eq_ok_iff.1 hblock
      rw [Block.lines, (Loop.read_eq_ok hread).1]
      exact ⟨[header], [next], by simp⟩
  | unclosed hheader hopen => cases hblock

end Segment

/-- Where the lines of a file increase, those of a segment are below those of a later one. -/
theorem pairwise_segments
    {file : List SourceLine} (hfile : file.Pairwise fun line later => line.number < later.number) :
    (segments file).Pairwise fun segment later =>
      ∀ line ∈ segment.lines, ∀ other ∈ later.lines, line.number < other.number := by
  have hparts := flatMap_lines_segments file
  rw [← hparts] at hfile
  exact (List.pairwise_flatMap.1 hfile).2

/-! ## Steps -/

namespace Expansion

/-- An error is reported at a line of the segment and comes alone; a statement carries the
number of a line of the block, which for a loop is a line of its body. -/
structure Step.KeepsPlace (datasets : Nat) (step : Step) : Prop where
  error_line : ∀ error, step.error? datasets = some error →
    step.statements datasets = [] ∧ ∃ line ∈ step.segment.lines, error.line = line.number
  statement_line : ∀ statement ∈ step.statements datasets,
    ∃ block, step.segment.block = .ok block ∧ block.lines <:+: step.segment.lines ∧
      ∃ line ∈ block.lines, statement.line = line.number

theorem Step.error?_eq_some_iff {datasets : Nat} {step : Step} {error : ExpandError} :
    step.error? datasets = some error ↔ step.result datasets = .error error := by
  unfold error?
  cases step.result datasets <;> simp

theorem Step.exists_line_of_result_eq_error
    {file : List SourceLine} {step : Step} (hsegment : step.segment ∈ segments file)
    {datasets : Nat} {error : ExpandError} (hresult : step.result datasets = .error error) :
    ∃ line ∈ step.segment.lines, error.line = line.number := by
  unfold Step.result Segment.run at hresult
  split at hresult
  · next other hblock =>
      obtain rfl := Except.error.inj hresult
      exact Segment.exists_line_of_block_eq_error hsegment hblock
  · next block hblock =>
      have hmem := Segment.numbers_subset hsegment hblock
        (Block.line_mem_numbers_of_run_eq_error hresult)
      obtain ⟨line, hline, hnumber⟩ := List.mem_map.1 hmem
      exact ⟨line, hline, hnumber.symm⟩

theorem Step.exists_line_of_mem_statements
    {datasets : Nat} {step : Step} {statement : Statement}
    (hstatement : statement ∈ step.statements datasets) :
    ∃ block, step.segment.block = .ok block ∧
      ∃ line ∈ block.lines, statement.line = line.number := by
  unfold Step.statements at hstatement
  split at hstatement
  · next lists statements hresult =>
      obtain ⟨line, hline, hread⟩ :=
        exists_left_of_forall₂ (Step.forall₂_linesRead hresult) statement hstatement
      obtain ⟨block, found, hblock, hresolve, hline⟩ := Step.exists_block_of_mem_linesRead hline
      obtain ⟨origin, horigin, hstems⟩ := Block.exists_origin_of_resolve hresolve hline
      refine ⟨block, hblock, origin, horigin, ?_⟩
      rw [Statement.line_of_read hread, hstems.number_eq]
  · cases hstatement

theorem Step.keepsPlace_of_mem_segments
    {file : List SourceLine} {step : Step} (hsegment : step.segment ∈ segments file)
    (datasets : Nat) :
    step.KeepsPlace datasets := by
  constructor
  · intro error herror
    have hresult := Step.error?_eq_some_iff.1 herror
    refine ⟨?_, Step.exists_line_of_result_eq_error hsegment hresult⟩
    unfold Step.statements
    rw [hresult]
  · intro statement hstatement
    obtain ⟨block, hblock, hline⟩ := Step.exists_line_of_mem_statements hstatement
    exact ⟨block, hblock, Segment.lines_infix hsegment hblock, hline⟩

/-! ## Runs -/

/-- The run has one error for every segment that fails and the statements of the others, both
in the order of the file and each at its place. -/
structure KeepsPlaces (datasets : Nat) (file : List SourceLine) (expansion : Expansion) :
    Prop where
  skipped_eq : expansion.skipped =
    (steps datasets .empty (segments file)).filterMap (Step.error? datasets)
  statements_eq : expansion.statements =
    (steps datasets .empty (segments file)).flatMap (Step.statements datasets)
  keepsPlace : ∀ step ∈ steps datasets .empty (segments file), step.KeepsPlace datasets
  skipped_increasing : (expansion.skipped.map ExpandError.line).Pairwise (· < ·)
  statements_increasing : (steps datasets .empty (segments file)).Pairwise fun step later =>
    ∀ statement ∈ step.statements datasets, ∀ other ∈ later.statements datasets,
      statement.line < other.line

/-- Under `skip` the errors and the statements of a file keep their places in it. -/
theorem ofLines_skip_keepsPlaces
    (datasets : Nat) {file : List SourceLine}
    (hfile : file.Pairwise fun line later => line.number < later.number) :
    ∃ expansion, (ofLines ⟨datasets, .skip⟩ file).result = .ok expansion ∧
      expansion.KeepsPlaces datasets file := by
  have hsegments := map_segment_steps datasets .empty (segments file)
  have hplaces : ∀ step ∈ steps datasets .empty (segments file), step.KeepsPlace datasets := by
    intro step hstep
    have hmem : step.segment ∈ segments file := by
      rw [← hsegments]
      exact List.mem_map_of_mem hstep
    exact Step.keepsPlace_of_mem_segments hmem datasets
  have hordered := pairwise_segments hfile
  rw [← hsegments, List.pairwise_map] at hordered
  refine ⟨_, ofSegments_skip datasets .empty (segments file), rfl, rfl, hplaces, ?_, ?_⟩
  · rw [List.pairwise_map]
    unfold errorsOf
    rw [List.pairwise_filterMap]
    refine hordered.imp_of_mem ?_
    intro step later hstep hlater hbelow error herror other hother
    obtain ⟨_, line, hline, hnumber⟩ := (hplaces step hstep).error_line error herror
    obtain ⟨_, next, hnext, hnumberNext⟩ := (hplaces later hlater).error_line other hother
    rw [hnumber, hnumberNext]
    exact hbelow line hline next hnext
  · refine hordered.imp_of_mem ?_
    intro step later hstep hlater hbelow statement hstatement other hother
    obtain ⟨_, _, hwithin, line, hline, hnumber⟩ :=
      (hplaces step hstep).statement_line statement hstatement
    obtain ⟨_, _, hwithinNext, next, hnext, hnumberNext⟩ :=
      (hplaces later hlater).statement_line other hother
    rw [hnumber, hnumberNext]
    exact hbelow line (hwithin.subset hline) next (hwithinNext.subset hnext)

/-- Errors of several kinds, and a loop that brings its lines up in turn. -/
def failingSource : Text :=
  ['\n'].intercalate
    ["FOR i IN absent".toList, "ADD CHART".toList, "NEXT".toList, "LIST NEW short".toList,
      "FOR i IN RANGE(1,2)".toList, "ADD CHART".toList, "TITLE part $i".toList, "NEXT".toList,
      "LIST ADD absent a".toList, [], "FOR i IN RANGE(1,2)".toList, "ADD CHART".toList,
      "DEFINE *p = $a".toList, "NEXT".toList, "ADD CHART".toList, "FOR i IN RANGE(1,2)".toList]

theorem ofLines_skip_keepsPlaces_failingSource :
    ∃ expansion, (ofLines ⟨2, .skip⟩ (SourceLine.ofContent failingSource)).result =
        .ok expansion ∧
      expansion.skipped.map ExpandError.line = [1, 4, 9, 13, 16] ∧
      expansion.statements.map Statement.line = [6, 7, 6, 7, 15] ∧
      expansion.KeepsPlaces 2 (SourceLine.ofContent failingSource) := by
  have hfile := SourceLine.pairwise_ofContent failingSource
  have hrun : (ofLines ⟨2, .skip⟩ (SourceLine.ofContent failingSource)).result.toOption.map
      (fun expansion => (expansion.skipped.map ExpandError.line,
        expansion.statements.map Statement.line)) =
      some ([1, 4, 9, 13, 16], [6, 7, 6, 7, 15]) := by
    decide +kernel
  obtain ⟨expansion, hresult, hplaces⟩ := ofLines_skip_keepsPlaces 2 hfile
  rw [hresult] at hrun
  obtain ⟨hskipped, hstatements⟩ := Prod.mk.inj (Option.some.inj hrun)
  exact ⟨expansion, hresult, hskipped, hstatements, hplaces⟩

end Expansion

end ChartScript
