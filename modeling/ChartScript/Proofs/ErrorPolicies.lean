import ChartScript.CommandFile
import ChartScript.Proofs.ExpansionSteps

/-!
# The two error policies agree

A run under `skip` always comes to a result and keeps the errors that it met.  The run under
`abort` takes the same steps until the first of these errors, which is then its result;
where there is none, the two results are the same.  This holds for the expansion of a file
and for the building of its charts, each a loop of its own.
-/

namespace ChartScript

namespace CommandFile

/-- The run under `abort` comes to the first error that the run under `skip` keeps, or else
to the same file. -/
theorem exists_ofLoaded_skip (datasets : Nat) (loaded : LoadedFile) :
    ∃ skipping,
      (ofLoaded ⟨datasets, .skip⟩ loaded).result = .ok skipping ∧
        (ofLoaded ⟨datasets, .abort⟩ loaded).result =
          unlessError skipping.skipped { skipping with options := ⟨datasets, .abort⟩ } := by
  unfold ofLoaded Expansion.ofLines
  simp only [Expansion.ofSegments_skip, Expansion.ofSegments_abort]
  refine ⟨_, rfl, ?_⟩
  cases herrors : Expansion.errorsOf datasets
      (Expansion.steps datasets .empty
        (segments (loaded.lines.map (SourceLine.withCases datasets)))) with
  | nil => rfl
  | cons error errors => rfl

end CommandFile

namespace ChartSet

theorem exists_ofDraft_skip
    (datasets : Nat) (table : DefinitionTable) (xRange : Text)
    (draft : ChartDraft) (statements : List Statement) :
    ∃ skipping,
      (ofDraft ⟨datasets, .skip⟩ table xRange draft statements).result = .ok skipping ∧
        (ofDraft ⟨datasets, .abort⟩ table xRange draft statements).result =
          unlessError skipping.skipped skipping := by
  induction statements generalizing draft with
  | nil => exact ⟨_, rfl, rfl⟩
  | cons statement rest ih =>
      unfold ofDraft
      cases hadd : draft.add datasets table statement with
      | ok next => exact ih next
      | error error =>
          obtain ⟨skipping, hskip, _⟩ := ih draft
          refine ⟨skipping.prependSkipped error, ?_, rfl⟩
          simp only [hskip]
          rfl

end ChartSet

/-- The two policies agree over the whole engine: on the expansion of every source, and on
the charts of all statements. -/
theorem abort_agrees_with_skip :
    (∀ (datasets : Nat) (source : Text), ∃ skipping,
      (CommandFile.ofSource ⟨datasets, .skip⟩ source).result = .ok skipping ∧
        ((∃ file, (CommandFile.ofSource ⟨datasets, .abort⟩ source).result = .ok file) ↔
          skipping.skipped = []) ∧
        (∀ file, (CommandFile.ofSource ⟨datasets, .abort⟩ source).result = .ok file →
          file.lines = skipping.lines ∧ file.statements = skipping.statements ∧
            file.lists = skipping.lists ∧ file.derived = skipping.derived) ∧
        ∀ error, (CommandFile.ofSource ⟨datasets, .abort⟩ source).result = .error error ↔
          skipping.skipped.head? = some error) ∧
    (∀ (datasets : Nat) (table : DefinitionTable) (xRange : Text)
        (statements : List Statement), ∃ skipping,
      (ChartSet.ofStatements ⟨datasets, .skip⟩ table xRange statements).result =
          .ok skipping ∧
        (∀ error,
          (ChartSet.ofStatements ⟨datasets, .abort⟩ table xRange statements).result =
              .error error ↔
            skipping.skipped.head? = some error) ∧
        (skipping.skipped = [] → ∃ set,
          (ChartSet.ofStatements ⟨datasets, .abort⟩ table xRange statements).result =
              .ok set ∧
            set.charts = skipping.charts)) := by
  constructor
  · intro datasets source
    obtain ⟨skipping, hskip, habort⟩ :=
      CommandFile.exists_ofLoaded_skip datasets (LoadedFile.ofSource source)
    refine ⟨skipping, hskip, ?_, ?_, ?_⟩
    · unfold CommandFile.ofSource
      simp only [habort, unlessError_eq_ok_iff]
      exact ⟨fun ⟨_, hnone, _⟩ => hnone, fun hnone => ⟨_, hnone, rfl⟩⟩
    · intro file hfile
      unfold CommandFile.ofSource at hfile
      rw [habort, unlessError_eq_ok_iff] at hfile
      obtain ⟨_, rfl⟩ := hfile
      exact ⟨rfl, rfl, rfl, rfl⟩
    · intro error
      unfold CommandFile.ofSource
      rw [habort, unlessError_eq_error_iff]
  · intro datasets table xRange statements
    obtain ⟨skipping, hskip, habort⟩ :=
      ChartSet.exists_ofDraft_skip datasets table xRange .empty statements
    refine ⟨skipping, hskip, ?_, ?_⟩
    · intro error
      unfold ChartSet.ofStatements
      rw [habort, unlessError_eq_error_iff]
    · intro hnone
      refine ⟨skipping, ?_, rfl⟩
      unfold ChartSet.ofStatements
      rw [habort, hnone]
      rfl

end ChartScript
