import ChartScript.Proofs.LineExchange
import ChartScript.Proofs.WrittenRanges

/-!
# What the lists of a file hold

At any point of a run a list holds the tokens of the last statement that created it and,
behind them, those of every statement that appended to it since.  Only list statements count
that stand outside of loops; a line that cannot be read leaves the lists alone, and so does
appending to a list that nothing has created.

Ranges are replaced before a list line is cut into tokens, so that no value holds a separator
or the opening of a range.
-/

namespace ChartScript

/-! ## List statements -/

namespace ListStatement

def Creates (statement : ListStatement) (name : Text) : Prop :=
  statement.operation = .new ∧ statement.name = name

def AppendsTo (statement : ListStatement) (name : Text) : Prop :=
  statement.operation = .add ∧ statement.name = name

instance (statement : ListStatement) (name : Text) : Decidable (statement.Creates name) :=
  inferInstanceAs (Decidable (_ ∧ _))

instance (statement : ListStatement) (name : Text) : Decidable (statement.AppendsTo name) :=
  inferInstanceAs (Decidable (_ ∧ _))

/-- The tokens that statements append to a list, in order. -/
def appended (statements : List ListStatement) (name : Text) : List Text :=
  (statements.filter fun statement => statement.AppendsTo name).flatMap ListStatement.tokens

/-- What statements leave under a name: the tokens of the last one that creates the list, and
of all later ones that append to it. -/
def Leave (statements : List ListStatement) (name : Text) (words : List Text) : Prop :=
  ∃ before creation after, statements = before ++ creation :: after ∧
    creation.Creates name ∧ (∀ later ∈ after, ¬ later.Creates name) ∧
    words = creation.tokens ++ appended after name

theorem appended_append (first second : List ListStatement) (name : Text) :
    appended (first ++ second) name = appended first name ++ appended second name := by
  unfold appended
  rw [List.filter_append, List.flatMap_append]

theorem not_leave_nil {name : Text} {words : List Text} : ¬ Leave [] name words := by
  rintro ⟨before, creation, after, hsplit, _⟩
  simp at hsplit

/-- The last of the statements is the one that the others stand around, or it is one of those
behind it. -/
theorem split_append_singleton
    {statements before after : List ListStatement} {statement creation : ListStatement}
    (hsplit : statements ++ [statement] = before ++ creation :: after) :
    (statements = before ∧ statement = creation ∧ after = []) ∨
      ∃ earlier, statements = before ++ creation :: earlier ∧ after = earlier ++ [statement] := by
  rcases List.eq_nil_or_concat after with rfl | ⟨earlier, last, rfl⟩
  · obtain ⟨hbefore, hlast⟩ := List.append_inj' hsplit rfl
    exact .inl ⟨hbefore, List.singleton_inj.1 hlast, rfl⟩
  · have hshift : statements ++ [statement] = (before ++ creation :: earlier) ++ [last] := by
      simpa using hsplit
    obtain ⟨hearlier, hlast⟩ := List.append_inj' hshift rfl
    rw [List.singleton_inj.1 hlast]
    exact .inr ⟨earlier, hearlier, List.concat_eq_append⟩

section

variable {statements : List ListStatement} {statement : ListStatement} {name : Text}
  {words : List Text}

theorem leave_append_of_creates (hcreates : statement.Creates name) :
    Leave (statements ++ [statement]) name words ↔ words = statement.tokens := by
  constructor
  · rintro ⟨before, creation, after, hsplit, _, hlater, rfl⟩
    rcases split_append_singleton hsplit with ⟨rfl, rfl, rfl⟩ | ⟨earlier, rfl, rfl⟩
    · exact List.append_nil _
    · exact absurd hcreates (hlater statement (by simp))
  · rintro rfl
    exact ⟨statements, statement, [], rfl, hcreates, by simp, (List.append_nil _).symm⟩

/-- A statement that does not create the list leaves what was there and what it appends. -/
theorem leave_append_of_not_creates (hnot : ¬ statement.Creates name) :
    Leave (statements ++ [statement]) name words ↔
      ∃ found, Leave statements name found ∧ words = found ++ appended [statement] name := by
  constructor
  · rintro ⟨before, creation, after, hsplit, hcreates, hlater, rfl⟩
    rcases split_append_singleton hsplit with ⟨rfl, rfl, rfl⟩ | ⟨earlier, rfl, rfl⟩
    · exact absurd hcreates hnot
    · refine ⟨creation.tokens ++ appended earlier name,
        ⟨before, creation, earlier, rfl, hcreates, ?_, rfl⟩, ?_⟩
      · intro later hmem
        exact hlater later (List.mem_append_left _ hmem)
      · rw [appended_append, List.append_assoc]
  · rintro ⟨found, ⟨before, creation, after, rfl, hcreates, hlater, rfl⟩, rfl⟩
    refine ⟨before, creation, after ++ [statement], by simp, hcreates, ?_, ?_⟩
    · intro later hmem
      rcases List.mem_append.1 hmem with hmem | hmem
      · exact hlater later hmem
      · rw [List.mem_singleton.1 hmem]
        exact hnot
    · rw [appended_append, List.append_assoc]

theorem leave_append_of_ne (hname : statement.name ≠ name) :
    Leave (statements ++ [statement]) name words ↔ Leave statements name words := by
  have hcreates : ¬ statement.Creates name := fun hcreates => hname hcreates.2
  have hnone : appended [statement] name = [] := by simp [appended, AppendsTo, hname]
  rw [leave_append_of_not_creates hcreates, hnone]
  simp

end

theorem exists_leave_iff {statements : List ListStatement} {name : Text} :
    (∃ words, Leave statements name words) ↔
      ∃ statement ∈ statements, statement.Creates name := by
  induction statements using List.reverseRecOn with
  | nil => simp [not_leave_nil]
  | append_singleton statements statement ih =>
      simp only [List.mem_append, List.mem_singleton]
      by_cases hlast : statement.Creates name
      · simp only [leave_append_of_creates hlast]
        exact ⟨fun _ => ⟨statement, .inr rfl, hlast⟩, fun _ => ⟨statement.tokens, rfl⟩⟩
      · simp only [leave_append_of_not_creates hlast]
        constructor
        · rintro ⟨_, found, hfound, _⟩
          obtain ⟨creation, hmem, hcreates⟩ := ih.1 ⟨found, hfound⟩
          exact ⟨creation, .inl hmem, hcreates⟩
        · rintro ⟨creation, hmem | rfl, hcreates⟩
          · obtain ⟨found, hfound⟩ := ih.2 ⟨creation, hmem, hcreates⟩
            exact ⟨_, found, hfound, rfl⟩
          · exact absurd hcreates hlast

/-- What all tokens have that the statements hold, those have that they leave. -/
theorem Leave.forall_words
    {statements : List ListStatement} {name : Text} {words : List Text} {P : Text → Prop}
    (hleave : Leave statements name words)
    (htokens : ∀ statement ∈ statements,
      statement.tokens ≠ [] ∧ ∀ word ∈ statement.tokens, P word) :
    words ≠ [] ∧ ∀ word ∈ words, P word := by
  obtain ⟨before, creation, after, rfl, _, _, rfl⟩ := hleave
  obtain ⟨hne, hcreation⟩ := htokens creation (by simp)
  refine ⟨List.append_ne_nil_of_left_ne_nil hne _, ?_⟩
  intro word hword
  rcases List.mem_append.1 hword with hword | hword
  · exact hcreation word hword
  · obtain ⟨later, hlater, hword⟩ := List.mem_flatMap.1 hword
    have hmem := List.mem_of_mem_filter hlater
    exact (htokens later (by simp [hmem])).2 word hword

end ListStatement

/-! ## Registries -/

namespace Registry

open ListStatement

/-- The lists are those that the statements leave. -/
def Records (registry : Registry) (statements : List ListStatement) : Prop :=
  ∀ name words, registry.get? name = some words ↔ Leave statements name words

theorem records_empty : Registry.empty.Records [] := by
  intro name words
  constructor
  · intro hwords
    cases hwords
  · intro hleave
    exact absurd hleave not_leave_nil

theorem contains_iff_exists_get? {registry : Registry} {name : Text} :
    registry.contains name = true ↔ ∃ words, registry.get? name = some words := by
  unfold contains get?
  rw [List.contains_iff_mem]
  induction registry.lists with
  | nil => simp
  | cons entry lists ih =>
      obtain ⟨other, words⟩ := entry
      by_cases hname : name = other
      · simp [hname]
      · simp [List.lookup_cons, beq_false_of_ne hname, hname, ← ih]

section

variable {registry : Registry} {statements : List ListStatement}
  (hrecords : registry.Records statements)

include hrecords

theorem Records.contains_iff {name : Text} :
    registry.contains name = true ↔ ∃ statement ∈ statements, statement.Creates name := by
  rw [contains_iff_exists_get?, ← exists_leave_iff]
  exact exists_congr fun words => hrecords name words

theorem Records.get?_eq_none_iff {name : Text} :
    registry.get? name = none ↔ ∀ statement ∈ statements, ¬ statement.Creates name := by
  rw [Option.eq_none_iff_forall_ne_some]
  simp only [ne_eq, hrecords name]
  rw [← not_exists, exists_leave_iff]
  simp

theorem Records.apply
    {statement : ListStatement} {lists : Registry} (happly : registry.apply statement = .ok lists) :
    lists.Records (statements ++ [statement]) := by
  intro name words
  rcases apply_eq_ok_iff.1 happly with ⟨hnew, rfl⟩ | ⟨hadd, found, hfound, rfl⟩
  · by_cases hname : statement.name = name
    · rw [leave_append_of_creates ⟨hnew, hname⟩, ← hname, get?_set_self, Option.some_inj, eq_comm]
    · rw [leave_append_of_ne hname, get?_set_of_ne registry (Ne.symm hname), hrecords]
  · by_cases hname : statement.name = name
    · have hnot : ¬ statement.Creates name := fun hcreates => by
        cases hadd.symm.trans hcreates.1
      have happended : appended [statement] name = statement.tokens := by
        simp [appended, AppendsTo, hadd, hname]
      rw [leave_append_of_not_creates hnot, happended]
      simp only [← hrecords name]
      rw [← hname, get?_set_self, hfound]
      simp [eq_comm]
    · rw [leave_append_of_ne hname, get?_set_of_ne registry (Ne.symm hname), hrecords]

/-- A statement that cannot be carried out appends to a list that nothing has created. -/
theorem Records.of_apply_eq_error
    {statement : ListStatement} {error : ExpandError}
    (happly : registry.apply statement = .error error) :
    registry.Records (statements ++ [statement]) := by
  intro name words
  obtain ⟨hadd, hnone, _⟩ := apply_eq_error_iff.1 happly
  by_cases hname : statement.name = name
  · have hnot : ¬ statement.Creates name := fun hcreates => by
      cases hadd.symm.trans hcreates.1
    rw [leave_append_of_not_creates hnot]
    simp only [← hrecords name]
    rw [← hname, hnone]
    simp
  · rw [leave_append_of_ne hname, hrecords]

end

end Registry

/-! ## Values -/

theorem Range.not_infix_expandAll
    {line expanded : Text} (hexpand : expandAll line = .ok expanded) :
    ¬ opening <:+: expanded := by
  fun_induction expandAll line with
  | case1 => cases hexpand
  | case2 line hnone =>
      obtain rfl := Except.ok.inj hexpand
      exact locate_eq_none_iff.1 hnone
  | case3 line occurrence hlocate ih => exact ih hexpand

namespace ListStatement

theorem tokens_ne_nil_of_read
    {line : SourceLine} {statement : ListStatement} (hread : read line = .ok statement) :
    statement.tokens ≠ [] := by
  unfold read at hread
  split at hread
  · cases hread
  · split at hread
    · split at hread
      · obtain rfl := Except.ok.inj hread
        exact List.cons_ne_nil _ _
      · cases hread
    · cases hread

theorem isPlainWord_of_mem_tokens
    {line : SourceLine} {statement : ListStatement} (hread : read line = .ok statement) :
    ∀ word ∈ statement.tokens, word.IsPlainWord := by
  obtain ⟨expanded, first, operation, hexpand, htokens⟩ := exists_tokens_of_read hread
  have hopening := Range.not_infix_expandAll hexpand
  intro word hword
  have hmem : word ∈ Text.tokens .blanksAndCommas expanded := by
    rw [htokens]
    simp [hword]
  exact ⟨Text.isWord_of_mem_tokens hmem,
    fun hinside => hopening (hinside.trans (Text.infix_of_mem_tokens hmem))⟩

end ListStatement

/-- Every list holds something, and only tokens. -/
def Registry.HoldsValues (registry : Registry) : Prop :=
  ∀ name words, registry.get? name = some words →
    words ≠ [] ∧ ∀ word ∈ words, word.IsPlainWord

theorem Registry.Records.holdsValues
    {registry : Registry} {statements : List ListStatement} (hrecords : registry.Records statements)
    (hread : ∀ statement ∈ statements, ∃ line, ListStatement.read line = .ok statement) :
    registry.HoldsValues := by
  intro name words hwords
  apply ((hrecords name words).1 hwords).forall_words
  intro statement hstatement
  obtain ⟨line, hline⟩ := hread statement hstatement
  exact ⟨ListStatement.tokens_ne_nil_of_read hline, ListStatement.isPlainWord_of_mem_tokens hline⟩

/-! ## Segments -/

namespace Segment

def list? (segment : Segment) : Option ListStatement :=
  match segment.block with
  | .ok (.list statement) => some statement
  | _ => none

theorem list?_eq_some_iff {segment : Segment} {statement : ListStatement} :
    segment.list? = some statement ↔ segment.block = .ok (.list statement) := by
  unfold list?
  split
  · next found hblock =>
      rw [hblock, Option.some_inj, Except.ok.injEq, Block.list.injEq]
  · next hother =>
      constructor
      · intro hnone
        cases hnone
      · intro hblock
        exact absurd hblock (hother statement)

theorem run_of_list
    {segment : Segment} {statement : ListStatement}
    (hblock : segment.block = .ok (.list statement)) (datasets : Nat) (registry : Registry) :
    (segment.run datasets registry).result =
      (registry.apply statement).map fun lists => (lists, []) := by
  unfold run
  rw [hblock]
  simp only [Block.run, Block.updateLists]
  cases registry.apply statement with
  | error error => rfl
  | ok lists => rfl

/-- The lists record a list statement when its segment is done, whether it fails or not. -/
theorem records_listsAfter
    {registry : Registry} {statements : List ListStatement}
    (hrecords : registry.Records statements) (datasets : Nat) (segment : Segment) :
    (segment.listsAfter datasets registry).Records (statements ++ segment.list?.toList) := by
  cases hlist : segment.list? with
  | none =>
      rcases Expansion.listsAfter_segment datasets registry segment with
        hsame | ⟨statement, hblock, _⟩
      · simpa [hsame] using hrecords
      · rw [list?_eq_some_iff.2 hblock] at hlist
        cases hlist
  | some statement =>
      unfold listsAfter
      rw [run_of_list (list?_eq_some_iff.1 hlist), Option.toList_some]
      cases happly : registry.apply statement with
      | error error => exact hrecords.of_apply_eq_error happly
      | ok lists => exact hrecords.apply happly

end Segment

/-- The list statements among segments, in order; what stands inside of a loop is none. -/
def listStatements (list : List Segment) : List ListStatement := list.filterMap Segment.list?

theorem exists_read_of_mem_listStatements
    {lines : List SourceLine} {statement : ListStatement}
    (hstatement : statement ∈ listStatements (segments lines)) :
    ∃ line ∈ lines, ListStatement.read line = .ok statement := by
  obtain ⟨segment, hsegment, hlist⟩ := List.mem_filterMap.1 hstatement
  obtain ⟨line, hline, hread⟩ :=
    Segment.exists_read_of_block_eq_list hsegment (Segment.list?_eq_some_iff.1 hlist)
  refine ⟨line, ?_, hread⟩
  rw [← flatMap_lines_segments lines]
  exact List.mem_flatMap.2 ⟨segment, hsegment, hline⟩

/-! ## Runs -/

namespace Expansion

theorem records_listsAfter
    {registry : Registry} {statements : List ListStatement}
    (hrecords : registry.Records statements) (datasets : Nat) (list : List Segment) :
    (listsAfter datasets registry list).Records (statements ++ listStatements list) := by
  induction list generalizing registry statements with
  | nil => simpa [listsAfter, listStatements] using hrecords
  | cons segment rest ih =>
      have hrest := ih (Segment.records_listsAfter hrecords datasets segment)
      have hsplit : listStatements (segment :: rest) =
          segment.list?.toList ++ listStatements rest := by
        unfold listStatements
        rw [List.filterMap_cons]
        cases segment.list? <;> rfl
      rw [hsplit, ← List.append_assoc]
      exact hrest

/-- The lists of a step are those that the segments before it leave behind. -/
theorem lists_eq_listsAfter
    {datasets : Nat} {registry : Registry} {list : List Segment} {before after : List Step}
    {step : Step} (hsteps : steps datasets registry list = before ++ step :: after) :
    step.lists = listsAfter datasets registry (before.map Step.segment) := by
  induction before generalizing registry list with
  | nil =>
      cases list with
      | nil => cases hsteps
      | cons segment rest =>
          obtain ⟨rfl, _⟩ := List.cons.inj hsteps
          rfl
  | cons first before ih =>
      cases list with
      | nil => cases hsteps
      | cons segment rest =>
          obtain ⟨rfl, hrest⟩ := List.cons.inj hsteps
          exact ih hrest

/-- What the lists at the end of a run are, given the list statements of the file. -/
structure FollowsLists (statements : List ListStatement) (expansion : Expansion) : Prop where
  records : expansion.lists.Records statements
  contains_iff : ∀ name, expansion.lists.contains name = true ↔
    ∃ statement ∈ statements, statement.Creates name
  holdsValues : expansion.lists.HoldsValues

/-- What the list statements before a step mean for it.  Appending to a list that none of them
creates fails and changes nothing; a loop over a list takes the tokens that they leave. -/
structure Step.FollowsLists (datasets : Nat) (earlier : List ListStatement) (step : Step) :
    Prop where
  records : step.lists.Records earlier
  holdsValues : step.lists.HoldsValues
  append_unknown : ∀ statement, step.segment.block = .ok (.list statement) →
    statement.operation = .add → (∀ other ∈ earlier, ¬ other.Creates statement.name) →
    step.result datasets = .error (.unknownList statement.line statement.name) ∧
      step.segment.listsAfter datasets step.lists = step.lists
  loop_list : ∀ loop name words, step.segment.block = .ok (.loop loop) →
    loop.source = .list name → ListStatement.Leave earlier name words →
    step.result datasets = loop.unroll datasets words >>= fun found =>
      (found.mapM Statement.read).map fun statements => (step.lists, statements)
  loop_unknown : ∀ loop name, step.segment.block = .ok (.loop loop) →
    loop.source = .list name → (∀ other ∈ earlier, ¬ other.Creates name) →
    step.result datasets = .error (.unknownList loop.line name)

theorem Step.result_of_loop
    {step : Step} {loop : Loop} (hblock : step.segment.block = .ok (.loop loop)) (datasets : Nat) :
    step.result datasets = loop.values step.lists >>= fun values =>
      loop.unroll datasets values >>= fun found =>
        (found.mapM Statement.read).map fun statements => (step.lists, statements) := by
  unfold Step.result Segment.run
  rw [hblock]
  exact Block.run_loop_result datasets step.lists loop

theorem Step.followsLists
    {step : Step} {earlier : List ListStatement} (hrecords : step.lists.Records earlier)
    (hread : ∀ statement ∈ earlier, ∃ line, ListStatement.read line = .ok statement)
    (datasets : Nat) :
    step.FollowsLists datasets earlier where
  records := hrecords
  holdsValues := hrecords.holdsValues hread
  append_unknown := by
    intro statement hblock hadd hnone
    have hrun := Segment.run_of_list hblock datasets step.lists
    rw [Registry.apply_eq_error_iff.2 ⟨hadd, hrecords.get?_eq_none_iff.2 hnone, rfl⟩] at hrun
    refine ⟨hrun, ?_⟩
    unfold Segment.listsAfter
    rw [hrun]
    rfl
  loop_list := by
    intro loop name words hblock hsource hleave
    have hvalues : loop.values step.lists = .ok words := by
      unfold Loop.values
      simp only [hsource, (hrecords name words).2 hleave]
    rw [Step.result_of_loop hblock, hvalues]
    rfl
  loop_unknown := by
    intro loop name hblock hsource hnone
    have hvalues : loop.values step.lists = .error (.unknownList loop.line name) := by
      unfold Loop.values
      simp only [hsource, hrecords.get?_eq_none_iff.2 hnone]
    rw [Step.result_of_loop hblock, hvalues]
    rfl

/-- The lists of a run are what the list statements of the file leave, those of a step what
the list statements before it leave. -/
theorem lists_of_ofLines (options : Options) (lines : List SourceLine) :
    (∀ expansion, (ofLines options lines).result = .ok expansion →
      expansion.FollowsLists (listStatements (segments lines))) ∧
    ∀ before step after,
      steps options.datasets .empty (segments lines) = before ++ step :: after →
        step.FollowsLists options.datasets (listStatements (before.map Step.segment)) := by
  constructor
  · intro expansion hrun
    have hrecords := records_listsAfter Registry.records_empty options.datasets (segments lines)
    rw [List.nil_append, ← (eq_of_ofSegments_eq_ok hrun).2] at hrecords
    refine ⟨hrecords, fun name => hrecords.contains_iff, hrecords.holdsValues ?_⟩
    intro statement hstatement
    obtain ⟨line, _, hread⟩ := exists_read_of_mem_listStatements hstatement
    exact ⟨line, hread⟩
  · intro before step after hsteps
    have hsegments := map_segment_steps options.datasets .empty (segments lines)
    rw [hsteps, List.map_append] at hsegments
    apply Step.followsLists
    · rw [lists_eq_listsAfter hsteps]
      exact records_listsAfter Registry.records_empty options.datasets _
    · intro statement hstatement
      have hmem : statement ∈ listStatements (segments lines) := by
        rw [← hsegments]
        unfold listStatements at hstatement ⊢
        rw [List.filterMap_append]
        exact List.mem_append_left _ hstatement
      obtain ⟨line, _, hread⟩ := exists_read_of_mem_listStatements hmem
      exact ⟨line, hread⟩

/-- A list that is appended to too early, created, appended to and created again. -/
def recreatedLists : List SourceLine :=
  [⟨1, "LIST ADD L x".toList⟩, ⟨2, "LIST NEW L a, b".toList⟩, ⟨3, "LIST NEW M".toList⟩,
    ⟨4, "LIST ADD L RANGE(3,4)".toList⟩, ⟨5, "FOR i IN ${L}".toList⟩,
    ⟨6, "ADD SERIES 1 $i".toList⟩, ⟨7, "NEXT".toList⟩, ⟨8, "LIST NEW L c".toList⟩,
    ⟨9, "LIST ADD L d".toList⟩]

theorem lists_of_ofLines_recreatedLists :
    (∃ expansion, (ofLines ⟨1, .skip⟩ recreatedLists).result = .ok expansion ∧
      expansion.skipped.map ExpandError.line = [1, 3] ∧
      expansion.statements.map (fun statement => statement.directive.text) =
        ["ADD SERIES 1 a".toList, "ADD SERIES 1 b".toList, "ADD SERIES 1 3".toList,
          "ADD SERIES 1 4".toList] ∧
      expansion.lists.get? "L".toList = some ["c".toList, "d".toList] ∧
      expansion.FollowsLists (listStatements (segments recreatedLists))) ∧
    ∃ before step after, steps 1 .empty (segments recreatedLists) = before ++ step :: after ∧
      step.segment.lines.map SourceLine.number = [5, 6, 7] ∧
      step.FollowsLists 1 (listStatements (before.map Step.segment)) := by
  obtain ⟨hlists, hsteps⟩ := lists_of_ofLines ⟨1, .skip⟩ recreatedLists
  have hrun : (ofLines ⟨1, .skip⟩ recreatedLists).result.map
      (fun expansion => (expansion.skipped.map ExpandError.line,
        expansion.statements.map (fun statement => statement.directive.text),
        expansion.lists.get? "L".toList)) =
      .ok ([1, 3], ["ADD SERIES 1 a".toList, "ADD SERIES 1 b".toList, "ADD SERIES 1 3".toList,
        "ADD SERIES 1 4".toList], some ["c".toList, "d".toList]) := by
    decide +kernel
  have hloop : ((steps 1 .empty (segments recreatedLists))[4]?).map
      (fun step => step.segment.lines.map SourceLine.number) = some [5, 6, 7] := by
    decide +kernel
  constructor
  · obtain ⟨expansion, hresult, hfound⟩ := map_eq_ok_iff.1 hrun
    obtain ⟨hskipped, hrest⟩ := Prod.mk.inj hfound
    obtain ⟨hstatements, hlist⟩ := Prod.mk.inj hrest
    exact ⟨expansion, hresult, hskipped, hstatements, hlist, hlists expansion hresult⟩
  · obtain ⟨step, hstep, hnumbers⟩ := Option.map_eq_some_iff.1 hloop
    obtain ⟨_, hget⟩ := List.getElem?_eq_some_iff.1 hstep
    have hsplit : steps 1 .empty (segments recreatedLists) =
        (steps 1 .empty (segments recreatedLists)).take 4 ++
          step :: (steps 1 .empty (segments recreatedLists)).drop 5 := by
      rw [← hget, List.getElem_cons_drop, List.take_append_drop]
    exact ⟨_, step, _, hsplit, hnumbers, hsteps _ _ _ hsplit⟩

end Expansion

end ChartScript
