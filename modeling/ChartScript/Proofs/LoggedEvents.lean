import ChartScript.Proofs.ExpansionSteps
import ChartScript.Proofs.NumbersPutIn
import ChartScript.Proofs.PassedLines
import ChartScript.Proofs.RangeLists

/-!
# What the log tells of an expansion

The errors in the log of an expansion are those that were skipped, in order.  The warnings are
about lines that are passed through, and every such line of the result has its warning, in order.

A warning is written when a line is read, though, and then it is not known yet whether the others
of its segment can be read.  A loop that fails gives no statements, but the lines that were passed
through in front of the one that cannot be read stay in the log.  Where no loop does so, which is
always the case under `abort`, the warnings are exactly those about the statements.
-/

namespace ChartScript

namespace Event

/-- The events that are logged at a level, in order. -/
def loggedAt (level : LogLevel) (events : List Event) : List Event :=
  events.filter (·.level = level)

theorem loggedAt_append (level : LogLevel) (first second : List Event) :
    loggedAt level (first ++ second) = loggedAt level first ++ loggedAt level second :=
  List.filter_append first second

theorem loggedAt_flatMap {α : Type} (level : LogLevel) (f : α → List Event) (list : List α) :
    loggedAt level (list.flatMap f) = list.flatMap fun x => loggedAt level (f x) :=
  List.filter_flatMap

end Event

/-- Pieces that are kept in part are kept in full if they make up the same list. -/
theorem flatMap_sublist_and_eq_iff
    {α β : Type} {f g : α → List β} {list : List α}
    (hkept : ∀ x ∈ list, (f x).Sublist (g x)) :
    (list.flatMap f).Sublist (list.flatMap g) ∧
      (list.flatMap f = list.flatMap g ↔ ∀ x ∈ list, f x = g x) := by
  induction list with
  | nil => simp
  | cons x rest ih =>
      obtain ⟨hfirst, hkeptRest⟩ := List.forall_mem_cons.1 hkept
      obtain ⟨hrest, hiff⟩ := ih hkeptRest
      rw [List.flatMap_cons, List.flatMap_cons, List.forall_mem_cons, ← hiff]
      refine ⟨hfirst.append hrest, ?_, fun ⟨hsame, hothers⟩ => by rw [hsame, hothers]⟩
      intro heq
      have hlength := congrArg List.length heq
      simp only [List.length_append] at hlength
      have hle := hrest.length_le
      have hsame := hfirst.eq_of_length_le (by omega)
      rw [hsame] at heq
      exact ⟨hsame, List.append_cancel_left heq⟩

/-! ## Reading lines one after the other -/

namespace Statement

theorem level_of_event?
    {statement : Statement} {event : Event} (hevent : statement.event? = some event) :
    event.level = .warning := by
  unfold event? at hevent
  obtain ⟨_, heq⟩ := Option.ite_none_right_eq_some.1 hevent
  rw [← Option.some.inj heq]
  rfl

theorem read_eq_ok_iff {line : SourceLine} {statement : Statement} :
    read line = .ok statement ↔
      ∃ directive, Directive.read line = .ok directive ∧ ⟨line.number, directive⟩ = statement := by
  unfold read
  cases Directive.read line <;> simp

theorem event?_eq_none_iff
    {line : SourceLine} {statement : Statement} (hread : read line = .ok statement) :
    statement.event? = none ↔ Keyword.ofLine line.text ≠ .other := by
  obtain ⟨directive, hdirective, rfl⟩ := read_eq_ok_iff.1 hread
  have hevent : event? ⟨line.number, directive⟩ = none ↔ ¬ directive.isPassthrough = true := by
    unfold event?
    rw [ite_eq_right_iff]
    simp
  have hpassed : directive.isPassthrough = true ↔ Keyword.ofLine line.text = .other := by
    constructor
    · intro hpass
      cases directive with
      | passthrough text => exact (Directive.read_eq_passthrough_iff.1 hdirective).1
      | define => cases hpass
      | addChart => cases hpass
      | addSeries => cases hpass
    · intro hkeyword
      have hpass := Directive.read_eq_passthrough_iff.2 ⟨hkeyword, rfl⟩
      obtain rfl := Except.ok.inj (hdirective.symm.trans hpass)
      rfl
  rw [hevent, hpassed]

theorem events_readAll_cons_of_ok
    {line : SourceLine} {statement : Statement} (hread : read line = .ok statement)
    (rest : List SourceLine) :
    (readAll (line :: rest)).events = statement.event?.toList ++ (readAll rest).events := by
  unfold readAll
  simp only [List.map_cons, hread, List.takeWhile_cons_of_pos, Except.isOk, Except.toBool,
    List.filterMap_cons]
  cases statement.event? <;> rfl

theorem events_readAll_cons_of_error
    {line : SourceLine} {error : ExpandError} (hread : read line = .error error)
    (rest : List SourceLine) :
    (readAll (line :: rest)).events = [] := by
  unfold readAll
  simp only [List.map_cons, hread]
  rfl

theorem events_readAll_append
    {front : List SourceLine} {statements : List Statement}
    (hfront : front.mapM read = .ok statements) (rest : List SourceLine) :
    (readAll (front ++ rest)).events =
      statements.filterMap event? ++ (readAll rest).events := by
  rw [mapM_eq_ok_iff] at hfront
  induction hfront with
  | nil => rfl
  | @cons line statement front statements hread _ ih =>
      rw [List.cons_append, events_readAll_cons_of_ok hread, ih, List.filterMap_cons]
      cases statement.event? <;> simp

theorem events_readAll_of_ok
    {lines : List SourceLine} {statements : List Statement}
    (hread : lines.mapM read = .ok statements) :
    (readAll lines).events = statements.filterMap event? := by
  have hall := events_readAll_append hread []
  rw [List.append_nil] at hall
  rw [hall]
  exact List.append_nil _

theorem events_readAll_of_error
    {front back : List SourceLine} {failing : SourceLine} {statements : List Statement}
    {error : ExpandError} (hfront : front.mapM read = .ok statements)
    (hfailing : read failing = .error error) :
    (readAll (front ++ failing :: back)).events = statements.filterMap event? := by
  rw [events_readAll_append hfront, events_readAll_cons_of_error hfailing, List.append_nil]

theorem level_of_mem_events_readAll
    {lines : List SourceLine} {event : Event} (hevent : event ∈ (readAll lines).events) :
    event.level = .warning := by
  obtain ⟨_, _, hfound⟩ := List.mem_filterMap.1 hevent
  split at hfound
  · exact level_of_event? hfound
  · cases hfound

theorem loggedAt_events_readAll (lines : List SourceLine) :
    Event.loggedAt .warning (readAll lines).events = (readAll lines).events :=
  List.filter_eq_self.2 fun _ hevent => decide_eq_true (level_of_mem_events_readAll hevent)

theorem filterMap_event?_eq_nil_iff
    {lines : List SourceLine} {statements : List Statement}
    (hread : lines.mapM read = .ok statements) :
    statements.filterMap event? = [] ↔ ∀ line ∈ lines, Keyword.ofLine line.text ≠ .other := by
  rw [mapM_eq_ok_iff] at hread
  induction hread with
  | nil => simp
  | cons hline _ ih =>
      rw [List.forall_mem_cons, ← ih, ← event?_eq_none_iff hline, List.filterMap_eq_nil_iff,
        List.forall_mem_cons, ← List.filterMap_eq_nil_iff]

end Statement

/-! ## Lines with a marker -/

/-- A line that is written from a template has the keyword `DEFINE` or `ADD`. -/
theorem Template.ofLine_fill
    {words : List Text} {template : Template} (hread : ofTokens words = .ok (some template))
    (dataset : Nat) :
    Keyword.ofLine (template.fill dataset) ≠ .other := by
  have hkeyword : ∀ word next : Text, ∀ rest, Text.IsWord .blanks word →
      Keyword.ofLine (Text.joinTokens (word :: next :: rest)) = Keyword.ofToken word := by
    intro word next rest hword
    rw [Text.joinTokens_cons_cons]
    exact Keyword.ofLine_of_tokens (Text.tokens_append_separator hword (by decide) _)
  unfold fill
  obtain ⟨⟨hfront, _⟩ | ⟨hfront, _⟩, _⟩ := eq_of_ofTokens hread
  · rw [hfront, List.cons_append, List.nil_append,
      hkeyword _ _ _ (Text.isWord_of_all (by decide) (by decide))]
    decide
  · rw [hfront, List.cons_append, List.cons_append,
      hkeyword _ _ _ (Text.isWord_of_all (by decide) (by decide))]
    decide

/-- Where a line with no other around it cannot be read, none was passed through before. -/
theorem SourceLine.forall_ne_other_of_resolveMarker
    {datasets : Nat} {line failing : SourceLine} {front back : List SourceLine}
    (hresolve : line.resolveMarker datasets = .ok (front ++ failing :: back)) :
    ∀ other ∈ front, Keyword.ofLine other.text ≠ .other := by
  rcases resolveMarker_cases hresolve with ⟨_, hfound⟩ | ⟨template, hread, hfound⟩
  · intro other hother
    have hlength := congrArg List.length hfound
    have hpos := List.length_pos_of_mem hother
    simp only [List.length_append, List.length_cons, List.length_nil] at hlength
    omega
  · intro other hother
    have hmem : other ∈ front ++ failing :: back := List.mem_append_left _ hother
    rw [hfound] at hmem
    obtain ⟨index, _, rfl⟩ := List.mem_map.1 hmem
    exact Template.ofLine_fill hread (index + 1)

/-! ## What a block logs -/

namespace Block

variable {datasets : Nat} {registry : Registry} {block : Block}

/-- The lines that a block stands for are resolved without a warning or an error. -/
theorem loggedAt_resolve {level : LogLevel} (hlevel : level ≠ .info) :
    Event.loggedAt level (block.resolve datasets registry).events = [] := by
  cases block with
  | list => rfl
  | plain => rfl
  | loop loop =>
      simp only [resolve, Loop.resolve]
      cases loop.values registry with
      | error error => rfl
      | ok values => simp [Event.loggedAt, Event.level, hlevel.symm]

theorem read_of_resolve_eq_ok
    {lines : List SourceLine} (hresolve : (block.resolve datasets registry).result = .ok lines) :
    (block.read datasets registry).result = lines.mapM Statement.read ∧
      ∀ level, level ≠ .info → Event.loggedAt level (block.read datasets registry).events =
        Event.loggedAt level (Statement.readAll lines).events := by
  unfold read
  simp only [hresolve]
  refine ⟨Statement.readAll_result lines, fun level hlevel => ?_⟩
  rw [Event.loggedAt_append, loggedAt_resolve hlevel, List.nil_append]

theorem read_of_resolve_eq_error
    {error : ExpandError} (hresolve : (block.resolve datasets registry).result = .error error) :
    (block.read datasets registry).result = .error error ∧
      ∀ level, level ≠ .info → Event.loggedAt level (block.read datasets registry).events = [] := by
  unfold read
  simp only [hresolve, true_and]
  exact fun level hlevel => loggedAt_resolve hlevel

/-- Only a loop can pass a line through and then come to one that cannot be read. -/
theorem exists_loop_of_passes
    {front back : List SourceLine} {failing : SourceLine}
    (hresolve : (block.resolve datasets registry).result = .ok (front ++ failing :: back))
    (hpasses : ∃ line ∈ front, Keyword.ofLine line.text = .other) :
    ∃ loop, block = .loop loop := by
  obtain ⟨line, hline, hother⟩ := hpasses
  cases block with
  | list statement =>
      have hnil := Except.ok.inj hresolve
      simp at hnil
  | plain origin =>
      exact absurd hother
        (SourceLine.forall_ne_other_of_resolveMarker hresolve line hline)
  | loop loop => exact ⟨loop, rfl⟩

end Block

/-! ## What a step logs -/

namespace Expansion

namespace Step

variable {datasets : Nat} {step : Step}

def events (datasets : Nat) (step : Step) : List Event :=
  (step.segment.run datasets step.lists).events

/-- The events of a step, and its error if that is skipped. -/
def told (datasets : Nat) (step : Step) : List Event :=
  step.events datasets ++ (step.error? datasets).toList.map .statementSkipped

/-- A loop passes a line through and then comes to one that cannot be read. -/
structure Retracts (datasets : Nat) (step : Step) (loop : Loop) (front : List SourceLine)
    (failing : SourceLine) (back : List SourceLine) : Prop where
  block_eq : step.segment.block = .ok (.loop loop)
  resolve_eq : (loop.resolve datasets step.lists).result = .ok (front ++ failing :: back)
  front_read : ∃ statements, front.mapM Statement.read = .ok statements
  failing_refused : ∃ error, Statement.read failing = .error error
  passes : ∃ line ∈ front, Keyword.ofLine line.text = .other

theorem Retracts.events_readAll_ne_nil
    {loop : Loop} {front back : List SourceLine} {failing : SourceLine}
    (hretracts : step.Retracts datasets loop front failing back) :
    (Statement.readAll (front ++ failing :: back)).events ≠ [] := by
  obtain ⟨statements, hfront⟩ := hretracts.front_read
  obtain ⟨error, hfailing⟩ := hretracts.failing_refused
  obtain ⟨line, hline, hother⟩ := hretracts.passes
  rw [Statement.events_readAll_of_error hfront hfailing]
  intro hnil
  exact (Statement.filterMap_event?_eq_nil_iff hfront).1 hnil line hline hother

/-- A step fails before any line is read, or its lines are read one after the other. -/
theorem refused_or_read (datasets : Nat) (step : Step) :
    (∃ error, step.result datasets = .error error ∧
        (∀ level, level ≠ .info → Event.loggedAt level (step.events datasets) = []) ∧
          ∀ loop lines, step.segment.block = .ok (.loop loop) →
            (loop.resolve datasets step.lists).result ≠ .ok lines) ∨
      ∃ block lists lines, step.segment.block = .ok block ∧
        (block.resolve datasets step.lists).result = .ok lines ∧
          step.result datasets =
            (lines.mapM Statement.read).map (fun statements => (lists, statements)) ∧
            ∀ level, level ≠ .info → Event.loggedAt level (step.events datasets) =
              Event.loggedAt level (Statement.readAll lines).events := by
  unfold events result Segment.run
  cases hblock : step.segment.block with
  | error error =>
      refine .inl ⟨error, rfl, fun level _ => rfl, ?_⟩
      intro loop lines hloop
      cases hloop
  | ok block =>
      simp only
      unfold Block.run
      cases hlists : block.updateLists step.lists with
      | error error =>
          refine .inl ⟨error, rfl, fun level _ => rfl, ?_⟩
          rintro loop lines hloop
          obtain rfl := Except.ok.inj hloop
          cases hlists
      | ok lists =>
          simp only
          cases hresolve : (block.resolve datasets step.lists).result with
          | error error =>
              obtain ⟨hread, hlogged⟩ := Block.read_of_resolve_eq_error hresolve
              rw [hread]
              refine .inl ⟨error, rfl, hlogged, ?_⟩
              rintro loop lines hloop hlines
              obtain rfl := Except.ok.inj hloop
              cases hresolve.symm.trans hlines
          | ok lines =>
              obtain ⟨hread, hlogged⟩ := Block.read_of_resolve_eq_ok hresolve
              rw [hread]
              exact .inr ⟨block, lists, lines, rfl, hresolve, rfl, hlogged⟩

theorem Retracts.not_succeeds
    {loop : Loop} {front back : List SourceLine} {failing : SourceLine}
    (hretracts : step.Retracts datasets loop front failing back) :
    ¬ step.succeeds datasets = true := by
  intro hsucceeds
  obtain ⟨outcome, hok⟩ := exists_result_of_succeeds hsucceeds
  rcases refused_or_read datasets step with ⟨error, hresult, _⟩ |
    ⟨block, lists, lines, hblock, hresolve, hresult, _⟩
  · cases hok.symm.trans hresult
  · obtain rfl := Except.ok.inj (hblock.symm.trans hretracts.block_eq)
    obtain rfl := Except.ok.inj (hresolve.symm.trans hretracts.resolve_eq)
    obtain ⟨statements, hread, _⟩ := map_eq_ok_iff.1 (hresult.symm.trans hok)
    obtain ⟨error, hfailing⟩ := hretracts.failing_refused
    obtain ⟨statement, _, hstatement⟩ :=
      exists_right_of_forall₂ (mapM_eq_ok_iff.1 hread) failing (by simp)
    cases hstatement.symm.trans hfailing

/-- The lines of a step are no errors in the log. -/
theorem loggedAt_error_events (datasets : Nat) (step : Step) :
    Event.loggedAt .error (step.events datasets) = [] := by
  rcases refused_or_read datasets step with ⟨_, _, hlogged, _⟩ | ⟨_, _, lines, _, _, _, hlogged⟩
  · exact hlogged .error (by decide)
  · rw [hlogged .error (by decide)]
    refine List.filter_eq_nil_iff.2 fun event hevent => ?_
    rw [Statement.level_of_mem_events_readAll hevent]
    decide

theorem loggedAt_error_told (datasets : Nat) (step : Step) :
    Event.loggedAt .error (step.told datasets) =
      (step.error? datasets).toList.map .statementSkipped := by
  rw [told, Event.loggedAt_append, loggedAt_error_events, List.nil_append]
  cases step.error? datasets <;> rfl

theorem loggedAt_warning_told (datasets : Nat) (step : Step) :
    Event.loggedAt .warning (step.told datasets) =
      Event.loggedAt .warning (step.events datasets) := by
  rw [told, Event.loggedAt_append]
  cases step.error? datasets <;> exact List.append_nil _

/-- The warnings of a step are about the lines that it passes through, and about others only if it
is a loop that fails behind them. -/
theorem loggedAt_warning_events (datasets : Nat) (step : Step) :
    ((step.statements datasets).filterMap Statement.event?).Sublist
        (Event.loggedAt .warning (step.events datasets)) ∧
      ((step.statements datasets).filterMap Statement.event? =
          Event.loggedAt .warning (step.events datasets) ↔
        ¬ ∃ loop front failing back, step.Retracts datasets loop front failing back) := by
  rcases refused_or_read datasets step with ⟨error, hresult, hlogged, hresolve⟩ |
    ⟨block, lists, lines, hblock, hresolve, hresult, hlogged⟩
  · have hnone : ¬ ∃ loop front failing back, step.Retracts datasets loop front failing back := by
      rintro ⟨loop, front, failing, back, hretracts⟩
      exact hresolve loop _ hretracts.block_eq hretracts.resolve_eq
    rw [hlogged .warning (by decide), statements, hresult]
    exact ⟨List.Sublist.refl [], iff_of_true rfl hnone⟩
  · rw [hlogged .warning (by decide), Statement.loggedAt_events_readAll, statements, hresult]
    cases hread : lines.mapM Statement.read with
    | ok found =>
        have hnone : ¬ ∃ loop front failing back,
            step.Retracts datasets loop front failing back := by
          rintro ⟨loop, front, failing, back, hretracts⟩
          have hfails := hretracts.not_succeeds
          rw [succeeds, error?, hresult, hread] at hfails
          exact hfails rfl
        rw [Statement.events_readAll_of_ok hread]
        exact ⟨List.Sublist.refl _, iff_of_true rfl hnone⟩
    | error error =>
        obtain ⟨front, failing, back, found, rfl, hfront, hfailing⟩ :=
          exists_front_of_mapM_eq_error hread
        refine ⟨List.nil_sublist _, ?_⟩
        constructor
        · rintro hnil ⟨loop, others, other, rest, hretracts⟩
          obtain rfl := Except.ok.inj (hblock.symm.trans hretracts.block_eq)
          have hlines := Except.ok.inj (hresolve.symm.trans hretracts.resolve_eq)
          rw [hlines] at hnil
          exact hretracts.events_readAll_ne_nil hnil.symm
        · intro hnone
          rw [Statement.events_readAll_of_error hfront hfailing]
          refine Eq.symm ((Statement.filterMap_event?_eq_nil_iff hfront).2 ?_)
          intro line hline hother
          obtain ⟨loop, rfl⟩ := Block.exists_loop_of_passes hresolve ⟨line, hline, hother⟩
          exact hnone ⟨loop, front, failing, back, hblock, hresolve, ⟨found, hfront⟩,
            ⟨error, hfailing⟩, line, hline, hother⟩

end Step

/-! ## What a run logs -/

/-- A run that comes to a result has told all that its steps tell, and has kept their errors. -/
theorem events_ofSegments
    {options : Options} {registry : Registry} {list : List Segment} {expansion : Expansion}
    (hrun : (ofSegments options registry list).result = .ok expansion) :
    (ofSegments options registry list).events =
        (steps options.datasets registry list).flatMap (Step.told options.datasets) ∧
      expansion.skipped = errorsOf options.datasets (steps options.datasets registry list) := by
  induction list generalizing registry expansion with
  | nil =>
      obtain rfl := Except.ok.inj hrun
      exact ⟨rfl, rfl⟩
  | cons segment rest ih =>
      unfold ofSegments at hrun ⊢
      simp only [steps, errorsOf, List.flatMap_cons, List.filterMap_cons, Step.told, Step.events,
        Step.error?, Step.result]
      cases hfirst : (segment.run options.datasets registry).result with
      | ok outcome =>
          obtain ⟨lists, statements⟩ := outcome
          have hlists : segment.listsAfter options.datasets registry = lists := by
            rw [Segment.listsAfter, hfirst]
          simp only [hfirst] at hrun ⊢
          obtain ⟨others, hothers, rfl⟩ := map_eq_ok_iff.1 hrun
          obtain ⟨hevents, hskipped⟩ := ih hothers
          rw [hlists, hevents, Option.toList_none, List.map_nil, List.append_nil]
          exact ⟨rfl, hskipped⟩
      | error error =>
          have hlists : segment.listsAfter options.datasets registry = registry := by
            rw [Segment.listsAfter, hfirst]
          simp only [hfirst] at hrun ⊢
          cases hpolicy : options.onError with
          | abort => simp [hpolicy] at hrun
          | skip =>
              simp only [hpolicy] at hrun ⊢
              obtain ⟨others, hothers, rfl⟩ := map_eq_ok_iff.1 hrun
              obtain ⟨hevents, hskipped⟩ := ih hothers
              rw [hlists, hevents]
              refine ⟨?_, congrArg (error :: ·) hskipped⟩
              rw [Option.toList_some, List.map_singleton, List.append_assoc, List.singleton_append]

theorem succeeds_of_abort
    {options : Options} {registry : Registry} {list : List Segment} {expansion : Expansion}
    (hpolicy : options.onError = .abort)
    (hrun : (ofSegments options registry list).result = .ok expansion) :
    ∀ step ∈ steps options.datasets registry list, step.succeeds options.datasets = true := by
  obtain ⟨datasets, policy⟩ := options
  obtain rfl : policy = .abort := hpolicy
  rw [ofSegments_abort, unlessError_eq_ok_iff] at hrun
  intro step hstep
  have hnone := List.filterMap_eq_nil_iff.1 hrun.1 step hstep
  exact Option.isNone_iff_eq_none.2 hnone

/-- The log of an expansion that comes to a result.  Its errors are the skipped ones, and its
warnings hold those about the lines that the result passes through, all in order.  There are no
other warnings exactly if no loop passed a line through and failed behind it, and under `abort`
there are none. -/
theorem log_of_ofLines
    {options : Options} {lines : List SourceLine} {expansion : Expansion}
    (hrun : (ofLines options lines).result = .ok expansion) :
    Event.loggedAt .error (ofLines options lines).events =
        expansion.skipped.map .statementSkipped ∧
      (expansion.statements.filterMap Statement.event?).Sublist
        (Event.loggedAt .warning (ofLines options lines).events) ∧
      (expansion.statements.filterMap Statement.event? =
          Event.loggedAt .warning (ofLines options lines).events ↔
        ¬ ∃ step ∈ steps options.datasets .empty (segments lines),
          ∃ loop front failing back,
            step.Retracts options.datasets loop front failing back) ∧
      (options.onError = .abort →
        expansion.statements.filterMap Statement.event? =
          Event.loggedAt .warning (ofLines options lines).events) := by
  obtain ⟨hevents, hskipped⟩ := events_ofSegments hrun
  obtain ⟨hstatements, _⟩ := eq_of_ofSegments_eq_ok hrun
  have hevents : (ofLines options lines).events = _ := hevents
  rw [hevents, hskipped, hstatements, Event.loggedAt_flatMap, Event.loggedAt_flatMap,
    statementsOf, List.filterMap_flatMap]
  simp only [Step.loggedAt_error_told, Step.loggedAt_warning_told]
  obtain ⟨hsublist, hiff⟩ := flatMap_sublist_and_eq_iff
    fun step (_ : step ∈ steps options.datasets .empty (segments lines)) =>
      (step.loggedAt_warning_events options.datasets).1
  rw [hiff]
  refine ⟨?_, hsublist, ?_, ?_⟩
  · rw [errorsOf, List.filterMap_eq_flatMap_toList, List.map_flatMap]
  · simp only [Step.loggedAt_warning_events, not_exists, not_and]
  · intro hpolicy step hstep
    refine (step.loggedAt_warning_events options.datasets).2.2 ?_
    rintro ⟨loop, front, failing, back, hretracts⟩
    exact hretracts.not_succeeds (succeeds_of_abort hpolicy hrun step hstep)

/-- A title in a loop, and a line behind it that cannot be read. -/
def titleBeforeError : List SourceLine :=
  Loop.lines 1 ['X'] "RANGE(1,1)".toList
    [⟨2, "TITLE $X".toList⟩, ⟨3, "ADD".toList⟩] ⟨4, "NEXT".toList⟩

theorem segments_titleBeforeError :
    segments titleBeforeError =
      [⟨titleBeforeError, .ok (.loop ⟨1, ['X'], .range [['1']],
        [⟨2, "TITLE $X".toList⟩, ⟨3, "ADD".toList⟩]⟩)⟩] := by
  have hkeeps : ∀ line ∈ [SourceLine.mk 2 "TITLE $X".toList, ⟨3, "ADD".toList⟩],
      line.KeepsDepth := by
    intro line hline
    rw [List.mem_pair] at hline
    rcases hline with rfl | rfl <;> exact ⟨by decide, by decide⟩
  exact segments_loopLines (by decide +kernel) hkeeps (by decide) 1

theorem ofLines_titleBeforeError :
    (ofLines ⟨1, .skip⟩ titleBeforeError).result =
        .ok { statements := [], skipped := [.ofFault 3 (.addition [])], lists := .empty } ∧
      (ofLines ⟨1, .skip⟩ titleBeforeError).events =
        [.loop 1 ['X'] 1 2, .passedThrough 2 "TITLE 1".toList,
          .statementSkipped (.ofFault 3 (.addition []))] := by
  unfold ofLines
  rw [segments_titleBeforeError]
  constructor <;> decide +kernel

theorem log_of_ofLines_titleBeforeError :
    Event.loggedAt .error (ofLines ⟨1, .skip⟩ titleBeforeError).events =
        [.statementSkipped (.ofFault 3 (.addition []))] ∧
      ∃ step ∈ steps 1 .empty (segments titleBeforeError), ∃ loop front failing back,
        step.Retracts 1 loop front failing back := by
  obtain ⟨hresult, hevents⟩ := ofLines_titleBeforeError
  obtain ⟨herrors, _, hiff, _⟩ := log_of_ofLines hresult
  refine ⟨herrors, ?_⟩
  by_contra hnone
  have hsame := hiff.2 hnone
  rw [hevents] at hsame
  cases hsame

/-- A line of the log need not be passed through in the result. -/
theorem not_forall_warning_of_statement :
    ¬ ∀ (options : Options) (lines : List SourceLine) (expansion : Expansion),
      (ofLines options lines).result = .ok expansion →
        Event.loggedAt .warning (ofLines options lines).events =
          expansion.statements.filterMap Statement.event? := by
  intro hall
  obtain ⟨hresult, hevents⟩ := ofLines_titleBeforeError
  have hsame := hall _ _ _ hresult
  rw [hevents] at hsame
  cases hsame

end Expansion

end ChartScript
