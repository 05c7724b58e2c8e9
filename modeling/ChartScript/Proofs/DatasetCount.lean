import ChartScript.Proofs.DatasetNumbers
import ChartScript.Proofs.ExpansionSteps
import ChartScript.Proofs.RunComposition

/-!
# Runs with fewer datasets

The number of loaded datasets decides how often a line with a marker is written, and nothing
else.  To say which statements a run with fewer datasets leaves out, the lines and the
statements of a run are kept together with the dataset that their marker was filled with.
The run that keeps them is the run itself, as `map_value_readFilled` states.

With at least one dataset both runs fail alike: the line for the first dataset comes first,
and no other dataset can fail where the first one does not.
-/

namespace ChartScript

/-- A line or a statement, and the dataset that its marker was filled with, if there is one. -/
structure Filled (α : Type) where
  dataset? : Option Nat
  value : α
  deriving DecidableEq

namespace Filled

variable {α β ε : Type}

def map (f : α → β) (x : Filled α) : Filled β := ⟨x.dataset?, f x.value⟩

def read (f : α → Except ε β) (x : Filled α) : Except ε (Filled β) :=
  (f x.value).map (Filled.mk x.dataset?)

/-- The dataset is none above `n`. -/
def isUpTo (n : Nat) (x : Filled α) : Bool := x.dataset?.all (· ≤ n)

def upTo (n : Nat) (list : List (Filled α)) : List (Filled α) := list.filter (isUpTo n)

theorem upTo_append (n : Nat) (first second : List (Filled α)) :
    upTo n (first ++ second) = upTo n first ++ upTo n second :=
  List.filter_append first second

theorem upTo_flatMap (n : Nat) (list : List α) (f : α → List (Filled β)) :
    upTo n (list.flatMap f) = list.flatMap fun x => upTo n (f x) :=
  List.filter_flatMap

theorem upTo_map (n : Nat) (f : α → β) (list : List (Filled α)) :
    upTo n (list.map (map f)) = (upTo n list).map (map f) :=
  List.filter_map

theorem map_value_mapM_read (f : α → Except ε β) (list : List (Filled α)) :
    (list.mapM (read f)).map (List.map value) = (list.map value).mapM f := by
  induction list with
  | nil => rfl
  | cons x rest ih =>
      simp only [List.mapM_cons, List.map_cons, ← ih, read]
      cases f x.value with
      | error error => rfl
      | ok found => cases rest.mapM (read f) <;> rfl

theorem isUpTo_of_read
    {f : α → Except ε β} {x : Filled α} {found : Filled β} (hread : read f x = .ok found)
    (n : Nat) : found.isUpTo n = x.isUpTo n := by
  obtain ⟨value, _, rfl⟩ := map_eq_ok_iff.1 hread
  rfl

end Filled

open Filled (upTo)

theorem filter_range {n m : Nat} (hle : n ≤ m) :
    (List.range m).filter (fun index => decide (index + 1 ≤ n)) = List.range n := by
  obtain ⟨more, rfl⟩ := Nat.exists_eq_add_of_le hle
  rw [List.range_add, List.filter_append]
  have hfirst : (List.range n).filter (fun index => decide (index + 1 ≤ n)) = List.range n := by
    rw [List.filter_eq_self]
    intro index hindex
    exact decide_eq_true (List.mem_range.1 hindex)
  have hsecond : ((List.range more).map (n + ·)).filter (fun index => decide (index + 1 ≤ n)) =
      [] := by
    rw [List.filter_eq_nil_iff]
    intro index hindex
    obtain ⟨k, _, rfl⟩ := List.mem_map.1 hindex
    rw [decide_eq_true_eq]
    omega
  rw [hfirst, hsecond, List.append_nil]

/-! ## Lines with the dataset of their marker -/

namespace SourceLine

/-- The lines that a line stands for, each with the dataset that it is for. -/
def fillMarker (datasets : Nat) (line : SourceLine) :
    Except ExpandError (List (Filled SourceLine)) :=
  match Template.ofTokens (Text.tokens .blanks line.text) with
  | .error fault => .error (.ofFault line.number fault)
  | .ok none => .ok [⟨none, line⟩]
  | .ok (some template) =>
    .ok ((List.range datasets).map fun index =>
      ⟨some (index + 1), { line with text := template.fill (index + 1) }⟩)

def fillMarkers (datasets : Nat) (lines : List SourceLine) :
    Except ExpandError (List (Filled SourceLine)) :=
  (lines.mapM (fillMarker datasets)).map List.flatten

theorem map_value_fillMarker (datasets : Nat) (line : SourceLine) :
    line.resolveMarker datasets = (line.fillMarker datasets).map (List.map Filled.value) := by
  unfold fillMarker resolveMarker
  cases Template.ofTokens (Text.tokens .blanks line.text) with
  | error fault => rfl
  | ok template? =>
      cases template? with
      | none => rfl
      | some template =>
          simp only [Except.map, List.map_map]
          rfl

theorem fillMarker_upTo {n m : Nat} (hle : n ≤ m) (line : SourceLine) :
    line.fillMarker n = (line.fillMarker m).map (upTo n) := by
  unfold fillMarker
  cases Template.ofTokens (Text.tokens .blanks line.text) with
  | error fault => rfl
  | ok template? =>
      cases template? with
      | none => rfl
      | some template =>
          simp only [Except.map, upTo, List.filter_map]
          rw [← filter_range hle]
          rfl

theorem map_value_fillMarkers (datasets : Nat) (lines : List SourceLine) :
    resolveMarkers datasets lines = (fillMarkers datasets lines).map (List.map Filled.value) :=
  flatten_mapM_congr rfl (fun _ _ => List.map_append) (map_value_fillMarker datasets) lines

theorem fillMarkers_upTo {n m : Nat} (hle : n ≤ m) (lines : List SourceLine) :
    fillMarkers n lines = (fillMarkers m lines).map (upTo n) :=
  flatten_mapM_congr rfl (Filled.upTo_append n) (fillMarker_upTo hle) lines

end SourceLine

namespace Block

/-- The lines that a block stands for, each with the dataset of its marker. -/
def fill (datasets : Nat) (registry : Registry) :
    Block → Except ExpandError (List (Filled SourceLine))
  | .list _ => .ok []
  | .plain line => line.fillMarker datasets
  | .loop block =>
    block.values registry >>= fun values =>
      (SourceLine.fillMarkers datasets block.body).map fun lines =>
        values.flatMap fun value => lines.map (Filled.map (Loop.instantiate block.var value))

def readFilled (datasets : Nat) (registry : Registry) (block : Block) :
    Except ExpandError (List (Filled Statement)) :=
  block.fill datasets registry >>= List.mapM (Filled.read Statement.read)

theorem map_value_fill (datasets : Nat) (registry : Registry) (block : Block) :
    (block.resolve datasets registry).result =
      (block.fill datasets registry).map (List.map Filled.value) := by
  cases block with
  | list statement => rfl
  | plain line => exact SourceLine.map_value_fillMarker datasets line
  | loop block =>
      unfold resolve Loop.resolve fill
      dsimp only
      cases block.values registry with
      | error error => rfl
      | ok values =>
          simp only [Loop.unroll, SourceLine.map_value_fillMarkers, bind, Except.bind]
          cases SourceLine.fillMarkers datasets block.body with
          | error error => rfl
          | ok lines =>
              simp only [Except.map, List.map_flatMap, List.map_map]
              rfl

theorem map_value_readFilled (datasets : Nat) (registry : Registry) (block : Block) :
    (block.read datasets registry).result =
      (block.readFilled datasets registry).map (List.map Filled.value) := by
  have hresolve := block.map_value_fill datasets registry
  unfold read readFilled
  cases hfill : block.fill datasets registry with
  | error error =>
      rw [hfill] at hresolve
      simp only [hresolve]
      rfl
  | ok lines =>
      rw [hfill] at hresolve
      simp only [hresolve, Except.map, Statement.readAll_result]
      exact (Filled.map_value_mapM_read Statement.read lines).symm

theorem fill_upTo {n m : Nat} (hle : n ≤ m) (registry : Registry) (block : Block) :
    block.fill n registry = (block.fill m registry).map (upTo n) := by
  cases block with
  | list statement => rfl
  | plain line => exact SourceLine.fillMarker_upTo hle line
  | loop block =>
      unfold fill
      simp only [SourceLine.fillMarkers_upTo hle]
      cases block.values registry with
      | error error => rfl
      | ok values =>
          cases SourceLine.fillMarkers m block.body with
          | error error => rfl
          | ok lines =>
              simp only [bind, Except.bind, Except.map, Filled.upTo_flatMap, Filled.upTo_map]

end Block

/-! ## Reading them -/

/-- Reading the lines and leaving some out comes to the same as leaving some out and reading
the lines. -/
def ReadsUpTo (n : Nat) (lines : List (Filled SourceLine)) : Prop :=
  (upTo n lines).mapM (Filled.read Statement.read) =
    (lines.mapM (Filled.read Statement.read)).map (upTo n)

namespace ReadsUpTo

variable {n : Nat}

theorem append
    {first second : List (Filled SourceLine)} (hfirst : ReadsUpTo n first)
    (hsecond : ReadsUpTo n second) : ReadsUpTo n (first ++ second) := by
  unfold ReadsUpTo at hfirst hsecond ⊢
  rw [Filled.upTo_append, List.mapM_append, List.mapM_append, hfirst, hsecond]
  cases first.mapM (Filled.read Statement.read) with
  | error error => rfl
  | ok found =>
      cases second.mapM (Filled.read Statement.read) with
      | error error => rfl
      | ok others => simp [bind, Except.bind, Except.map, pure, Except.pure, Filled.upTo_append]

theorem flatMap
    {α : Type} {list : List α} {lines : α → List (Filled SourceLine)}
    (hlines : ∀ x ∈ list, ReadsUpTo n (lines x)) : ReadsUpTo n (list.flatMap lines) := by
  induction list with
  | nil => rfl
  | cons x rest ih =>
      have hrest := ih fun other hother => hlines other (List.mem_cons_of_mem x hother)
      rw [List.flatMap_cons]
      exact (hlines x List.mem_cons_self).append hrest

/-- Leaving lines out does not matter where all of them can be read. -/
theorem of_forall
    {lines : List (Filled SourceLine)}
    (hlines : ∀ line ∈ lines, ∃ statement, Statement.read line.value = .ok statement) :
    ReadsUpTo n lines := by
  induction lines with
  | nil => rfl
  | cons line lines ih =>
      have hrest := ih fun other hother => hlines other (List.mem_cons_of_mem line hother)
      obtain ⟨statement, hstatement⟩ := hlines line List.mem_cons_self
      have hread : Filled.read Statement.read line = .ok ⟨line.dataset?, statement⟩ :=
        map_eq_ok_iff.2 ⟨statement, hstatement, rfl⟩
      have hfirst : ReadsUpTo n [line] := by
        unfold ReadsUpTo upTo
        by_cases hline : line.isUpTo n = true
        · have hfound := (Filled.isUpTo_of_read hread n).trans hline
          rw [List.filter_cons_of_pos hline]
          simp [hread, hfound, Except.map, pure, Except.pure, bind, Except.bind]
        · have hfound : ¬ Filled.isUpTo n ⟨line.dataset?, statement⟩ = true := hline
          rw [List.filter_cons_of_neg hline]
          simp [hread, hfound, Except.map, pure, Except.pure, bind, Except.bind]
      exact hfirst.append hrest

/-- Leaving lines out does not matter either where the first one is kept and cannot be
read. -/
theorem of_error
    {line : Filled SourceLine} {error : ExpandError} (hkept : line.isUpTo n = true)
    (hread : Statement.read line.value = .error error) (lines : List (Filled SourceLine)) :
    ReadsUpTo n (line :: lines) := by
  unfold ReadsUpTo upTo
  rw [List.filter_cons_of_pos hkept, List.mapM_cons, List.mapM_cons]
  unfold Filled.read
  rw [hread]
  rfl

theorem of_surrounds
    (hpos : 1 ≤ n) {m : Nat} (hlimit : m < Decimal.wordLimit)
    {front back : Text} (hsurrounds : Template.Surrounds front back) (number : Nat) :
    ReadsUpTo n ((List.range m).map fun index =>
      ⟨some (index + 1), ⟨number, front ++ (Decimal.ofNat (index + 1) ++ back)⟩⟩) := by
  cases hfirst : Statement.read ⟨number, front ++ (Decimal.ofNat 1 ++ back)⟩ with
  | ok statement =>
      apply of_forall
      intro line hline
      obtain ⟨index, hindex, rfl⟩ := List.mem_map.1 hline
      have hlt := List.mem_range.1 hindex
      exact hsurrounds.exists_read (by decide) (by omega) hfirst
  | error error =>
      cases m with
      | zero => rfl
      | succ m =>
          rw [List.range_succ_eq_map, List.map_cons]
          refine of_error ?_ hfirst _
          exact decide_eq_true hpos

theorem of_unmarked (line : SourceLine) : ReadsUpTo n [⟨none, line⟩] := by
  cases hread : Statement.read line with
  | error error => exact of_error rfl hread []
  | ok statement =>
      apply of_forall
      intro other hother
      obtain rfl := List.mem_singleton.1 hother
      exact ⟨statement, hread⟩

end ReadsUpTo

namespace SourceLine

variable {n m : Nat} (hpos : 1 ≤ n) (hlimit : m < Decimal.wordLimit)

include hpos hlimit

theorem readsUpTo_fillMarker
    {line : SourceLine} {found : List (Filled SourceLine)}
    (hfill : line.fillMarker m = .ok found) :
    ReadsUpTo n found ∧
      ∀ var value, ReadsUpTo n (found.map (Filled.map (Loop.instantiate var value))) := by
  unfold fillMarker at hfill
  split at hfill
  · cases hfill
  · obtain rfl := Except.ok.inj hfill
    exact ⟨.of_unmarked line, fun var value => .of_unmarked (Loop.instantiate var value line)⟩
  · next template htemplate =>
      obtain ⟨front, back, hsurrounds, htext⟩ := Template.surrounds_of_ofTokens htemplate
      simp only [htext] at hfill
      obtain rfl := Except.ok.inj hfill
      refine ⟨.of_surrounds hpos hlimit hsurrounds line.number, ?_⟩
      intro var value
      obtain ⟨other, hother, hput⟩ := hsurrounds.instantiate_eq var value
      rw [List.map_map]
      simp only [Function.comp_def, Filled.map, hput]
      exact .of_surrounds hpos hlimit hother line.number

theorem readsUpTo_fillMarkers
    {lines : List SourceLine} {found : List (Filled SourceLine)}
    (hfill : fillMarkers m lines = .ok found) (var value : Text) :
    ReadsUpTo n (found.map (Filled.map (Loop.instantiate var value))) := by
  obtain ⟨groups, hgroups, rfl⟩ := map_eq_ok_iff.1 hfill
  rw [List.map_flatten, ← List.flatMap_def]
  apply ReadsUpTo.flatMap
  intro group hgroup
  obtain ⟨line, _, hline⟩ := exists_left_of_forall₂ (mapM_eq_ok_iff.1 hgroups) group hgroup
  exact (readsUpTo_fillMarker hpos hlimit hline).2 var value

end SourceLine

namespace Block

variable {n m : Nat} (hpos : 1 ≤ n) (hle : n ≤ m) (hlimit : m < Decimal.wordLimit)

include hpos hlimit

theorem readsUpTo_fill
    {registry : Registry} {block : Block} {lines : List (Filled SourceLine)}
    (hfill : block.fill m registry = .ok lines) : ReadsUpTo n lines := by
  cases block with
  | list statement =>
      obtain rfl := Except.ok.inj hfill
      rfl
  | plain line => exact (SourceLine.readsUpTo_fillMarker hpos hlimit hfill).1
  | loop block =>
      obtain ⟨values, _, hbody⟩ := bind_eq_ok_iff.1 hfill
      obtain ⟨found, hfound, rfl⟩ := map_eq_ok_iff.1 hbody
      apply ReadsUpTo.flatMap
      intro value _
      exact SourceLine.readsUpTo_fillMarkers hpos hlimit hfound block.var value

include hle

/-- With fewer datasets a block fails alike, or the statements for the others are missing. -/
theorem readFilled_upTo (registry : Registry) (block : Block) :
    block.readFilled n registry = (block.readFilled m registry).map (upTo n) := by
  unfold readFilled
  rw [block.fill_upTo hle registry]
  cases hfill : block.fill m registry with
  | error error => rfl
  | ok lines => exact readsUpTo_fill hpos hlimit hfill

end Block

/-! ## Whole runs -/

namespace Segment

def runFilled (datasets : Nat) (registry : Registry) (segment : Segment) :
    Except ExpandError (Registry × List (Filled Statement)) :=
  segment.block >>= fun block =>
    block.updateLists registry >>= fun lists =>
      (block.readFilled datasets registry).map fun statements => (lists, statements)

theorem run_eq_map_runFilled (datasets : Nat) (registry : Registry) (segment : Segment) :
    (segment.run datasets registry).result =
      (segment.runFilled datasets registry).map fun found =>
        (found.1, found.2.map Filled.value) := by
  unfold run runFilled Block.run
  cases segment.block with
  | error error => rfl
  | ok block =>
      simp only [bind, Except.bind]
      cases block.updateLists registry with
      | error error => rfl
      | ok lists =>
          simp only [Block.map_value_readFilled]
          cases block.readFilled datasets registry <;> rfl

variable {n m : Nat} (hpos : 1 ≤ n) (hle : n ≤ m) (hlimit : m < Decimal.wordLimit)

include hpos hle hlimit

theorem runFilled_upTo (registry : Registry) (segment : Segment) :
    segment.runFilled n registry =
      (segment.runFilled m registry).map fun found => (found.1, upTo n found.2) := by
  unfold runFilled
  cases segment.block with
  | error error => rfl
  | ok block =>
      simp only [bind, Except.bind, Block.readFilled_upTo hpos hle hlimit registry block]
      cases block.updateLists registry with
      | error error => rfl
      | ok lists => cases block.readFilled m registry <;> rfl

theorem listsAfter_eq (registry : Registry) (segment : Segment) :
    segment.listsAfter n registry = segment.listsAfter m registry := by
  unfold listsAfter
  rw [run_eq_map_runFilled, run_eq_map_runFilled, runFilled_upTo hpos hle hlimit]
  cases segment.runFilled m registry <;> rfl

end Segment

namespace Expansion

def Step.filledStatements (datasets : Nat) (step : Step) : List (Filled Statement) :=
  match step.segment.runFilled datasets step.lists with
  | .ok (_, statements) => statements
  | .error _ => []

theorem Step.statements_eq_map_value (datasets : Nat) (step : Step) :
    step.statements datasets = (step.filledStatements datasets).map Filled.value := by
  unfold statements filledStatements result
  rw [Segment.run_eq_map_runFilled]
  cases step.segment.runFilled datasets step.lists <;> rfl

/-- The statements of a file, each with the dataset that its marker was filled with. -/
def filledStatements (datasets : Nat) (lines : List SourceLine) : List (Filled Statement) :=
  (steps datasets .empty (segments lines)).flatMap (Step.filledStatements datasets)

theorem statementsOf_eq_map_value (datasets : Nat) (lines : List SourceLine) :
    statementsOf datasets (steps datasets .empty (segments lines)) =
      (filledStatements datasets lines).map Filled.value := by
  unfold statementsOf filledStatements
  rw [List.map_flatMap]
  apply List.flatMap_congr
  intro step _
  exact step.statements_eq_map_value datasets

section

variable {n m : Nat} (hpos : 1 ≤ n) (hle : n ≤ m) (hlimit : m < Decimal.wordLimit)

include hpos hle hlimit

theorem Step.filledStatements_upTo (step : Step) :
    step.filledStatements n = upTo n (step.filledStatements m) := by
  unfold filledStatements
  rw [Segment.runFilled_upTo hpos hle hlimit]
  cases step.segment.runFilled m step.lists <;> rfl

theorem Step.error?_eq (step : Step) : step.error? n = step.error? m := by
  unfold error? result
  rw [Segment.run_eq_map_runFilled, Segment.run_eq_map_runFilled,
    Segment.runFilled_upTo hpos hle hlimit]
  cases step.segment.runFilled m step.lists <;> rfl

theorem steps_eq (registry : Registry) (list : List Segment) :
    steps n registry list = steps m registry list := by
  induction list generalizing registry with
  | nil => rfl
  | cons segment rest ih =>
      unfold steps
      rw [Segment.listsAfter_eq hpos hle hlimit, ih]

theorem listsAfter_eq (registry : Registry) (list : List Segment) :
    listsAfter n registry list = listsAfter m registry list := by
  unfold listsAfter
  congr 1
  funext registry segment
  exact segment.listsAfter_eq hpos hle hlimit registry

theorem errorsOf_eq (lines : List SourceLine) :
    errorsOf n (steps n .empty (segments lines)) =
      errorsOf m (steps m .empty (segments lines)) := by
  unfold errorsOf
  rw [steps_eq hpos hle hlimit]
  congr 1
  funext step
  exact step.error?_eq hpos hle hlimit

theorem filledStatements_upTo (lines : List SourceLine) :
    filledStatements n lines = upTo n (filledStatements m lines) := by
  unfold filledStatements
  rw [steps_eq hpos hle hlimit, Filled.upTo_flatMap]
  apply List.flatMap_congr
  intro step _
  exact step.filledStatements_upTo hpos hle hlimit

end

/-- A run with fewer datasets, and at least one, fails like the run with more, or it leaves out
just the statements that a marker gave for the others. -/
theorem ofLines_datasets
    {n m : Nat} (hpos : 1 ≤ n) (hle : n ≤ m) (hlimit : m < Decimal.wordLimit)
    (policy : ErrorPolicy) (lines : List SourceLine) :
    (∃ error, (ofLines ⟨n, policy⟩ lines).result = .error error ∧
      (ofLines ⟨m, policy⟩ lines).result = .error error) ∨
    ∃ fewer more, (ofLines ⟨n, policy⟩ lines).result = .ok fewer ∧
      (ofLines ⟨m, policy⟩ lines).result = .ok more ∧
      fewer.skipped = more.skipped ∧ fewer.lists = more.lists ∧
      more.statements = (filledStatements m lines).map Filled.value ∧
      fewer.statements =
        ((filledStatements m lines).filter (Filled.isUpTo n)).map Filled.value := by
  have hstatements := statementsOf_eq_map_value n lines
  rw [filledStatements_upTo hpos hle hlimit] at hstatements
  have herrors := errorsOf_eq hpos hle hlimit lines
  have hlists := listsAfter_eq hpos hle hlimit .empty (segments lines)
  unfold ofLines
  cases policy with
  | skip =>
      rw [ofSegments_skip, ofSegments_skip]
      exact .inr ⟨_, _, rfl, rfl, herrors, hlists, statementsOf_eq_map_value m lines, hstatements⟩
  | abort =>
      rw [ofSegments_abort, ofSegments_abort, herrors]
      cases errorsOf m (steps m .empty (segments lines)) with
      | cons error errors => exact .inl ⟨error, rfl, rfl⟩
      | nil =>
          exact .inr ⟨_, _, rfl, rfl, rfl, hlists, statementsOf_eq_map_value m lines, hstatements⟩

/-- A series for every dataset and a chart, in a loop. -/
def chartLoop : List SourceLine :=
  [⟨1, "FOR k IN RANGE(7,7)".toList⟩, ⟨2, "ADD SERIES * q$k".toList⟩, ⟨3, "ADD CHART".toList⟩,
    ⟨4, "NEXT".toList⟩]

theorem ofLines_datasets_chartLoop :
    (1 ≤ 1 ∧ 1 ≤ 2 ∧ 2 < Decimal.wordLimit) ∧
      filledStatements 2 chartLoop =
        [⟨some 1, ⟨2, .addSeries 1 ['q', '7'] none⟩⟩,
          ⟨some 2, ⟨2, .addSeries 2 ['q', '7'] none⟩⟩, ⟨none, ⟨3, .addChart⟩⟩] ∧
      ∃ fewer more, (ofLines ⟨1, .abort⟩ chartLoop).result = .ok fewer ∧
        (ofLines ⟨2, .abort⟩ chartLoop).result = .ok more ∧
        fewer.skipped = more.skipped ∧ fewer.lists = more.lists ∧
        more.statements = (filledStatements 2 chartLoop).map Filled.value ∧
        fewer.statements = ((filledStatements 2 chartLoop).filter (Filled.isUpTo 1)).map
          Filled.value := by
  have hlimit : 2 < Decimal.wordLimit := by decide
  have hrun : (ofLines ⟨1, .abort⟩ chartLoop).result.isOk = true := by decide +kernel
  refine ⟨⟨le_refl 1, by decide, hlimit⟩, by decide +kernel, ?_⟩
  rcases ofLines_datasets (le_refl 1) (by decide) hlimit .abort chartLoop with
    ⟨error, herror, _⟩ | hruns
  · rw [herror] at hrun
    cases hrun
  · exact hruns

end Expansion

end ChartScript
