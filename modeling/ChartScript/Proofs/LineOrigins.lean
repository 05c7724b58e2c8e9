import ChartScript.Proofs.ExpansionSteps
import ChartScript.Proofs.Outcomes
import ChartScript.Proofs.SourceLines

/-!
# Where the lines of an expansion come from

Every line that is read as a directive stems from a line of the segment that is being
expanded.  It keeps the number of that line, and its characters are those of the line, those
of the loop value put in, and the few characters that numbers and joined tokens are written
with.  The statements of a step are these lines, each read by itself.
-/

namespace ChartScript

/-- The characters that expansion writes on its own account. -/
def isWritten (c : Char) : Bool := c.isDigit || c == '-' || c == ' '

theorem isWritten_of_mem_ofNat {n : Nat} {c : Char} (hc : c ∈ Decimal.ofNat n) :
    isWritten c = true := by
  have hdigit := Decimal.isDigit_of_mem_ofNat hc
  simp [isWritten, hdigit]

theorem isWritten_of_mem_ofInt {n : Int} {c : Char} (hc : c ∈ Decimal.ofInt n) :
    isWritten c = true := by
  rcases Decimal.isDigit_or_minus_of_mem_ofInt hc with hdigit | rfl
  · simp [isWritten, hdigit]
  · decide

namespace SourceLine

/-- A line that a line of the file gives rise to, with some values put in. -/
structure StemsFrom (values : List Text) (origin line : SourceLine) : Prop where
  number_eq : line.number = origin.number
  mem_text : ∀ c ∈ line.text,
    c ∈ origin.text ∨ isWritten c = true ∨ ∃ value ∈ values, c ∈ value

theorem StemsFrom.refl (values : List Text) (line : SourceLine) : StemsFrom values line line :=
  ⟨rfl, fun _ hc => .inl hc⟩

end SourceLine

/-! ## Markers -/

namespace Template

theorem eq_of_ofDefineTokens
    {tokens : List Text} {template : Template}
    (hread : ofDefineTokens tokens = .ok (some template)) :
    (template.front = [Definition.keyword] ∧ ∃ name, template.suffix = ':' :: name) ∧
      ∃ c, isMarker c = true ∧ tokens = (c :: template.suffix) :: template.rest := by
  unfold ofDefineTokens at hread
  split at hread
  · split at hread
    · next hmarker =>
        split at hread
        · obtain rfl := Option.some.inj (Except.ok.inj hread)
          exact ⟨⟨rfl, _, rfl⟩, _, hmarker, rfl⟩
        · cases hread
    · cases hread
  · cases hread

theorem eq_of_ofSeriesTokens
    {tokens : List Text} {template : Template}
    (hread : ofSeriesTokens tokens = some template) :
    (template.front = [Directive.addWord, Directive.seriesWord] ∧ template.suffix = []) ∧
      ∃ c, isMarker c = true ∧ tokens = (c :: template.suffix) :: template.rest := by
  unfold ofSeriesTokens at hread
  split at hread
  · split at hread
    · next hmarker =>
        obtain rfl := Option.some.inj hread
        exact ⟨⟨rfl, rfl⟩, _, hmarker, rfl⟩
    · cases hread
  · cases hread

/-- A template has the tokens of the line, with a marker in its place. -/
theorem eq_of_ofTokens
    {words : List Text} {template : Template} (hread : ofTokens words = .ok (some template)) :
    ((template.front = [Definition.keyword] ∧ ∃ name, template.suffix = ':' :: name) ∨
      (template.front = [Directive.addWord, Directive.seriesWord] ∧ template.suffix = [])) ∧
    ∃ c, isMarker c = true ∧
      words = template.front ++ (c :: template.suffix) :: template.rest := by
  unfold ofTokens at hread
  split at hread
  · split at hread
    · next hkeyword =>
        obtain ⟨hfront, c, hmarker, rfl⟩ := eq_of_ofDefineTokens hread
        refine ⟨.inl hfront, c, hmarker, ?_⟩
        rw [hfront.1, hkeyword]
        rfl
    · split at hread
      · split at hread
        · next hwords =>
            obtain ⟨hfront, c, hmarker, rfl⟩ := eq_of_ofSeriesTokens (Except.ok.inj hread)
            refine ⟨.inr hfront, c, hmarker, ?_⟩
            rw [hfront.1, hwords.1, hwords.2]
            rfl
        · cases Except.ok.inj hread
      · cases Except.ok.inj hread
  · cases Except.ok.inj hread

theorem mem_fill
    {template : Template} {dataset : Nat} {c : Char} (hc : c ∈ template.fill dataset) :
    isWritten c = true ∨ ∃ part ∈ template.front ++ template.suffix :: template.rest, c ∈ part := by
  rcases Text.mem_joinTokens hc with rfl | ⟨word, hword, hc⟩
  · exact .inl (by decide)
  · rcases List.mem_append.1 hword with hword | hword
    · exact .inr ⟨word, List.mem_append_left _ hword, hc⟩
    · rcases List.mem_cons.1 hword with rfl | hword
      · rcases List.mem_append.1 hc with hc | hc
        · exact .inl (isWritten_of_mem_ofNat hc)
        · exact .inr ⟨template.suffix, by simp, hc⟩
      · exact .inr ⟨word, by simp [hword], hc⟩

theorem exists_word_of_part
    {template : Template} (mark : Char) {part : Text} {c : Char}
    (hpart : part ∈ template.front ++ template.suffix :: template.rest) (hc : c ∈ part) :
    ∃ word ∈ template.front ++ (mark :: template.suffix) :: template.rest, c ∈ word := by
  rcases List.mem_append.1 hpart with hpart | hpart
  · exact ⟨part, List.mem_append_left _ hpart, hc⟩
  · rcases List.mem_cons.1 hpart with rfl | hpart
    · exact ⟨mark :: template.suffix, by simp, List.mem_cons_of_mem mark hc⟩
    · exact ⟨part, by simp [hpart], hc⟩

end Template

namespace SourceLine

/-- A line stands for itself or, with a marker, for its template filled with each dataset. -/
theorem resolveMarker_cases
    {datasets : Nat} {line : SourceLine} {found : List SourceLine}
    (hresolve : line.resolveMarker datasets = .ok found) :
    (Template.ofTokens (Text.tokens .blanks line.text) = .ok none ∧ found = [line]) ∨
      ∃ template, Template.ofTokens (Text.tokens .blanks line.text) = .ok (some template) ∧
        found = (List.range datasets).map fun index =>
          { line with text := template.fill (index + 1) } := by
  unfold resolveMarker at hresolve
  split at hresolve
  · cases hresolve
  · next hnone => exact .inl ⟨hnone, (Except.ok.inj hresolve).symm⟩
  · next template htemplate =>
      exact .inr ⟨template, htemplate, (Except.ok.inj hresolve).symm⟩

theorem stemsFrom_of_resolveMarker
    {datasets : Nat} {origin line : SourceLine} {found : List SourceLine}
    (hresolve : origin.resolveMarker datasets = .ok found) (hline : line ∈ found) :
    StemsFrom [] origin line := by
  rcases resolveMarker_cases hresolve with ⟨_, rfl⟩ | ⟨template, htemplate, rfl⟩
  · obtain rfl := List.mem_singleton.1 hline
    exact .refl [] line
  · obtain ⟨index, _, rfl⟩ := List.mem_map.1 hline
    refine ⟨rfl, ?_⟩
    intro c hc
    rcases Template.mem_fill hc with hc | ⟨part, hpart, hc⟩
    · exact .inr (.inl hc)
    · obtain ⟨_, mark, _, hwords⟩ := Template.eq_of_ofTokens htemplate
      obtain ⟨word, hword, hc⟩ := Template.exists_word_of_part mark hpart hc
      rw [← hwords] at hword
      exact .inl (Text.mem_of_mem_tokens hword hc)

theorem exists_origin_of_resolveMarkers
    {datasets : Nat} {lines found : List SourceLine} {line : SourceLine}
    (hresolve : resolveMarkers datasets lines = .ok found) (hline : line ∈ found) :
    ∃ origin ∈ lines, StemsFrom [] origin line := by
  obtain ⟨groups, hgroups, rfl⟩ := map_eq_ok_iff.1 hresolve
  obtain ⟨group, hgroup, hline⟩ := List.mem_flatten.1 hline
  obtain ⟨origin, horigin, hfound⟩ :=
    exists_left_of_forall₂ (mapM_eq_ok_iff.1 hgroups) group hgroup
  exact ⟨origin, horigin, stemsFrom_of_resolveMarker hfound hline⟩

end SourceLine

/-! ## Lists -/

/-- The name and the values of a list are tokens of its line, ranges replaced. -/
theorem ListStatement.exists_tokens_of_read
    {line : SourceLine} {statement : ListStatement} (hread : read line = .ok statement) :
    ∃ expanded first operation, Range.expandAll line.text = .ok expanded ∧
      Text.tokens .blanksAndCommas expanded =
        first :: operation :: statement.name :: statement.tokens := by
  unfold read at hread
  split at hread
  · cases hread
  · next expanded hexpand =>
      split at hread
      · next first operation name token tokens htokens =>
          split at hread
          · obtain rfl := Except.ok.inj hread
            exact ⟨expanded, first, operation, hexpand, htokens⟩
          · cases hread
      · cases hread

/-- What holds of all values of the lists and of the new values holds of all values then. -/
theorem Registry.forall_words_apply
    {P : Text → Prop} {registry lists : Registry} {statement : ListStatement}
    (happly : registry.apply statement = .ok lists)
    (hregistry : ∀ name words, registry.get? name = some words → ∀ word ∈ words, P word)
    (hstatement : ∀ word ∈ statement.tokens, P word) :
    ∀ name words, lists.get? name = some words → ∀ word ∈ words, P word := by
  have hset (tokens : List Text) (htokens : ∀ word ∈ tokens, P word) :
      ∀ name words, (registry.set statement.name tokens).get? name = some words →
        ∀ word ∈ words, P word := by
    intro name words hwords
    by_cases hname : name = statement.name
    · rw [hname, Registry.get?_set_self] at hwords
      obtain rfl := Option.some.inj hwords
      exact htokens
    · rw [Registry.get?_set_of_ne registry hname] at hwords
      exact hregistry name words hwords
  rcases Registry.apply_eq_ok_iff.1 happly with ⟨_, rfl⟩ | ⟨_, found, hfound, rfl⟩
  · exact hset statement.tokens hstatement
  · apply hset
    intro word hword
    rcases List.mem_append.1 hword with hword | hword
    · exact hregistry statement.name found hfound word hword
    · exact hstatement word hword

/-! ## Loops -/

theorem Range.exists_of_valuesIn
    {line : Text} {values : List Text} (hread : Range.valuesIn line = .ok values) :
    ∃ range : Range, values = range.values := by
  unfold Range.valuesIn at hread
  split at hread
  · cases hread
  · cases hread
  · next occurrence hlocate => exact ⟨occurrence.range, (Except.ok.inj hread).symm⟩

namespace Loop

theorem readHeader_eq_ok
    {header var : Text} {source : LoopSource} (hread : readHeader header = .ok (var, source)) :
    ∃ first token more,
      Text.tokens .blanksAndCommas header = first :: var :: LoopSource.inWord :: token :: more ∧
        LoopSource.ofTokens header token more = .ok source := by
  unfold readHeader at hread
  split at hread
  · next first var word token more htokens =>
      split at hread
      · next hword =>
          obtain ⟨found, hfound, heq⟩ := map_eq_ok_iff.1 hread
          obtain ⟨rfl, rfl⟩ := Prod.mk.inj heq
          exact ⟨first, token, more, hword ▸ htokens, hfound⟩
      · cases hread
  · cases hread

theorem read_eq_ok_iff {header : SourceLine} {body : List SourceLine} {loop : Loop} :
    Loop.read header body = .ok loop ↔
      (∀ line ∈ body, Keyword.ofLine line.text ≠ .loop) ∧
        readHeader header.text = .ok (loop.var, loop.source) ∧
          loop.line = header.number ∧ loop.body = body := by
  have hfind : body.find? (fun line => Keyword.ofLine line.text == .loop) = none ↔
      ∀ line ∈ body, Keyword.ofLine line.text ≠ .loop := by
    simp [List.find?_eq_none]
  unfold Loop.read
  rw [← hfind]
  cases hinner : body.find? (fun line => Keyword.ofLine line.text == .loop) with
  | some line => simp
  | none =>
      cases hheader : readHeader header.text with
      | error error => simp
      | ok found =>
          obtain ⟨var, source⟩ := found
          constructor
          · intro heq
            obtain rfl := Except.ok.inj heq
            simp
          · intro hloop
            obtain ⟨line, foundVar, foundSource, foundBody⟩ := loop
            simp only [true_and, Except.ok.injEq, Prod.mk.injEq] at hloop
            obtain ⟨⟨rfl, rfl⟩, rfl, rfl⟩ := hloop
            rfl

/-- The values of a loop that names no list are those of a range. -/
theorem exists_range_of_read
    {header : SourceLine} {body : List SourceLine} {loop : Loop} {values : List Text}
    (hread : Loop.read header body = .ok loop) (hsource : loop.source = .range values) :
    ∃ range : Range, values = range.values := by
  obtain ⟨_, hheader, _⟩ := read_eq_ok_iff.1 hread
  obtain ⟨first, token, more, _, hfound⟩ := readHeader_eq_ok hheader
  rw [hsource] at hfound
  unfold LoopSource.ofTokens at hfound
  split at hfound
  · obtain ⟨values, hvalues, heq⟩ := map_eq_ok_iff.1 hfound
    obtain rfl := LoopSource.range.inj heq
    exact Range.exists_of_valuesIn hvalues
  · split at hfound
    · cases hfound
    · split at hfound <;> cases hfound

theorem mem_instantiate
    {var value : Text} {line : SourceLine} {c : Char}
    (hc : c ∈ (instantiate var value line).text) :
    c ∈ value ∨ c ∈ line.text := by
  have hbody := (List.dropWhile_suffix Text.isWhite).subset hc
  rcases Text.mem_replaceAll hbody with hc | hc
  · exact .inl hc
  · exact Text.mem_replaceAll hc

theorem exists_origin_of_unroll
    {datasets : Nat} {values : List Text} {loop : Loop} {found : List SourceLine}
    {line : SourceLine} (hunroll : loop.unroll datasets values = .ok found)
    (hline : line ∈ found) :
    ∃ origin ∈ loop.body, SourceLine.StemsFrom values origin line := by
  obtain ⟨lines, hlines, rfl⟩ := map_eq_ok_iff.1 hunroll
  obtain ⟨value, hvalue, hline⟩ := List.mem_flatMap.1 hline
  obtain ⟨inner, hinner, rfl⟩ := List.mem_map.1 hline
  obtain ⟨origin, horigin, hstems⟩ :=
    SourceLine.exists_origin_of_resolveMarkers hlines hinner
  refine ⟨origin, horigin, hstems.number_eq, ?_⟩
  intro c hc
  rcases mem_instantiate hc with hc | hc
  · exact .inr (.inr ⟨value, hvalue, hc⟩)
  · rcases hstems.mem_text c hc with hc | hc | ⟨other, hother, _⟩
    · exact .inl hc
    · exact .inr (.inl hc)
    · cases hother

end Loop

/-! ## Blocks -/

namespace Block

def lines : Block → List SourceLine
  | .list _ => []
  | .loop block => block.body
  | .plain line => [line]

def insertedValues (registry : Registry) : Block → List Text
  | .loop block =>
      match block.values registry with
      | .ok values => values
      | .error _ => []
  | _ => []

/-- Every line of a block stems from one of the lines that it expands. -/
theorem exists_origin_of_resolve
    {datasets : Nat} {registry : Registry} {block : Block} {found : List SourceLine}
    {line : SourceLine} (hresolve : (block.resolve datasets registry).result = .ok found)
    (hline : line ∈ found) :
    ∃ origin ∈ block.lines,
      SourceLine.StemsFrom (block.insertedValues registry) origin line := by
  cases block with
  | list statement =>
      obtain rfl := Except.ok.inj hresolve
      cases hline
  | plain origin =>
      exact ⟨origin, List.mem_cons_self,
        SourceLine.stemsFrom_of_resolveMarker hresolve hline⟩
  | loop block =>
      unfold resolve Loop.resolve at hresolve
      cases hvalues : block.values registry with
      | error error => simp [hvalues] at hresolve
      | ok values =>
          simp only [hvalues] at hresolve
          simp only [insertedValues, hvalues]
          exact Loop.exists_origin_of_unroll hresolve hline

end Block

/-! ## Steps -/

namespace Statement

theorem readAll_eq_ok_iff {lines : List SourceLine} {statements : List Statement} :
    (readAll lines).result = .ok statements ↔
      List.Forall₂ (fun line statement => read line = .ok statement) lines statements := by
  unfold readAll
  simp only [mapM_eq_ok_iff, List.forall₂_map_left_iff, id]

end Statement

namespace Expansion

def Step.linesRead (datasets : Nat) (step : Step) : List SourceLine :=
  match step.segment.block with
  | .ok block =>
      match (block.resolve datasets step.lists).result with
      | .ok lines => lines
      | .error _ => []
  | .error _ => []

/-- The lines of a file that are read as directives, with nothing left to expand. -/
def linesRead (datasets : Nat) (lines : List SourceLine) : List SourceLine :=
  (steps datasets .empty (segments lines)).flatMap (Step.linesRead datasets)

theorem Step.exists_block_of_mem_linesRead
    {datasets : Nat} {step : Step} {line : SourceLine} (hline : line ∈ step.linesRead datasets) :
    ∃ block found, step.segment.block = .ok block ∧
      (block.resolve datasets step.lists).result = .ok found ∧ line ∈ found := by
  unfold linesRead at hline
  split at hline
  · next block hblock =>
      split at hline
      · next found hresolve => exact ⟨block, found, hblock, hresolve, hline⟩
      · cases hline
  · cases hline

/-- A step that succeeds reads its lines, each as one statement. -/
theorem Step.forall₂_linesRead
    {datasets : Nat} {step : Step} {lists : Registry} {statements : List Statement}
    (hresult : step.result datasets = .ok (lists, statements)) :
    List.Forall₂ (fun line statement => Statement.read line = .ok statement)
      (step.linesRead datasets) statements := by
  unfold Step.result Segment.run at hresult
  unfold linesRead
  cases hblock : step.segment.block with
  | error error => simp [hblock] at hresult
  | ok block =>
      simp only [hblock, Block.run] at hresult
      simp only
      split at hresult
      · cases hresult
      · obtain ⟨found, hread, heq⟩ := map_eq_ok_iff.1 hresult
        obtain ⟨_, rfl⟩ := Prod.mk.inj heq
        unfold Block.read at hread
        cases hlines : (block.resolve datasets step.lists).result with
        | error error => simp [hlines] at hread
        | ok lines =>
            simp only [hlines] at hread
            exact Statement.readAll_eq_ok_iff.1 hread

/-- Every statement of an expansion is read from a line with nothing left to expand. -/
theorem exists_line_of_mem_statementsOf
    {datasets : Nat} {lines : List SourceLine} {statement : Statement}
    (hstatement : statement ∈ statementsOf datasets (steps datasets .empty (segments lines))) :
    ∃ line ∈ linesRead datasets lines, Statement.read line = .ok statement := by
  obtain ⟨step, hstep, hstatement⟩ := List.mem_flatMap.1 hstatement
  unfold Step.statements at hstatement
  cases hresult : step.result datasets with
  | error error =>
      rw [hresult] at hstatement
      cases hstatement
  | ok outcome =>
      rw [hresult] at hstatement
      have hread := Step.forall₂_linesRead hresult
      obtain ⟨line, hline, hline_read⟩ := exists_left_of_forall₂ hread statement hstatement
      exact ⟨line, List.mem_flatMap.2 ⟨step, hstep, hline⟩, hline_read⟩

end Expansion

end ChartScript
