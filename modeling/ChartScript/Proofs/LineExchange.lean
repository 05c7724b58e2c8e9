import ChartScript.Proofs.RunComposition
import ChartScript.Proofs.WrittenDirectives

/-!
# Exchanging lines

Two groups of plain lines are interchangeable if the lines that they stand for are read
alike, by themselves and with a loop value put in.  Exchanging them anywhere in a file
changes neither the result of a run nor its first error.

What is put in is a value of a list or of a range, and these are tokens: the lists of a run
hold the tokens of its list statements, and nothing else ever gets into them.
-/

namespace ChartScript

/-! ## Values are tokens -/

/-- Every value of every list is a token. -/
def Registry.HoldsWords (registry : Registry) : Prop :=
  ∀ name words, registry.get? name = some words → ∀ word ∈ words, Text.IsWord .blanks word

theorem Registry.holdsWords_empty : Registry.empty.HoldsWords := by
  intro name words hwords
  cases hwords

theorem ListStatement.isWord_of_mem_tokens
    {line : SourceLine} {statement : ListStatement} (hread : read line = .ok statement) :
    ∀ word ∈ statement.tokens, Text.IsWord .blanks word := by
  obtain ⟨expanded, first, operation, _, htokens⟩ := exists_tokens_of_read hread
  intro word hword
  have hmem : word ∈ Text.tokens .blanksAndCommas expanded := by
    rw [htokens]
    simp [hword]
  exact (Text.isWord_blanksAndCommas_iff.1 (Text.isWord_of_mem_tokens hmem)).1

theorem Block.read_of_ofLine_eq_list
    {line : SourceLine} {statement : ListStatement}
    (hblock : Block.ofLine line = .ok (.list statement)) :
    ListStatement.read line = .ok statement := by
  unfold Block.ofLine at hblock
  split at hblock
  · obtain ⟨found, hread, heq⟩ := map_eq_ok_iff.1 hblock
    obtain rfl := Block.list.inj heq
    exact hread
  · cases hblock
  · cases hblock

theorem Loop.not_isBlank_of_mem_var
    {header var : Text} {source : LoopSource} (hread : readHeader header = .ok (var, source)) :
    ∀ c ∈ var, Text.isBlank c = false := by
  obtain ⟨first, token, more, htokens, _⟩ := readHeader_eq_ok hread
  have hmem : var ∈ Text.tokens .blanksAndCommas header := by
    rw [htokens]
    simp
  exact (Text.isWord_blanksAndCommas_iff.1 (Text.isWord_of_mem_tokens hmem)).1.2

theorem Loop.isWord_of_mem_values
    {header : SourceLine} {body : List SourceLine} {loop : Loop}
    (hread : Loop.read header body = .ok loop)
    {registry : Registry} (hregistry : registry.HoldsWords)
    {values : List Text} (hvalues : loop.values registry = .ok values) :
    ∀ value ∈ values, Text.IsWord .blanks value := by
  unfold Loop.values at hvalues
  split at hvalues
  · next found hsource =>
      obtain rfl := Except.ok.inj hvalues
      obtain ⟨range, rfl⟩ := Loop.exists_range_of_read hread hsource
      intro value hvalue
      obtain ⟨k, _, rfl⟩ := List.mem_map.1 hvalue
      exact Directive.isWord_ofInt _
  · split at hvalues
    · next name found hfound =>
        obtain rfl := Except.ok.inj hvalues
        exact hregistry _ _ hfound
    · cases hvalues

/-- A list statement of a file is read from a line. -/
theorem Segment.exists_read_of_block_eq_list
    {lines : List SourceLine} {segment : Segment} (hsegment : segment ∈ segments lines)
    {statement : ListStatement} (hblock : segment.block = .ok (.list statement)) :
    ∃ line ∈ segment.lines, ListStatement.read line = .ok statement := by
  obtain ⟨file, after, hleads⟩ := exists_leads_of_mem hsegment
  cases hleads with
  | single _ _ => exact ⟨_, List.mem_cons_self, Block.read_of_ofLine_eq_list hblock⟩
  | closed _ _ _ =>
      obtain ⟨loop, _, hloop⟩ := map_eq_ok_iff.1 hblock
      cases hloop
  | unclosed _ _ => cases hblock

theorem Segment.isWord_of_mem_tokens
    {lines : List SourceLine} {segment : Segment} (hsegment : segment ∈ segments lines)
    {statement : ListStatement} (hblock : segment.block = .ok (.list statement)) :
    ∀ word ∈ statement.tokens, Text.IsWord .blanks word := by
  obtain ⟨line, _, hread⟩ := Segment.exists_read_of_block_eq_list hsegment hblock
  exact ListStatement.isWord_of_mem_tokens hread

/-- A run keeps the values of the lists tokens. -/
theorem Segment.holdsWords_of_run
    {datasets : Nat} {registry : Registry} {lines : List SourceLine} {segment : Segment}
    {found : Registry × List Statement} (hsegment : segment ∈ segments lines)
    (hregistry : registry.HoldsWords)
    (hrun : (segment.run datasets registry).result = .ok found) :
    found.1.HoldsWords := by
  have hlists : segment.listsAfter datasets registry = found.1 := by
    unfold Segment.listsAfter
    rw [hrun]
  rw [← hlists]
  rcases Expansion.listsAfter_segment datasets registry segment with
    hsame | ⟨statement, hblock, happly⟩
  · rw [hsame]
    exact hregistry
  · exact Registry.forall_words_apply happly hregistry
      (Segment.isWord_of_mem_tokens hsegment hblock)

/-! ## Lines that are read alike -/

namespace SourceLine

/-- The lines are read alike, also with a loop value put in. -/
structure ReadAlike (lines others : List SourceLine) : Prop where
  map_read : lines.map Statement.read = others.map Statement.read
  map_read_instantiate : ∀ var value, (∀ c ∈ var, Text.isBlank c = false) →
    Text.IsWord .blanks value →
      (lines.map (Loop.instantiate var value)).map Statement.read =
        (others.map (Loop.instantiate var value)).map Statement.read

structure Interchangeable (datasets : Nat) (lines others : List SourceLine) : Prop where
  plain : ∀ line ∈ lines, line.IsPlain
  plain_others : ∀ line ∈ others, line.IsPlain
  resolve : ∃ found foundOthers, resolveMarkers datasets lines = .ok found ∧
    resolveMarkers datasets others = .ok foundOthers ∧ ReadAlike found foundOthers

end SourceLine

open SourceLine (Interchangeable)

variable {datasets : Nat} {lines others : List SourceLine}

theorem SourceLine.Interchangeable.resolveMarkers_within
    (hlines : Interchangeable datasets lines others) (front back : List SourceLine) :
    (∃ error, resolveMarkers datasets (front ++ lines ++ back) = .error error ∧
      resolveMarkers datasets (front ++ others ++ back) = .error error) ∨
    ∃ found foundOthers, resolveMarkers datasets (front ++ lines ++ back) = .ok found ∧
      resolveMarkers datasets (front ++ others ++ back) = .ok foundOthers ∧
        ReadAlike found foundOthers := by
  obtain ⟨found, foundOthers, hfound, hfoundOthers, halike⟩ := hlines.resolve
  simp only [resolveMarkers_append, hfound, hfoundOthers]
  cases resolveMarkers datasets front with
  | error error => exact .inl ⟨error, rfl, rfl⟩
  | ok first =>
      cases resolveMarkers datasets back with
      | error error => exact .inl ⟨error, rfl, rfl⟩
      | ok last =>
          refine .inr ⟨first ++ found ++ last, first ++ foundOthers ++ last, rfl, rfl, ?_, ?_⟩
          · simp only [List.map_append, halike.map_read]
          · intro var value hvar hvalue
            have hmiddle := halike.map_read_instantiate var value hvar hvalue
            simp only [List.map_append, hmiddle]

theorem Block.run_loop_congr
    (hlines : Interchangeable datasets lines others) {registry : Registry} {loop : Loop}
    (hvar : ∀ c ∈ loop.var, Text.isBlank c = false)
    (hvalues : ∀ values, loop.values registry = .ok values →
      ∀ value ∈ values, Text.IsWord .blanks value)
    (front back : List SourceLine) :
    (run datasets registry (.loop { loop with body := front ++ lines ++ back })).result =
      (run datasets registry (.loop { loop with body := front ++ others ++ back })).result := by
  have hsource : ∀ body, Loop.values registry { loop with body := body } = loop.values registry :=
    fun _ => rfl
  rw [run_loop_result, run_loop_result, hsource (front ++ lines ++ back),
    hsource (front ++ others ++ back)]
  cases hfound : loop.values registry with
  | error error => rfl
  | ok values =>
      simp only [Loop.unroll, bind, Except.bind]
      rcases hlines.resolveMarkers_within front back with
        ⟨error, hfirst, hsecond⟩ | ⟨found, foundOthers, hfirst, hsecond, halike⟩
      · rw [hfirst, hsecond]
      · rw [hfirst, hsecond]
        simp only [Except.map]
        rw [Statement.mapM_read_congr]
        rw [List.map_flatMap, List.map_flatMap]
        apply List.flatMap_congr
        intro value hvalue
        exact halike.map_read_instantiate loop.var value hvar (hvalues values hfound value hvalue)

theorem Loop.find?_inner_congr
    (hlines : Interchangeable datasets lines others) (front back : List SourceLine) :
    (front ++ lines ++ back).find? (fun line => Keyword.ofLine line.text == .loop) =
      (front ++ others ++ back).find? (fun line => Keyword.ofLine line.text == .loop) := by
  have hnone : ∀ group : List SourceLine, (∀ line ∈ group, line.IsPlain) →
      group.find? (fun line => Keyword.ofLine line.text == .loop) = none := by
    intro group hgroup
    rw [List.find?_eq_none]
    intro line hline
    simpa using (hgroup line hline).ne_loop
  simp only [List.find?_append, hnone lines hlines.plain, hnone others hlines.plain_others]

theorem Loop.read_eq_map
    {body other : List SourceLine} (header : SourceLine)
    (hinner : body.find? (fun line => Keyword.ofLine line.text == .loop) =
      other.find? (fun line => Keyword.ofLine line.text == .loop)) :
    Loop.read header other =
      (Loop.read header body).map fun loop => { loop with body := other } := by
  unfold Loop.read
  rw [hinner]
  cases other.find? (fun line => Keyword.ofLine line.text == .loop) with
  | some line => rfl
  | none =>
      cases readHeader header.text with
      | error error => rfl
      | ok found => rfl

/-! ## Exchanging lines in a file -/

theorem Segment.run_loop_congr
    (hlines : Interchangeable datasets lines others) {registry : Registry}
    (hregistry : registry.HoldsWords) (header : SourceLine) (front back found : List SourceLine)
    (foundOthers : List SourceLine) :
    (run datasets registry
        ⟨found, (Loop.read header (front ++ lines ++ back)).map .loop⟩).result =
      (run datasets registry
        ⟨foundOthers, (Loop.read header (front ++ others ++ back)).map .loop⟩).result := by
  have hread := Loop.read_eq_map header (Loop.find?_inner_congr hlines front back)
  rw [hread]
  cases hloop : Loop.read header (front ++ lines ++ back) with
  | error error => rfl
  | ok loop =>
      obtain ⟨_, hheader, _, hbody⟩ := Loop.read_eq_ok_iff.1 hloop
      have hvar := Loop.not_isBlank_of_mem_var hheader
      have hvalues := fun values (hvalues : loop.values registry = .ok values) =>
        Loop.isWord_of_mem_values hloop hregistry hvalues
      have hrun := Block.run_loop_congr hlines hvar hvalues front back
      rw [← hbody] at hrun
      exact hrun

namespace Expansion

theorem outcome_cons_congr
    {registry : Registry} {segment : Segment} {rest other : List Segment}
    (hrest : ∀ found, (segment.run datasets registry).result = .ok found →
      outcome datasets found.1 rest = outcome datasets found.1 other) :
    outcome datasets registry (segment :: rest) = outcome datasets registry (segment :: other) := by
  unfold outcome
  cases hrun : (segment.run datasets registry).result with
  | error error => rfl
  | ok found =>
      simp only [bind, Except.bind]
      rw [hrest found hrun]

/-- A loop that is open in front of the lines takes them in, or it is not closed at all. -/
theorem outcome_segments_congr_of_open
    (hlines : Interchangeable datasets lines others) {registry : Registry}
    (hregistry : registry.HoldsWords) {header : SourceLine}
    (hheader : Keyword.ofLine header.text = .loop) {before : List SourceLine} {inner : Nat}
    (hopen : ∀ rest, Loop.splitBody? 0 (before ++ rest) =
      (Loop.splitBody? inner rest).map fun found => (before ++ found.1, found.2))
    (after : List SourceLine) :
    outcome datasets registry (segments (header :: (before ++ lines ++ after))) =
      outcome datasets registry (segments (header :: (before ++ others ++ after))) := by
  have hsplit : ∀ group : List SourceLine, (∀ line ∈ group, line.IsPlain) →
      Loop.splitBody? 0 (before ++ group ++ after) =
        (Loop.splitBody? inner after).map fun found => (before ++ group ++ found.1, found.2) := by
    intro group hgroup
    have hdepth := fun line hline => (hgroup line hline).toKeepsDepth
    rw [List.append_assoc, hopen, Loop.splitBody?_append_of_keepsDepth hdepth, Option.map_map]
    simp [Function.comp_def]
  have hsplitLines := hsplit lines hlines.plain
  have hsplitOthers := hsplit others hlines.plain_others
  cases hafter : Loop.splitBody? inner after with
  | none =>
      rw [hafter] at hsplitLines hsplitOthers
      rw [segments_cons_of_splitBody?_eq_none hheader hsplitLines,
        segments_cons_of_splitBody?_eq_none hheader hsplitOthers]
      rfl
  | some found =>
      obtain ⟨back, next, later⟩ := found
      rw [hafter] at hsplitLines hsplitOthers
      rw [segments_cons_of_splitBody?_eq_some hheader hsplitLines,
        segments_cons_of_splitBody?_eq_some hheader hsplitOthers]
      unfold outcome
      rw [Segment.run_loop_congr hlines hregistry]

/-- The result of a run does not depend on which of the lines are in the file. -/
theorem outcome_segments_congr
    (hlines : Interchangeable datasets lines others) (before after : List SourceLine)
    {registry : Registry} (hregistry : registry.HoldsWords) :
    outcome datasets registry (segments (before ++ lines ++ after)) =
      outcome datasets registry (segments (before ++ others ++ after)) := by
  induction before using front_induction generalizing registry with
  | nil =>
      obtain ⟨found, foundOthers, hfound, hfoundOthers, halike⟩ := hlines.resolve
      rw [List.nil_append, List.nil_append,
        outcome_segments_append hlines.plain hfound,
        outcome_segments_append hlines.plain_others hfoundOthers,
        Statement.mapM_read_congr halike.map_read]
  | complete before segment between hsegments ih =>
      have hfirst : segment ∈ segments (before ++ []) := by
        rw [hsegments]
        exact List.mem_cons_self
      simp only [List.append_assoc, hsegments] at ih ⊢
      apply outcome_cons_congr
      intro found hrun
      exact ih (Segment.holdsWords_of_run hfirst hregistry hrun)
  | opened header before inner hheader hopen =>
      exact outcome_segments_congr_of_open hlines hregistry hheader hopen after

theorem ofLines_abort_congr
    (hlines : Interchangeable datasets lines others) (before after : List SourceLine) :
    (ofLines ⟨datasets, .abort⟩ (before ++ lines ++ after)).result =
      (ofLines ⟨datasets, .abort⟩ (before ++ others ++ after)).result := by
  rw [ofLines_abort_eq_map_outcome, ofLines_abort_eq_map_outcome,
    outcome_segments_congr hlines before after Registry.holdsWords_empty]

end Expansion

end ChartScript
