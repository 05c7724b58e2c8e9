import ChartScript.Proofs.LineOrigins
import ChartScript.Proofs.WrittenRanges

/-!
# Characters that an expansion does not bring in

Expansion moves characters about, but writes only digits, minus signs and blanks by itself.
A character that occurs in no line of a file, and is none of these, therefore occurs in no
value of a list and in no line that is read as a directive.  The line feed is such a
character, since the lines of a file are what stands between line feeds.
-/

namespace ChartScript

section

variable {x : Char} (hx : isWritten x = false)

include hx

/-! ## Ranges and lists -/

namespace Range

theorem not_mem_ofInt (n : Int) : x ∉ Decimal.ofInt n := by
  intro hmem
  rw [isWritten_of_mem_ofInt hmem] at hx
  cases hx

theorem not_mem_of_mem_values {range : Range} {value : Text} (hvalue : value ∈ range.values) :
    x ∉ value := by
  obtain ⟨k, _, rfl⟩ := List.mem_map.1 hvalue
  exact not_mem_ofInt hx _

theorem not_mem_joinTokens_values (range : Range) : x ∉ Text.joinTokens range.values := by
  intro hmem
  rcases Text.mem_joinTokens hmem with rfl | ⟨value, hvalue, hmem⟩
  · cases hx
  · exact not_mem_of_mem_values hx hvalue hmem

theorem not_mem_expanded
    {line : Text} {occurrence : RangeOccurrence} (hlocate : locate line = .ok (some occurrence))
    (hline : x ∉ line) :
    x ∉ occurrence.expanded := by
  obtain ⟨_, _, inner, _, _, hcut⟩ := exists_of_locate hlocate
  rw [Text.eq_of_cut?_eq_some hcut] at hline
  simp only [List.mem_append, List.mem_cons, not_or] at hline
  intro hmem
  unfold RangeOccurrence.expanded at hmem
  rcases List.mem_append.1 hmem with hmem | hmem
  · rcases List.mem_append.1 hmem with hmem | hmem
    · exact hline.1.1 hmem
    · exact not_mem_joinTokens_values hx occurrence.range hmem
  · exact hline.2.2.2 hmem

theorem not_mem_expandAll
    {line expanded : Text} (hexpand : expandAll line = .ok expanded) (hline : x ∉ line) :
    x ∉ expanded := by
  fun_induction expandAll line with
  | case1 => cases hexpand
  | case2 line hnone =>
      obtain rfl := Except.ok.inj hexpand
      exact hline
  | case3 line occurrence hlocate ih =>
      exact ih hexpand (not_mem_expanded hx hlocate hline)

end Range

/-! ## The lists of a file -/

theorem ListStatement.not_mem_of_mem_tokens
    {line : SourceLine} {statement : ListStatement}
    (hread : ListStatement.read line = .ok statement) (hline : x ∉ line.text) :
    ∀ word ∈ statement.tokens, x ∉ word := by
  obtain ⟨expanded, first, operation, hexpand, htokens⟩ := exists_tokens_of_read hread
  have hexpanded := Range.not_mem_expandAll hx hexpand hline
  intro word hword hmem
  have hfound : word ∈ Text.tokens .blanksAndCommas expanded := by
    rw [htokens]
    simp [hword]
  exact hexpanded (Text.mem_of_mem_tokens hfound hmem)

/-! ## Blocks -/

/-- The character occurs in nothing that the block holds. -/
structure Block.Lacks (x : Char) (block : Block) : Prop where
  lines : ∀ line ∈ block.lines, x ∉ line.text
  tokens : ∀ statement, block = .list statement → ∀ word ∈ statement.tokens, x ∉ word
  values : ∀ loop values, block = .loop loop → loop.source = .range values →
    ∀ value ∈ values, x ∉ value

theorem Block.lacks_of_ofLine
    {line : SourceLine} {block : Block} (hblock : Block.ofLine line = .ok block)
    (hline : x ∉ line.text) :
    block.Lacks x := by
  unfold Block.ofLine at hblock
  split at hblock
  · obtain ⟨statement, hread, rfl⟩ := map_eq_ok_iff.1 hblock
    have htokens := ListStatement.not_mem_of_mem_tokens hx hread hline
    refine ⟨by simp [Block.lines], ?_, by simp⟩
    intro other heq
    obtain rfl := Block.list.inj heq
    exact htokens
  · cases hblock
  · obtain rfl := Except.ok.inj hblock
    refine ⟨?_, by simp, by simp⟩
    intro other hother
    obtain rfl := List.mem_singleton.1 hother
    exact hline

theorem Segment.lacks_of_mem_segments
    {lines : List SourceLine} (hlines : ∀ line ∈ lines, x ∉ line.text)
    {segment : Segment} (hsegment : segment ∈ segments lines)
    {block : Block} (hblock : segment.block = .ok block) :
    block.Lacks x := by
  have hmem : ∀ line ∈ segment.lines, x ∉ line.text := by
    intro line hline
    apply hlines
    rw [← flatMap_lines_segments lines]
    exact List.mem_flatMap.2 ⟨segment, hsegment, hline⟩
  obtain ⟨file, later, hleads⟩ := exists_leads_of_mem hsegment
  cases hleads with
  | single _ hline => exact Block.lacks_of_ofLine hx hblock (hmem _ (by simp))
  | unclosed hheader hopen => cases hblock
  | @closed header next body _ hheader hfirst =>
      obtain ⟨loop, hread, rfl⟩ := map_eq_ok_iff.1 hblock
      have hbody := (Loop.read_eq_ok hread).1
      refine ⟨?_, by simp, ?_⟩
      · intro line hline
        simp only [Block.lines, hbody] at hline
        exact hmem line (by simp [hline])
      · intro other values heq hsource value hvalue
        obtain rfl := Block.loop.inj heq
        obtain ⟨range, rfl⟩ := Loop.exists_range_of_read hread hsource
        exact Range.not_mem_of_mem_values hx hvalue

theorem Block.not_mem_of_resolve
    {datasets : Nat} {registry : Registry} {block : Block} {found : List SourceLine}
    (hblock : block.Lacks x)
    (hregistry : ∀ name words, registry.get? name = some words → ∀ word ∈ words, x ∉ word)
    (hresolve : (block.resolve datasets registry).result = .ok found) :
    ∀ line ∈ found, x ∉ line.text := by
  intro line hline hmem
  obtain ⟨origin, horigin, hstems⟩ := Block.exists_origin_of_resolve hresolve hline
  rcases hstems.mem_text x hmem with hmem | hwritten | ⟨value, hvalue, hmem⟩
  · exact hblock.lines origin horigin hmem
  · rw [hx] at hwritten
    cases hwritten
  · cases block with
    | list statement => cases hvalue
    | plain line => cases hvalue
    | loop loop =>
        simp only [Block.insertedValues, Loop.values] at hvalue
        cases hsource : loop.source with
        | range values =>
            simp only [hsource] at hvalue
            exact hblock.values loop values rfl hsource value hvalue hmem
        | list name =>
            simp only [hsource] at hvalue
            cases hwords : registry.get? name with
            | none => simp [hwords] at hvalue
            | some words =>
                simp only [hwords] at hvalue
                exact hregistry name words hwords value hvalue hmem

/-! ## Runs -/

/-- What no line of a file holds, no line that is read holds: the lists of every step are made
of tokens of the file. -/
theorem Expansion.not_mem_of_mem_linesRead
    {lines : List SourceLine} (hlines : ∀ line ∈ lines, x ∉ line.text) (datasets : Nat) :
    ∀ line ∈ linesRead datasets lines, x ∉ line.text := by
  intro line hline
  obtain ⟨step, hstep, hline⟩ := List.mem_flatMap.1 hline
  have hsegment : step.segment ∈ segments lines := by
    rw [← map_segment_steps datasets .empty (segments lines)]
    exact List.mem_map_of_mem hstep
  have hlists := lists_of_mem_steps
    (P := fun registry => ∀ name words, registry.get? name = some words →
      ∀ word ∈ words, x ∉ word) (by simp [Registry.get?, Registry.empty])
    (fun segment hsegment statement hblock before after hbefore happly =>
      Registry.forall_words_apply happly hbefore
        ((Segment.lacks_of_mem_segments hx hlines hsegment hblock).tokens statement rfl))
    step hstep
  obtain ⟨block, found, hblock, hresolve, hline⟩ := Step.exists_block_of_mem_linesRead hline
  have hlacks := Segment.lacks_of_mem_segments hx hlines hsegment hblock
  exact Block.not_mem_of_resolve hx hlacks hlists hresolve line hline

end

end ChartScript
