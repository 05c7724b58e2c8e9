import ChartScript.Proofs.LineExchange
import ChartScript.Proofs.NumbersPutIn
import ChartScript.Proofs.WrittenRanges

/-!
# Loops written out

A loop over a range can be replaced by its body, once for every value of the range and with
the value put in.  Inside the loop the markers are resolved first, the values are put in then
and the white space in front of the lines is removed; the lines that are written out are
segments of their own and keep it.
-/

namespace ChartScript

/-! ## White space in front of a line -/

theorem Definition.read_of_read_trimStart
    {number : Nat} {text : Text} {definition : Definition}
    (hread : read ⟨number, text.trimStart⟩ = .ok definition) :
    read ⟨number, text⟩ = .ok definition := by
  have hsplit : split text.trimStart = split text := by
    unfold split
    rw [Text.trimStart_trimStart]
  unfold read at hread ⊢
  simp only [hsplit] at hread
  split at hread
  · cases hread
  · next name unit tail hfound =>
      simp only [hfound]
      split at hread
      · cases hread
      · next expression hexpression =>
          obtain rfl := Except.ok.inj hread
          rfl

/-- A line that is read without the blanks in front of it is read with them. -/
theorem Statement.read_of_read_trimStart
    {number : Nat} {text : Text} (htext : text.BlankMargin) {statement : Statement}
    (hread : read ⟨number, text.trimStart⟩ = .ok statement) :
    read ⟨number, text⟩ = .ok statement := by
  have hdirective : ∀ directive, Directive.read ⟨number, text.trimStart⟩ = .ok directive →
      Directive.read ⟨number, text⟩ = .ok directive := by
    intro directive hdirective
    unfold Directive.read at hdirective ⊢
    simp only [Keyword.ofLine_trimStart htext, Text.tokens_trimStart htext,
      Text.trimStart_trimStart] at hdirective
    simp only
    cases hkeyword : Keyword.ofLine text with
    | define =>
        simp only [hkeyword] at hdirective ⊢
        obtain ⟨definition, hdefinition, rfl⟩ := map_eq_ok_iff.1 hdirective
        rw [Definition.read_of_read_trimStart hdefinition]
        rfl
    | add => simpa only [hkeyword] using hdirective
    | other => simpa only [hkeyword] using hdirective
    | list =>
        rw [hkeyword] at hdirective
        cases hdirective
    | loop =>
        rw [hkeyword] at hdirective
        cases hdirective
    | next =>
        rw [hkeyword] at hdirective
        cases hdirective
  unfold read at hread ⊢
  split at hread
  · cases hread
  · next directive hfound =>
      obtain rfl := Except.ok.inj hread
      simp only [hdirective directive hfound]

/-! ## A loop and its lines -/

namespace Loop

/-- The body of a loop once for every value, with the value put in. -/
def writtenOut (var : Text) (values : List Text) (body : List SourceLine) : List SourceLine :=
  values.flatMap fun value => body.map (SourceLine.withValue var value)

section

variable {datasets : Nat} {var : Text} {values : List Text} {body found : List SourceLine}
  {statements : List Statement}
  (hvar : ∀ c ∈ var, Text.isBlank c = false)
  (hvalues : ∀ value ∈ values, Decimal.IsNumeral value)
  (hbody : ∀ line ∈ body, line.text.BlankMargin)
  (hresolve : SourceLine.resolveMarkers datasets body = .ok found)
  (hread : (values.flatMap fun value => found.map (instantiate var value)).mapM Statement.read =
    .ok statements)

include hvalues hbody hresolve hread

theorem mapM_read_withValue :
    (values.flatMap fun value => found.map (SourceLine.withValue var value)).mapM Statement.read =
      .ok statements := by
  have hpairs : ∀ put : Text → SourceLine → SourceLine,
      (values.flatMap fun value => found.map (put value)).mapM Statement.read =
        (values.flatMap fun value => found.map (Prod.mk value)).mapM
          fun pair => Statement.read (put pair.1 pair.2) := by
    intro put
    have hmap : (values.flatMap fun value => found.map (put value)) =
        (values.flatMap fun value => found.map (Prod.mk value)).map
          fun pair => put pair.1 pair.2 := by
      simp only [List.map_flatMap, List.map_map, Function.comp_def]
    rw [hmap, List.mapM_map]
    rfl
  rw [hpairs] at hread ⊢
  refine mapM_eq_ok_of_imp ?_ hread
  intro pair hpair statement hstatement
  obtain ⟨value, hvalue, hpair⟩ := List.mem_flatMap.1 hpair
  obtain ⟨line, hline, rfl⟩ := List.mem_map.1 hpair
  have hnumeral := hvalues value hvalue
  have hmargin : (substitute var value line.text).BlankMargin :=
    blankMargin_substitute hnumeral.1
      (fun c hc => hnumeral.not_white c (List.mem_of_head? hc))
      (SourceLine.blankMargin_of_resolveMarkers hbody hresolve line hline)
  exact Statement.read_of_read_trimStart hmargin hstatement

include hvar

theorem isPlain_of_mem_writtenOut : ∀ line ∈ writtenOut var values body, line.IsPlain := by
  intro line hline
  obtain ⟨value, hvalue, hline⟩ := List.mem_flatMap.1 hline
  obtain ⟨origin, horigin, rfl⟩ := List.mem_map.1 hline
  have hstatements := mapM_eq_ok_iff.1 (mapM_read_withValue hvalues hbody hresolve hread)
  obtain ⟨groups, hgroups, rfl⟩ := map_eq_ok_iff.1 hresolve
  obtain ⟨group, hgroup, hfound⟩ :=
    exists_right_of_forall₂ (mapM_eq_ok_iff.1 hgroups) origin horigin
  refine SourceLine.isPlain_of_resolveMarker
    (SourceLine.resolveMarker_withValue hvar (hvalues value hvalue) hfound) ?_
  intro other hother
  obtain ⟨inner, hinner, rfl⟩ := List.mem_map.1 hother
  have hmem : inner.withValue var value ∈
      values.flatMap fun value => groups.flatten.map (SourceLine.withValue var value) :=
    List.mem_flatMap.2 ⟨value, hvalue,
      List.mem_map_of_mem (List.mem_flatten.2 ⟨group, hgroup, hinner⟩)⟩
  obtain ⟨statement, _, hstatement⟩ := exists_right_of_forall₂ hstatements _ hmem
  exact ⟨statement, hstatement⟩

theorem outcome_writtenOut (registry : Registry) (after : List SourceLine) :
    Expansion.outcome datasets registry (segments (writtenOut var values body ++ after)) =
      (Expansion.outcome datasets registry (segments after)).map fun others =>
        (others.1, statements ++ others.2) := by
  have hplain := isPlain_of_mem_writtenOut hvar hvalues hbody hresolve hread
  have hlines := SourceLine.resolveMarkers_flatMap_withValue hvar hvalues hresolve
  rw [Expansion.outcome_segments_append hplain hlines,
    mapM_read_withValue hvalues hbody hresolve hread]
  rfl

end

end Loop

/-! ## Files with a loop -/

theorem Segment.exists_loop_of_run
    {datasets : Nat} {registry : Registry} {lines body : List SourceLine} {header : SourceLine}
    {found : Registry × List Statement}
    (hrun : (run datasets registry ⟨lines, (Loop.read header body).map .loop⟩).result =
      .ok found) :
    ∃ loop, Loop.read header body = .ok loop ∧
      (Block.run datasets registry (.loop loop)).result = .ok found := by
  cases hread : Loop.read header body with
  | error error =>
      rw [hread] at hrun
      cases hrun
  | ok loop =>
      rw [hread] at hrun
      exact ⟨loop, rfl, hrun⟩

namespace Expansion

section

variable {datasets : Nat} {header : SourceLine} (hheader : Keyword.ofLine header.text = .loop)

include hheader

/-- A loop that is open where another begins is never closed, or it is refused. -/
theorem outcome_ne_ok_of_open
    {first : SourceLine} {before : List SourceLine} {inner : Nat}
    (hfirst : Keyword.ofLine first.text = .loop)
    (hopen : ∀ rest, Loop.splitBody? 0 (before ++ rest) =
      (Loop.splitBody? inner rest).map fun found => (before ++ found.1, found.2))
    (rest : List SourceLine) (registry : Registry) (found : Registry × List Statement) :
    outcome datasets registry (segments (first :: (before ++ header :: rest))) ≠ .ok found := by
  intro houtcome
  have hnot : ¬ Loop.Closes inner [] header := by
    intro hcloses
    rw [hcloses.1] at hheader
    cases hheader
  have hsplit := hopen (header :: rest)
  rw [Loop.splitBody?_cons_of_not_closes _ hnot, Option.map_map] at hsplit
  cases hafter : Loop.splitBody? (Loop.depthAfter inner header) rest with
  | none =>
      rw [hafter] at hsplit
      rw [segments_cons_of_splitBody?_eq_none hfirst hsplit] at houtcome
      cases houtcome
  | some parts =>
      rw [hafter] at hsplit
      rw [segments_cons_of_splitBody?_eq_some hfirst hsplit] at houtcome
      obtain ⟨_, hrun, _⟩ := bind_eq_ok_iff.1 houtcome
      obtain ⟨loop, hread, _⟩ := Segment.exists_loop_of_run hrun
      have hbody := (Loop.read_eq_ok_iff.1 hread).1 header
      exact hbody (List.mem_append_right _ List.mem_cons_self) hheader

/-- In front of a loop in a file that can be expanded every other loop is closed. -/
theorem segments_append_of_outcome
    (before rest : List SourceLine) {registry : Registry} {found : Registry × List Statement}
    (houtcome : outcome datasets registry (segments (before ++ header :: rest)) = .ok found) :
    ∀ others, segments (before ++ others) = segments before ++ segments others := by
  induction before using front_induction generalizing registry found with
  | nil =>
      intro others
      rw [segments_nil]
      rfl
  | complete before segment between hsegments ih =>
      have hbefore := hsegments []
      rw [List.append_nil, List.append_nil] at hbefore
      rw [hsegments] at houtcome
      obtain ⟨_, _, hrest⟩ := bind_eq_ok_iff.1 houtcome
      obtain ⟨_, hothers, _⟩ := map_eq_ok_iff.1 hrest
      have hbetween := ih hothers
      intro others
      rw [hsegments, hbefore, hbetween, List.cons_append]
  | opened first before inner hfirst hopen =>
      exact absurd houtcome (outcome_ne_ok_of_open hheader hfirst hopen rest registry found)

end

/-- What a loop over a range comes to, its body comes to once it is written out: the loop resolves
the markers of its body, puts the values in, and reads what results. -/
theorem outcome_loop_segment
    {datasets : Nat} {header next : SourceLine} {var : Text} {range : Range}
    {body after : List SourceLine} {registry : Registry} {found : Registry × List Statement}
    (hread : Loop.readHeader header.text = .ok (var, .range range.values))
    (hbody : ∀ line ∈ body, line.text.BlankMargin)
    (hrun : outcome datasets registry
      (⟨header :: body ++ [next], (Loop.read header body).map .loop⟩ :: segments after) =
        .ok found) :
    outcome datasets registry (segments (Loop.writtenOut var range.values body ++ after)) =
      .ok found := by
  obtain ⟨first, hfirst, hrest⟩ := bind_eq_ok_iff.1 hrun
  obtain ⟨loop, hloop, hfirst⟩ := Segment.exists_loop_of_run hfirst
  obtain ⟨_, hheader, _, hloopBody⟩ := Loop.read_eq_ok_iff.1 hloop
  rw [hread] at hheader
  obtain ⟨rfl, hsource⟩ := Prod.mk.inj (Except.ok.inj hheader)
  have hvar := Loop.not_isBlank_of_mem_var hread
  have hvalues : loop.values registry = .ok range.values := by
    unfold Loop.values
    rw [← hsource]
  rw [Block.run_loop_result, hvalues] at hfirst
  obtain ⟨_, hsame, hfirst⟩ := bind_eq_ok_iff.1 hfirst
  obtain rfl := Except.ok.inj hsame
  obtain ⟨lines, hunroll, hlines⟩ := bind_eq_ok_iff.1 hfirst
  obtain ⟨resolved, hresolve, rfl⟩ := map_eq_ok_iff.1 hunroll
  obtain ⟨statements, hstatements, rfl⟩ := map_eq_ok_iff.1 hlines
  rw [hloopBody] at hresolve
  rw [Loop.outcome_writtenOut hvar Range.isNumeral_of_mem_values hbody hresolve hstatements]
  exact hrest

/-- A loop over a range can be replaced by its body, once for every value and with the value
put in. -/
theorem ofLines_writtenOut
    {datasets : Nat} {before body after : List SourceLine} {header next : SourceLine}
    {var : Text} {range : Range} {expansion : Expansion}
    (hheader : Keyword.ofLine header.text = .loop)
    (hread : Loop.readHeader header.text = .ok (var, .range range.values))
    (hbody : ∀ line ∈ body, line.KeepsDepth ∧ line.text.BlankMargin)
    (hnext : Keyword.ofLine next.text = .next)
    (hrun : (ofLines ⟨datasets, .abort⟩ (before ++ header :: (body ++ next :: after))).result =
      .ok expansion) :
    (ofLines ⟨datasets, .abort⟩
      (before ++ Loop.writtenOut var range.values body ++ after)).result = .ok expansion := by
  rw [ofLines_abort_eq_map_outcome] at hrun ⊢
  obtain ⟨found, houtcome, rfl⟩ := map_eq_ok_iff.1 hrun
  have hsegments := segments_append_of_outcome hheader before (body ++ next :: after) houtcome
  have hsplit : Loop.splitBody? 0 (body ++ next :: after) = some (body, next, after) := by
    have hcloses : Loop.Closes 0 [] next := (Loop.closes_nil_iff 0 next).2 ⟨hnext, rfl⟩
    rw [Loop.splitBody?_append_of_keepsDepth fun line hline => (hbody line hline).1,
      Loop.splitBody?_cons_of_closes after hcloses]
    simp
  rw [hsegments, segments_cons_of_splitBody?_eq_some hheader hsplit, outcome_append] at houtcome
  obtain ⟨first, hfirst, hrest⟩ := bind_eq_ok_iff.1 houtcome
  obtain ⟨others, hothers, rfl⟩ := map_eq_ok_iff.1 hrest
  have hwritten := outcome_loop_segment hread (fun line hline => (hbody line hline).2) hothers
  refine map_eq_ok_iff.2 ⟨_, ?_, rfl⟩
  rw [List.append_assoc, hsegments, outcome_append]
  exact bind_eq_ok_iff.2 ⟨first, hfirst, map_eq_ok_iff.2 ⟨others, hwritten, rfl⟩⟩

/-- Lines with a marker and with a reference to the loop variable. -/
def numberedSeries : List SourceLine :=
  [⟨3, "\tADD SERIES * q$k".toList⟩, ⟨4, "DEFINE *:r$k = 2 * $q$k".toList⟩]

theorem ofLines_writtenOut_numberedSeries :
    Loop.writtenOut ['k'] (Range.values ⟨1, 2⟩) numberedSeries =
        [⟨3, "\tADD SERIES * q1".toList⟩, ⟨4, "DEFINE *:r1 = 2 * $q1".toList⟩,
          ⟨3, "\tADD SERIES * q2".toList⟩, ⟨4, "DEFINE *:r2 = 2 * $q2".toList⟩] ∧
      ∃ expansion,
        (ofLines ⟨2, .abort⟩ ([⟨1, "ADD CHART".toList⟩] ++ ⟨2, Loop.headerText ['k'] ⟨1, 2⟩⟩ ::
          (numberedSeries ++ ⟨5, "NEXT".toList⟩ :: []))).result = .ok expansion ∧
        (ofLines ⟨2, .abort⟩ ([⟨1, "ADD CHART".toList⟩] ++
          Loop.writtenOut ['k'] (Range.values ⟨1, 2⟩) numberedSeries ++ [])).result =
            .ok expansion := by
  have hrun : ((ofLines ⟨2, .abort⟩ ([⟨1, "ADD CHART".toList⟩] ++
      ⟨2, Loop.headerText ['k'] ⟨1, 2⟩⟩ ::
        (numberedSeries ++ ⟨5, "NEXT".toList⟩ :: []))).result.map fun expansion =>
          expansion.statements.length) = .ok 9 := by
    decide +kernel
  have hrange : Range.Readable ⟨1, 2⟩ := by
    refine ⟨?_, ?_, ?_⟩ <;> decide
  have hvar : Text.IsWord .blanksAndCommas ['k'] := Text.isWord_of_all (by decide) (by decide)
  have hread := Loop.readHeader_headerText hvar (by decide) hrange
  have hbody : ∀ line ∈ numberedSeries, line.KeepsDepth ∧ line.text.BlankMargin := by
    intro line hline
    simp only [numberedSeries, List.mem_cons, List.not_mem_nil, or_false] at hline
    rcases hline with rfl | rfl
    · refine ⟨⟨by decide, by decide⟩, ?_⟩
      intro c hc
      obtain rfl := Option.some.inj hc
      decide
    · refine ⟨⟨by decide, by decide⟩, ?_⟩
      intro c hc
      obtain rfl := Option.some.inj hc
      decide
  refine ⟨by decide, ?_⟩
  obtain ⟨expansion, hresult, _⟩ := map_eq_ok_iff.1 hrun
  exact ⟨expansion, hresult, ofLines_writtenOut (Loop.ofLine_headerText ['k'] ⟨1, 2⟩) hread hbody
    (by decide) hresult⟩

end Expansion

end ChartScript
