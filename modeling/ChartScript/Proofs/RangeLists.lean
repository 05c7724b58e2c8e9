import ChartScript.Proofs.ListContents

/-!
# Loops over lists that hold a range

A loop takes the values of a range from its own header, or from a list that was created with
them:

    FOR variable IN RANGE(low,high)

    LIST NEW name RANGE(low,high)
    FOR variable IN ${name}

The list line writes the values out and cuts them apart again, the header keeps them as they
are, and both loops come to the same statements or the same error.  They part at an empty
range: a list needs a value, while a loop over no values is well-formed.
-/

namespace ChartScript

/-! ## Creating a list from a range -/

namespace Range

theorem values_eq_nil_iff {range : Range} : range.values = [] ↔ range.high < range.low := by
  unfold values length
  rw [List.map_eq_nil_iff, List.range_eq_nil]
  omega

theorem isWord_of_mem_values (range : Range) :
    ∀ word ∈ range.values, Text.IsWord .blanksAndCommas word := by
  intro word hword
  obtain ⟨k, _, rfl⟩ := List.mem_map.1 hword
  exact Loop.isWord_ofInt _

theorem expandAll_of_locate_eq_none {line : Text} (hlocate : locate line = .ok none) :
    expandAll line = .ok line := by
  rw [expandAll]
  split <;> simp_all

theorem expandAll_of_locate_eq_some
    {line : Text} {occurrence : RangeOccurrence} (hlocate : locate line = .ok (some occurrence)) :
    expandAll line = expandAll occurrence.expanded := by
  rw [expandAll]
  split <;> simp_all

theorem expandAll_of_locate_eq_error
    {line : Text} {error : SyntaxError} (hlocate : locate line = .error error) :
    expandAll line = .error error := by
  rw [expandAll]
  split <;> simp_all

end Range

theorem ListOperation.isPlainWord_word (operation : ListOperation) :
    operation.word.IsPlainWord := by
  cases operation with
  | new => exact ⟨Text.isWord_of_all (by decide) (by decide), by decide⟩
  | add => exact ⟨Text.isWord_of_all (by decide) (by decide), by decide⟩

namespace ListStatement

def keyword : Text := ['L', 'I', 'S', 'T']

theorem isPlainWord_keyword : keyword.IsPlainWord :=
  ⟨Text.isWord_of_all (by decide) (by decide), by decide⟩

/-- The line that creates a list with what `rest` stands for. -/
def newText (name rest : Text) : Text :=
  Text.leading [keyword, ListOperation.new.word, name] rest

example : newText ['L'] (Range.text ⟨-1, 1⟩) = "LIST NEW L RANGE(-1,1)".toList := by decide

theorem ofLine_newText (name rest : Text) : Keyword.ofLine (newText name rest) = .list := by
  have hkeyword : Text.IsWord .blanks keyword := Text.isWord_of_all (by decide) (by decide)
  exact Keyword.ofLine_of_tokens (Text.tokens_append_separator hkeyword (by decide) _)

section

variable {name : Text} (hname : name.IsPlainWord)

include hname

theorem isPlainWord_of_mem_front
    {word : Text} (hword : word ∈ [keyword, ListOperation.new.word, name]) :
    word.IsPlainWord := by
  simp only [List.mem_cons, List.not_mem_nil, or_false] at hword
  rcases hword with rfl | rfl | rfl
  · exact isPlainWord_keyword
  · exact ListOperation.new.isPlainWord_word
  · exact hname

theorem cut?_newText (rest : Text) :
    Text.cut? Range.opening (newText name rest) =
      (Text.cut? Range.opening rest).map fun found => (newText name found.1, found.2) :=
  Text.cut?_leading (fun _ hword => isPlainWord_of_mem_front hname hword) rest

theorem tokens_newText
    {words : List Text} (hwords : ∀ word ∈ words, Text.IsWord .blanksAndCommas word) :
    Text.tokens .blanksAndCommas (newText name (Text.joinTokens words)) =
      keyword :: ListOperation.new.word :: name :: words := by
  unfold newText
  rw [Text.tokens_leading fun _ hword => isPlainWord_of_mem_front hname hword,
    Text.tokens_joinTokens hwords]
  rfl

theorem expandAll_newText {range : Range} (hrange : range.Readable) :
    Range.expandAll (newText name range.text) =
      .ok (newText name (Text.joinTokens range.values)) := by
  have hcut : Text.cut? Range.opening (newText name range.text) =
      some (newText name [], range.innerText ++ [')']) := by
    rw [cut?_newText hname, Range.text, List.append_assoc, Text.cut?_append_self]
    rfl
  have hvalues : ¬ Range.opening <:+: Text.joinTokens range.values := fun hinside =>
    range.paren_not_mem_joinTokens_values (hinside.subset (by decide))
  have hdone : Range.locate (newText name (Text.joinTokens range.values)) = .ok none := by
    rw [Range.locate_eq_none_iff, ← Text.cut?_eq_none_iff, cut?_newText hname,
      Text.cut?_eq_none_iff.2 hvalues]
    rfl
  have hexpanded : RangeOccurrence.expanded ⟨newText name [], range, []⟩ =
      newText name (Text.joinTokens range.values) := by
    unfold RangeOccurrence.expanded newText
    rw [Text.leading_append, List.nil_append, List.append_nil]
  rw [Range.expandAll_of_locate_eq_some (Range.locate_append_text hrange hcut), hexpanded,
    Range.expandAll_of_locate_eq_none hdone]

theorem read_newText {range : Range} (hrange : range.Readable) (number : Nat) :
    read ⟨number, newText name range.text⟩ =
      if range.values = [] then .error (.ofFault number .shortList)
      else .ok { line := number, operation := .new, name, tokens := range.values } := by
  unfold read
  simp only [expandAll_newText hname hrange, tokens_newText hname range.isWord_of_mem_values]
  cases range.values with
  | nil => rfl
  | cons value values => rfl

end

end ListStatement

/-! ## Referring to a list -/

namespace LoopSource

/-- The ways to refer to a list. -/
inductive Refers : Text → Text → Prop
  | plain {name : Text} (hname : name ≠ []) (hdollar : name.head? ≠ some '$') : Refers name name
  | bare {name : Text} (hname : name ≠ []) (hbrace : name.head? ≠ some '{') :
      Refers ('$' :: name) name
  | braced {name : Text} (hname : name ≠ []) : Refers ('$' :: '{' :: (name ++ ['}'])) name

theorem listName_eq_ok_iff {reference name : Text} :
    listName reference = .ok name ↔ Refers reference name := by
  constructor
  · intro hlist
    unfold listName at hlist
    simp only at hlist
    split at hlist
    · cases hlist
    · next found hfound =>
        split at hlist
        · cases hlist
        · next hempty =>
            obtain rfl := Except.ok.inj hlist
            have hname : found ≠ [] := by simpa using hempty
            split at hfound
            · next inside =>
                obtain ⟨hlast, heq⟩ := Option.ite_none_right_eq_some.1 hfound
                obtain rfl := Option.some.inj heq
                have hrefers := Refers.braced hname
                rwa [List.dropLast_append_getLast? '}' hlast] at hrefers
            · next inside hbrace =>
                obtain rfl := Option.some.inj hfound
                refine .bare hname fun hhead => ?_
                obtain ⟨rest, hrest⟩ := List.head?_eq_some_iff.1 hhead
                exact hbrace rest hrest
            · next hbrace hdollar =>
                obtain rfl := Option.some.inj hfound
                refine .plain hname fun hhead => ?_
                obtain ⟨rest, hrest⟩ := List.head?_eq_some_iff.1 hhead
                exact hdollar rest hrest
  · rintro (⟨hname, hdollar⟩ | ⟨hname, hbrace⟩ | hname)
    · obtain ⟨c, rest, rfl⟩ := List.exists_cons_of_ne_nil hname
      have hc : c ≠ '$' := fun heq => hdollar (congrArg some heq)
      simp [listName, hc]
    · obtain ⟨c, rest, rfl⟩ := List.exists_cons_of_ne_nil hname
      have hc : c ≠ '{' := fun heq => hbrace (congrArg some heq)
      simp [listName, hc]
    · simp [listName, hname]

/-- The ways to write a reference to a list in the header of a loop. -/
def references (name : Text) : List Text := [name, '$' :: name, '$' :: '{' :: (name ++ ['}'])]

section

variable {name : Text} (hname : name.IsPlainWord)

include hname

theorem isWord_of_mem_references
    {reference : Text} (hreference : reference ∈ references name) :
    Text.IsWord .blanksAndCommas reference := by
  have hdollar : Text.IsWord .blanksAndCommas ['$'] := Text.isWord_of_all (by decide) (by decide)
  have hopen : Text.IsWord .blanksAndCommas ['$', '{'] :=
    Text.isWord_of_all (by decide) (by decide)
  have hclose : Text.IsWord .blanksAndCommas ['}'] := Text.isWord_of_all (by decide) (by decide)
  simp only [references, List.mem_cons, List.not_mem_nil, or_false] at hreference
  rcases hreference with rfl | rfl | rfl
  · exact hname.1
  · exact hdollar.append hname.1
  · exact hopen.append (hname.1.append hclose)

theorem not_range_of_mem_references
    {reference : Text} (hreference : reference ∈ references name) :
    Range.opening.isPrefixOf reference = false := by
  rw [Bool.eq_false_iff]
  intro hprefix
  have hbegins := List.isPrefixOf_iff_prefix.1 hprefix
  simp only [references, List.mem_cons, List.not_mem_nil, or_false] at hreference
  rcases hreference with rfl | rfl | rfl
  · exact hname.2 hbegins.isInfix
  · cases (List.cons_prefix_cons.1 hbegins).1
  · cases (List.cons_prefix_cons.1 hbegins).1

theorem refers_of_mem_references
    (hdollar : name.head? ≠ some '$') (hbrace : name.head? ≠ some '{')
    {reference : Text} (hreference : reference ∈ references name) :
    Refers reference name := by
  simp only [references, List.mem_cons, List.not_mem_nil, or_false] at hreference
  rcases hreference with rfl | rfl | rfl
  · exact .plain hname.1.1 hdollar
  · exact .bare hname.1.1 hbrace
  · exact .braced hname.1.1

end

end LoopSource

namespace Loop

theorem readHeader_headerOver
    {var name reference : Text} (hvar : var.IsPlainWord) (hname : name.IsPlainWord)
    (hdollar : name.head? ≠ some '$') (hbrace : name.head? ≠ some '{')
    (hreference : reference ∈ LoopSource.references name) :
    readHeader (headerOver var reference) = .ok (var, .list name) := by
  have hword := LoopSource.isWord_of_mem_references hname hreference
  have hrange := LoopSource.not_range_of_mem_references hname hreference
  have hlist := LoopSource.listName_eq_ok_iff.2
    (LoopSource.refers_of_mem_references hname hdollar hbrace hreference)
  unfold readHeader
  simp only [tokens_headerOver hvar, Text.tokens_of_isWord hword, List.cons_append,
    List.nil_append, if_true, LoopSource.ofTokens, hrange, hlist]
  rfl

end Loop

/-! ## Runs -/

/-- The lines of a loop over what `source` stands for, `next` being the one that closes it. -/
def Loop.lines (number : Nat) (var source : Text) (body : List SourceLine) (next : SourceLine) :
    List SourceLine :=
  ⟨number, headerOver var source⟩ :: (body ++ [next])

theorem segments_loopLines
    {var source : Text} {found : LoopSource} {body : List SourceLine} {next : SourceLine}
    (hread : Loop.readHeader (Loop.headerOver var source) = .ok (var, found))
    (hbody : ∀ line ∈ body, line.KeepsDepth) (hnext : Keyword.ofLine next.text = .next)
    (number : Nat) :
    segments (Loop.lines number var source body next) =
      [⟨Loop.lines number var source body next,
        .ok (.loop { line := number, var, source := found, body })⟩] := by
  have hcloses : Loop.Closes 0 [] next := (Loop.closes_nil_iff 0 next).2 ⟨hnext, rfl⟩
  have hsplit : Loop.splitBody? 0 (body ++ [next]) = some (body, next, []) := by
    rw [Loop.splitBody?_append_of_keepsDepth hbody, Loop.splitBody?_cons_of_closes [] hcloses]
    simp
  have hloop : Loop.read ⟨number, Loop.headerOver var source⟩ body =
      .ok { line := number, var, source := found, body } :=
    Loop.read_eq_ok_iff.2 ⟨fun line hline => (hbody line hline).ne_loop, hread, rfl, rfl⟩
  unfold Loop.lines
  rw [segments_cons_of_splitBody?_eq_some (Loop.ofLine_headerOver var source) hsplit, hloop,
    segments_nil]
  rfl

/-- The line creates the list, unless the range is empty. -/
theorem segments_newText
    {range : Range} (hrange : range.Readable) {name : Text} (hname : name.IsPlainWord)
    (number : Nat) (rest : List SourceLine) :
    segments (⟨number, ListStatement.newText name range.text⟩ :: rest) =
      ⟨[⟨number, ListStatement.newText name range.text⟩],
        if range.values = [] then .error (.ofFault number .shortList)
        else .ok (.list { line := number, operation := .new, name, tokens := range.values })⟩ ::
          segments rest := by
  have hlist := ListStatement.ofLine_newText name range.text
  have hloop : Keyword.ofLine (ListStatement.newText name range.text) ≠ .loop := by
    rw [hlist]
    decide
  rw [segments_cons_single rest hloop]
  unfold Block.ofLine
  simp only [hlist, ListStatement.read_newText hname hrange]
  split <;> rfl

/-- A loop over no values runs no times, but the markers of its body have to be well-formed. -/
theorem Segment.run_loop_of_no_values
    {segment : Segment} {number : Nat} {var : Text} {body : List SourceLine}
    (hblock : segment.block = .ok (.loop ⟨number, var, .range [], body⟩)) (datasets : Nat)
    (registry : Registry) :
    segment.run datasets registry =
      ⟨[.loop number var 0 body.length],
        (SourceLine.resolveMarkers datasets body).map fun _ => (registry, [])⟩ := by
  unfold Segment.run
  rw [hblock]
  simp only [Block.run, Block.updateLists, Block.read, Block.resolve, Loop.resolve, Loop.values,
    Loop.unroll]
  cases SourceLine.resolveMarkers datasets body with
  | error error => rfl
  | ok lines => rfl

namespace Expansion

theorem map_statements_ofSegments_abort
    (datasets : Nat) (registry : Registry) (list : List Segment) :
    (ofSegments ⟨datasets, .abort⟩ registry list).result.map Expansion.statements =
      (outcome datasets registry list).map Prod.snd := by
  rw [ofSegments_abort_eq_map_outcome]
  cases outcome datasets registry list <;> rfl

/-- Two loops that differ in their sources come to the same if these stand for the same
values. -/
theorem map_snd_outcome_loop
    {datasets : Nat} {segment other : Segment} {loop : Loop} {source : LoopSource}
    {registry lists : Registry} (hblock : segment.block = .ok (.loop loop))
    (hother : other.block = .ok (.loop { loop with source }))
    (hvalues : loop.values registry = Loop.values lists { loop with source }) :
    (outcome datasets registry [segment]).map Prod.snd =
      (outcome datasets lists [other]).map Prod.snd := by
  simp only [outcome, Segment.run, hblock, hother, Block.run_loop_result, hvalues]
  cases Loop.values lists { loop with source } with
  | error error => rfl
  | ok values =>
      simp only [bind, Except.bind, Loop.unroll]
      cases SourceLine.resolveMarkers datasets loop.body with
      | error error => rfl
      | ok resolved =>
          simp only [Except.map]
          cases (values.flatMap fun value =>
              resolved.map (Loop.instantiate loop.var value)).mapM Statement.read with
          | error error => rfl
          | ok statements => rfl

/-- Creating a list adds no statements. -/
theorem map_snd_outcome_new
    {datasets : Nat} {segment : Segment} {statement : ListStatement}
    (hblock : segment.block = .ok (.list statement)) (hnew : statement.operation = .new)
    (registry : Registry) (rest : List Segment) :
    (outcome datasets registry (segment :: rest)).map Prod.snd =
      (outcome datasets (registry.set statement.name statement.tokens) rest).map Prod.snd := by
  have happly : registry.apply statement =
      .ok (registry.set statement.name statement.tokens) :=
    Registry.apply_eq_ok_iff.2 (.inl ⟨hnew, rfl⟩)
  rw [outcome, Segment.run_of_list hblock, happly]
  simp only [Except.map, bind, Except.bind]
  cases outcome datasets (registry.set statement.name statement.tokens) rest <;> rfl

/-- Looping over a list that was created from a range comes to the same as looping over the
range, unless it is empty: then the list is refused, and the lists stay as they were. -/
theorem ofSegments_rangeList
    {range : Range} (hrange : range.Readable) {var name : Text} (hvar : var.IsPlainWord)
    (hname : name.IsPlainWord) (hdollar : name.head? ≠ some '$') (hbrace : name.head? ≠ some '{')
    {reference : Text} (hreference : reference ∈ LoopSource.references name)
    {body : List SourceLine} (hbody : ∀ line ∈ body, line.KeepsDepth)
    {next : SourceLine} (hnext : Keyword.ofLine next.text = .next)
    (datasets listLine loopLine : Nat) (registry : Registry) :
    (range.low ≤ range.high →
      (ofSegments ⟨datasets, .abort⟩ registry
        (segments (⟨listLine, ListStatement.newText name range.text⟩ ::
          Loop.lines loopLine var reference body next))).result.map Expansion.statements =
        (ofSegments ⟨datasets, .abort⟩ registry
          (segments (Loop.lines loopLine var range.text body next))).result.map
            Expansion.statements) ∧
    (range.high < range.low →
      (∀ rest,
        (ofSegments ⟨datasets, .abort⟩ registry
          (segments (⟨listLine, ListStatement.newText name range.text⟩ :: rest))).result =
            .error (.ofFault listLine .shortList) ∧
        (ofSegments ⟨datasets, .skip⟩ registry
          (segments (⟨listLine, ListStatement.newText name range.text⟩ :: rest))).result =
            (ofSegments ⟨datasets, .skip⟩ registry (segments rest)).result.map
              (prependSkipped (.ofFault listLine .shortList))) ∧
      ofSegments ⟨datasets, .abort⟩ registry
        (segments (Loop.lines loopLine var range.text body next)) =
          ⟨[.loop loopLine var 0 body.length],
            (SourceLine.resolveMarkers datasets body).map fun _ =>
              { statements := [], skipped := [], lists := registry }⟩) := by
  have hheader : Loop.readHeader (Loop.headerOver var range.text) =
      .ok (var, .range range.values) := Loop.readHeader_headerText hvar.1 hvar.2 hrange
  have hdirect := segments_loopLines hheader hbody hnext loopLine
  have hnamed := segments_loopLines
    (Loop.readHeader_headerOver hvar hname hdollar hbrace hreference) hbody hnext loopLine
  have hcreate := segments_newText hrange hname listLine
  constructor
  · intro hle
    have hvalues : range.values ≠ [] := fun hnil =>
      absurd (Range.values_eq_nil_iff.1 hnil) (Int.not_lt.2 hle)
    rw [map_statements_ofSegments_abort, map_statements_ofSegments_abort, hcreate, hnamed,
      hdirect, if_neg hvalues, map_snd_outcome_new rfl rfl]
    apply map_snd_outcome_loop rfl rfl
    simp [Loop.values]
  · intro hlt
    have hvalues := Range.values_eq_nil_iff.2 hlt
    refine ⟨?_, ?_⟩
    · intro rest
      rw [hcreate, if_pos hvalues]
      exact ⟨rfl, rfl⟩
    · rw [hdirect, hvalues]
      unfold ofSegments
      rw [Segment.run_loop_of_no_values rfl]
      cases SourceLine.resolveMarkers datasets body with
      | error error => rfl
      | ok lines => rfl

/-- A line with a marker and a reference to the loop variable. -/
def signedSeries : List SourceLine := [⟨3, "ADD SERIES * q${k}".toList⟩]

theorem ofSegments_rangeList_signedSeries :
    (ofSegments ⟨1, .abort⟩ .empty
      (segments (⟨1, ListStatement.newText ['L'] (Range.text ⟨-1, 1⟩)⟩ ::
        Loop.lines 2 ['k'] "${L}".toList signedSeries ⟨4, "NEXT".toList⟩))).result.map
          Expansion.statements =
      .ok [⟨3, .addSeries 1 "q-1".toList none⟩, ⟨3, .addSeries 1 "q0".toList none⟩,
        ⟨3, .addSeries 1 "q1".toList none⟩] ∧
    (ofSegments ⟨1, .skip⟩ .empty
      (segments [⟨1, ListStatement.newText ['L'] (Range.text ⟨1, -1⟩)⟩])).result =
        .ok { statements := [], skipped := [.ofFault 1 .shortList], lists := .empty } ∧
    ofSegments ⟨1, .abort⟩ .empty
      (segments (Loop.lines 2 ['k'] (Range.text ⟨1, -1⟩) signedSeries ⟨4, "NEXT".toList⟩)) =
        ⟨[.loop 2 ['k'] 0 1], .ok { statements := [], skipped := [], lists := .empty }⟩ := by
  have hup : Range.Readable ⟨-1, 1⟩ := by
    refine ⟨?_, ?_, ?_⟩ <;> decide
  have hdown : Range.Readable ⟨1, -1⟩ := by
    refine ⟨?_, ?_, ?_⟩ <;> decide
  have hvar : Text.IsPlainWord ['k'] := ⟨Text.isWord_of_all (by decide) (by decide), by decide⟩
  have hname : Text.IsPlainWord ['L'] := ⟨Text.isWord_of_all (by decide) (by decide), by decide⟩
  have hreference : "${L}".toList ∈ LoopSource.references ['L'] := by decide
  have hbody : ∀ line ∈ signedSeries, line.KeepsDepth := by
    intro line hline
    rw [List.mem_singleton.1 hline]
    exact ⟨by decide, by decide⟩
  have hnext : Keyword.ofLine (SourceLine.mk 4 "NEXT".toList).text = .next := by decide
  have hsame := (ofSegments_rangeList hup hvar hname (by decide) (by decide) hreference hbody hnext
    1 1 2 .empty).1 (by decide)
  obtain ⟨hrefused, hempty⟩ := (ofSegments_rangeList hdown hvar hname (by decide) (by decide)
    hreference hbody hnext 1 1 2 .empty).2 (by decide)
  refine ⟨?_, ?_, ?_⟩
  · rw [hsame]
    decide +kernel
  · rw [(hrefused []).2, segments_nil]
    rfl
  · rw [hempty]
    rfl

end Expansion

end ChartScript
