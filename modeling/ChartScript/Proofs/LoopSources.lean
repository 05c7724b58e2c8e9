import ChartScript.Proofs.LineTokens
import ChartScript.Proofs.SeriesMarkers
import ChartScript.Proofs.WrittenLists

/-!
# The sources of loops

The header of a loop that is accepted holds the keyword, the variable, `IN` and a source, with
blanks, tabs and commas between them.  The source is one reference to a list, or one range, which
is the first of the line: no variable can hold the opening of another.

Behind a reference stand separators only.  What stands behind the closing parenthesis of a range
is not looked at, so it can be anything.
-/

namespace ChartScript

namespace Text

/-- Behind a token the next one stands after a gap. -/
theorem exists_gap_of_tokens
    {line word : Text} {words : List Text}
    (hends : ∀ c, line.head? = some c → Separators.contains .blanksAndCommas c = true)
    (htokens : tokens .blanksAndCommas line = word :: words) :
    ∃ gap : Gap, ∃ rest, line = gap.text ++ (word ++ rest) ∧ IsWord .blanksAndCommas word ∧
      (∀ c, rest.head? = some c → Separators.contains .blanksAndCommas c = true) ∧
        tokens .blanksAndCommas rest = words := by
  obtain ⟨margin, rest, rfl, hmargin, hword, hrest⟩ := exists_margin_of_tokens htokens
  exact ⟨⟨margin, ne_nil_of_in_front hword hends, hmargin⟩, rest, rfl, hword, hrest⟩

end Text

theorem Keyword.exists_tokens_of_loop {line : Text} (hline : Keyword.ofLine line = .loop) :
    ∃ words, Text.tokens .blanks line = Loop.headerWord :: words := by
  cases htokens : Text.tokens .blanks line with
  | nil =>
      unfold Keyword.ofLine Text.firstToken? at hline
      rw [htokens] at hline
      cases hline
  | cons word words =>
      rw [Keyword.ofLine_of_tokens htokens] at hline
      have hword : word = Loop.headerWord := by
        unfold Keyword.ofToken at hline
        split_ifs at hline with _ hword
        exact hword
      exact ⟨words, by rw [hword]⟩

/-- A comma does not hide the keyword of a loop. -/
theorem Keyword.exists_comma_tokens_of_loop
    {line : Text} (hline : Keyword.ofLine line = .loop) :
    ∃ words, Text.tokens .blanksAndCommas line = Loop.headerWord :: words := by
  obtain ⟨words, htokens⟩ := Keyword.exists_tokens_of_loop hline
  exact ⟨_, Text.tokens_blanksAndCommas_cons htokens (by decide)⟩

/-! ## What stands in front of a source -/

namespace Loop

/-- The header of a loop up to its source. -/
structure HeaderFront where
  margin : Text
  before : Text.Gap
  var : Text
  behind : Text.Gap
  ahead : Text.Gap
  margin_separates : ∀ c ∈ margin, Separators.contains .blanksAndCommas c = true
  isWord : Text.IsWord .blanksAndCommas var

namespace HeaderFront

/-- What stands in front of the variable. -/
def start (front : HeaderFront) : Text := front.margin ++ (headerWord ++ front.before.text)

/-- What stands behind the variable. -/
def stop (front : HeaderFront) : Text :=
  front.behind.text ++ (LoopSource.inWord ++ front.ahead.text)

def text (front : HeaderFront) : Text := front.start ++ (front.var ++ front.stop)

theorem tokens_append (front : HeaderFront) (rest : Text) :
    Text.tokens .blanksAndCommas (front.text ++ rest) =
      headerWord :: front.var :: LoopSource.inWord :: Text.tokens .blanksAndCommas rest := by
  have hword : Text.IsWord .blanksAndCommas headerWord :=
    Text.isWord_of_all (by decide) (by decide)
  have hin : Text.IsWord .blanksAndCommas LoopSource.inWord :=
    Text.isWord_of_all (by decide) (by decide)
  unfold text start stop
  simp only [List.append_assoc]
  rw [Text.tokens_append_word front.margin_separates hword
      fun _ => front.before.contains_of_head?_append,
    Text.tokens_append_word front.before.separates front.isWord
      fun _ => front.behind.contains_of_head?_append,
    Text.tokens_append_word front.behind.separates hin
      fun _ => front.ahead.contains_of_head?_append,
    front.ahead.tokens_append]

theorem passes_start (front : HeaderFront) : Text.Passes Range.opening front.start := by
  have hmargin : Text.Passes Range.opening front.margin := by
    refine .of_forall_not_mem Range.opening_ne_nil fun c hc hmem => ?_
    exact Range.not_separator_of_mem_opening hmem (front.margin_separates c hc)
  exact hmargin.append (front.before.passes (by decide))

theorem passes_text (front : HeaderFront) (hvar : ¬ Range.opening <:+: front.var) :
    Text.Passes Range.opening front.text := by
  have hstop : Text.Passes Range.opening (LoopSource.inWord ++ front.ahead.text) :=
    front.ahead.passes (by decide)
  have hbehind := (front.behind.passes hvar).append hstop
  rw [List.append_assoc] at hbehind
  exact front.passes_start.append hbehind

end HeaderFront

theorem exists_front_of_tokens
    {header var token : Text} {more : List Text}
    (htokens : Text.tokens .blanksAndCommas header =
      headerWord :: var :: LoopSource.inWord :: token :: more) :
    ∃ front : HeaderFront, ∃ rest, header = front.text ++ (token ++ rest) ∧ front.var = var ∧
      Text.IsWord .blanksAndCommas token ∧
        (∀ c, rest.head? = some c → Separators.contains .blanksAndCommas c = true) ∧
          Text.tokens .blanksAndCommas rest = more := by
  obtain ⟨margin, rest, rfl, hmargin, _, hrest, hvar⟩ := Text.exists_margin_of_tokens htokens
  obtain ⟨before, rest, rfl, hword, hrest, hin⟩ := Text.exists_gap_of_tokens hrest hvar
  obtain ⟨behind, rest, rfl, _, hrest, hsource⟩ := Text.exists_gap_of_tokens hrest hin
  obtain ⟨ahead, rest, rfl, htoken, hrest, hmore⟩ := Text.exists_gap_of_tokens hrest hsource
  refine ⟨⟨margin, before, var, behind, ahead, hmargin, hword⟩, rest, ?_, rfl, htoken, hrest,
    hmore⟩
  simp [HeaderFront.text, HeaderFront.start, HeaderFront.stop]

end Loop

/-! ## Sources -/

namespace LoopSource

/-- A source as it is written: one token that refers to a list, or a range with its parentheses
and everything between them. -/
inductive Written : LoopSource → Text → Prop
  | list {reference name : Text} (hword : Text.IsWord .blanksAndCommas reference)
      (hrange : ¬ Range.opening <+: reference) (hrefers : Refers reference name) :
      Written (.list name) reference
  | range {range : Range} {inner : Text} (hspells : range.Spells inner)
      (hreadable : range.Readable) :
      Written (.range range.values) (Range.opening ++ (inner ++ [')']))

/-- Only separators stand behind a reference to a list, and no variable with the opening of a
range stands in front of a range. -/
def Allows (var after : Text) : LoopSource → Prop
  | .list _ => ∀ c ∈ after, Separators.contains .blanksAndCommas c = true
  | .range _ => ¬ Range.opening <:+: var

end LoopSource

/-! ## The first range of a header -/

theorem Range.Spells.comma_mem {range : Range} {inner : Text} (hspells : range.Spells inner) :
    ',' ∈ inner := by
  obtain ⟨_, _, _, _, _, _⟩ := hspells
  simp

namespace Loop

namespace HeaderFront

/-- Where the variable holds the opening of a range, no range is read.  Either the variable closes
it, but holds no comma, or it is closed behind the word `IN`, which is no part of a number. -/
theorem not_infix_of_firstIn
    (front : HeaderFront) {rest before inner after : Text} {range : Range}
    (hfirst : Range.FirstIn (front.text ++ rest) before inner after)
    (hspells : range.Spells inner) :
    ¬ Range.opening <:+: front.var := by
  intro hvar
  cases hcut : Text.cut? Range.opening front.var with
  | none => exact Text.cut?_eq_none_iff.1 hcut hvar
  | some found =>
      obtain ⟨ahead, behind⟩ := found
      have hvarText := Text.eq_of_cut?_eq_some hcut
      have hahead := Text.not_infix_of_cut?_eq_some Range.opening_ne_nil hcut
      have hline : front.text ++ rest =
          (front.start ++ ahead) ++ (Range.opening ++ (behind ++ (front.stop ++ rest))) := by
        rw [HeaderFront.text, hvarText]
        simp
      have hstart : ¬ Range.opening <:+: front.start ++ ahead := by
        rwa [front.passes_start.infix_append_iff]
      have hcutLine := hfirst.cut?_eq
      rw [hline, Range.cut?_opening hstart, Option.some_inj] at hcutLine
      obtain ⟨_, hinner⟩ := Prod.mk.inj hcutLine
      by_cases hclose : ')' ∈ behind
      · obtain ⟨inside, back, rfl, hinside⟩ := List.eq_append_cons_of_mem hclose
        have hsame := congrArg (List.takeWhile (· != ')')) hinner
        rw [List.append_assoc, List.cons_append, Text.takeWhile_bne_append hinside,
          Text.takeWhile_bne_append hfirst.closes] at hsame
        have hcomma : ',' ∈ front.var := by
          rw [hvarText, hsame]
          simp [hspells.comma_mem]
        have hword := front.isWord.2 ',' hcomma
        cases hword
      · have hbegins : behind ++ (front.behind.text ++ ['I']) <+: inner ++ ')' :: after := by
          rw [← hinner]
          refine ⟨'N' :: (front.ahead.text ++ rest), ?_⟩
          simp [HeaderFront.stop, LoopSource.inWord]
        have hno : ')' ∉ behind ++ (front.behind.text ++ ['I']) := by
          simp only [List.mem_append, not_or]
          refine ⟨hclose, ?_, by decide⟩
          intro hmem
          have hseparator := front.behind.separates ')' hmem
          cases hseparator
        have hinside := (Text.begins_of_begins_append_cons hno inner after hbegins).subset
        have hin : 'I' ∈ inner := hinside (by simp)
        exact hspells.not_mem (by decide) (by decide) (by decide) hin

theorem firstIn
    (front : HeaderFront) (hvar : ¬ Range.opening <:+: front.var) {inner : Text} {range : Range}
    (hspells : range.Spells inner) (after : Text) :
    Range.FirstIn (front.text ++ (Range.opening ++ (inner ++ [')']) ++ after)) front.text inner
      after := by
  refine ⟨by simp, ?_, hspells.not_mem (by decide) (by decide) (by decide)⟩
  have hnil : ¬ Range.opening <:+: [] := by decide
  rwa [← (front.passes_text hvar).infix_append_iff, List.append_nil] at hnil

end HeaderFront

/-! ## Reading headers -/

/-- A header with its variable, its source and what stands behind the source. -/
inductive HasSource : (header var : Text) → LoopSource → (after : Text) → Prop
  | mk (front : HeaderFront) {source : LoopSource} {text : Text} (hwritten : source.Written text)
      (after : Text) : HasSource (front.text ++ (text ++ after)) front.var source after

/-- Nothing but separators stands behind the source. -/
def ReadsWhole (header var : Text) (source : LoopSource) : Prop :=
  ∃ after, HasSource header var source after ∧
    ∀ c ∈ after, Separators.contains .blanksAndCommas c = true

theorem exists_hasSource_of_readHeader
    {header var : Text} {source : LoopSource} (hkeyword : Keyword.ofLine header = .loop)
    (hread : readHeader header = .ok (var, source)) :
    ∃ after, HasSource header var source after ∧ source.Allows var after := by
  obtain ⟨first, token, more, htokens, hsource⟩ := readHeader_eq_ok hread
  obtain ⟨words, hwords⟩ := Keyword.exists_comma_tokens_of_loop hkeyword
  obtain rfl : first = headerWord := (List.cons.inj (htokens.symm.trans hwords)).1
  obtain ⟨front, rest, hheader, rfl, htoken, hrest, hmore⟩ := exists_front_of_tokens htokens
  unfold LoopSource.ofTokens at hsource
  split at hsource
  · next hbegins =>
      obtain ⟨back, rfl⟩ := List.isPrefixOf_iff_prefix.1 hbegins
      obtain ⟨values, hvalues, rfl⟩ := map_eq_ok_iff.1 hsource
      obtain ⟨occurrence, hlocate, rfl⟩ := Range.valuesIn_eq_ok_iff.1 hvalues
      obtain ⟨inner, hfirst, hspells, hreadable⟩ := Range.locate_eq_some_iff.1 hlocate
      rw [hheader] at hfirst
      have hvar := front.not_infix_of_firstIn hfirst hspells
      have hcut := hfirst.cut?_eq
      rw [front.passes_text hvar, List.append_assoc, Text.cut?_append_self, Option.map_some,
        Option.some_inj] at hcut
      obtain ⟨_, hinner⟩ := Prod.mk.inj hcut
      have hhas := HasSource.mk front (.range hspells hreadable) occurrence.after
      have htext : Range.opening ++ (inner ++ [')']) ++ occurrence.after =
          Range.opening ++ back ++ rest := by
        have hinner : back ++ rest = inner ++ ')' :: occurrence.after := hinner
        rw [List.append_assoc, List.append_assoc, List.append_assoc, hinner]
        rfl
      rw [htext, ← hheader] at hhas
      exact ⟨occurrence.after, hhas, hvar⟩
  · next hbegins =>
      split at hsource
      · cases hsource
      · next hempty =>
          split at hsource
          · cases hsource
          · next name hlist =>
              obtain rfl := Except.ok.inj hsource
              have hnone : more = [] := by simpa using hempty
              have hrange : ¬ Range.opening <+: token := by
                rwa [← List.isPrefixOf_iff_prefix]
              have hwritten : (LoopSource.list name).Written token :=
                .list htoken hrange (LoopSource.listName_eq_ok_iff.1 hlist)
              rw [hheader]
              exact ⟨rest, .mk front hwritten rest, Text.tokens_eq_nil_iff.1 (hmore.trans hnone)⟩

theorem HasSource.readHeader_eq_ok
    {header var after : Text} {source : LoopSource} (hsource : HasSource header var source after)
    (hallows : source.Allows var after) :
    readHeader header = .ok (var, source) := by
  obtain @⟨front, source, text, hwritten, after⟩ := hsource
  unfold readHeader
  rw [front.tokens_append]
  cases hwritten with
  | list hword hrange hrefers =>
      have hends : ∀ c, after.head? = some c → Separators.contains .blanksAndCommas c = true :=
        fun c hc => hallows c (List.mem_of_head? hc)
      have hnot : ¬ Range.opening.isPrefixOf text = true := by
        rwa [List.isPrefixOf_iff_prefix]
      rw [Text.tokens_append_of_head text hends, Text.tokens_of_isWord hword,
        Text.tokens_eq_nil_iff.2 hallows]
      simp only [List.singleton_append, if_true, LoopSource.ofTokens, if_neg hnot,
        LoopSource.listName_eq_ok_iff.2 hrefers]
      rfl
  | range hspells hreadable =>
      have hopening : Text.IsWord .blanksAndCommas Range.opening :=
        Text.isWord_of_all (by decide) (by decide)
      have hvalues := (front.firstIn hallows hspells after).valuesIn_eq hspells hreadable
      rw [List.append_assoc] at hvalues ⊢
      obtain ⟨back, more, htokens⟩ := Text.exists_tokens_append hopening (_ ++ after)
      have hbegins : Range.opening.isPrefixOf (Range.opening ++ back) = true :=
        List.isPrefixOf_iff_prefix.2 (List.prefix_append _ _)
      rw [htokens]
      simp only [if_true, LoopSource.ofTokens, hbegins, hvalues]
      rfl

/-- A header is accepted exactly if it is written so. -/
theorem readHeader_eq_ok_iff
    {header var : Text} {source : LoopSource} (hkeyword : Keyword.ofLine header = .loop) :
    readHeader header = .ok (var, source) ↔
      ∃ after, HasSource header var source after ∧ source.Allows var after := by
  constructor
  · exact exists_hasSource_of_readHeader hkeyword
  · rintro ⟨after, hsource, hallows⟩
    exact hsource.readHeader_eq_ok hallows

theorem HasSource.after_unique
    {header var after other : Text} {values : List Text}
    (hsource : HasSource header var (.range values) after)
    (hother : HasSource header var (.range values) other) (hvar : ¬ Range.opening <:+: var) :
    other = after := by
  have hfirst : ∀ {after}, HasSource header var (.range values) after →
      ∃ before inner, Range.FirstIn header before inner after := by
    intro after hsource
    generalize hvalues : LoopSource.range values = source at hsource
    obtain ⟨front, hwritten, after⟩ := hsource
    cases hwritten with
    | list => cases hvalues
    | range hspells => exact ⟨_, _, front.firstIn hvar hspells after⟩
  obtain ⟨_, _, hhere⟩ := hfirst hsource
  obtain ⟨_, _, hthere⟩ := hfirst hother
  exact (hthere.unique hhere).2.2

/-- Nothing is ignored exactly if only separators stand behind the source. -/
theorem HasSource.readsWhole_iff
    {header var after : Text} {source : LoopSource} (hsource : HasSource header var source after)
    (hallows : source.Allows var after) :
    ReadsWhole header var source ↔ ∀ c ∈ after, Separators.contains .blanksAndCommas c = true := by
  constructor
  · rintro ⟨other, hother, hseparates⟩
    cases source with
    | list name => exact hallows
    | range values => exact hsource.after_unique hother hallows ▸ hseparates
  · exact fun hseparates => ⟨after, hsource, hseparates⟩

end Loop

/-! ## Accepted loops -/

/-- The segment of a loop that is closed and holds no other loop. -/
structure Segment.Encloses
    (segment : Segment) (header : SourceLine) (body : List SourceLine) (next : SourceLine) :
    Prop where
  lines_eq : segment.lines = header :: body ++ [next]
  header_loop : Keyword.ofLine header.text = .loop
  closes : Loop.ClosesFirst 0 body next
  not_nested : ∀ line ∈ body, Keyword.ofLine line.text ≠ .loop

theorem Segment.Leads.block_eq_of_encloses
    {lines after : List SourceLine} {segment : Segment} {header next : SourceLine}
    {body : List SourceLine} (hleads : segment.Leads lines after)
    (hencloses : segment.Encloses header body next) :
    segment.block = (Loop.read header body).map .loop := by
  have hlines := hencloses.lines_eq
  cases hleads with
  | single => simp at hlines
  | closed after hheader hfirst =>
      obtain ⟨hfront, hback⟩ := List.append_inj' hlines rfl
      obtain ⟨rfl, rfl⟩ := List.cons.inj hfront
      rfl
  | unclosed hheader hopen =>
      obtain ⟨_, hrest⟩ := List.cons.inj hlines
      exact absurd hencloses.closes (hopen body next [] hrest)

theorem Segment.Leads.exists_encloses
    {lines after : List SourceLine} {segment : Segment} {loop : Loop}
    (hleads : segment.Leads lines after) (hblock : segment.block = .ok (.loop loop)) :
    ∃ header next, segment.Encloses header loop.body next ∧
      Loop.readHeader header.text = .ok (loop.var, loop.source) := by
  cases hleads with
  | single rest hline => exact absurd hblock (Block.ofLine_ne_loop _ loop)
  | @closed header next body after hheader hfirst =>
      obtain ⟨found, hread, heq⟩ := map_eq_ok_iff.1 hblock
      obtain rfl := Block.loop.inj heq
      obtain ⟨hloops, hsource, _, rfl⟩ := Loop.read_eq_ok_iff.1 hread
      exact ⟨header, next, ⟨rfl, hheader, hfirst, hloops⟩, hsource⟩
  | unclosed hheader hopen => cases hblock

/-- A loop is accepted exactly if it is closed, holds no other loop and has a header with a source.
Behind a reference to a list stand separators only; behind a range stands anything, and a part of
the header is ignored exactly if that is more than separators. -/
theorem segment_block_eq_loop_iff
    {lines : List SourceLine} {segment : Segment} (hmem : segment ∈ segments lines)
    (var : Text) (source : LoopSource) :
    (∃ loop, segment.block = .ok (.loop loop) ∧ loop.var = var ∧ loop.source = source) ↔
      ∃ header body next after, segment.Encloses header body next ∧
        Loop.HasSource header.text var source after ∧ source.Allows var after ∧
          (Loop.ReadsWhole header.text var source ↔
            ∀ c ∈ after, Separators.contains .blanksAndCommas c = true) := by
  obtain ⟨file, rest, hleads⟩ := exists_leads_of_mem hmem
  constructor
  · rintro ⟨loop, hblock, rfl, rfl⟩
    obtain ⟨header, next, hencloses, hread⟩ := hleads.exists_encloses hblock
    obtain ⟨after, hsource, hallows⟩ :=
      (Loop.readHeader_eq_ok_iff hencloses.header_loop).1 hread
    exact ⟨header, loop.body, next, after, hencloses, hsource, hallows,
      hsource.readsWhole_iff hallows⟩
  · rintro ⟨header, body, next, after, hencloses, hsource, hallows, _⟩
    have hread : Loop.read header body = .ok { line := header.number, var, source, body } :=
      Loop.read_eq_ok_iff.2
        ⟨hencloses.not_nested, hsource.readHeader_eq_ok hallows, rfl, rfl⟩
    refine ⟨{ line := header.number, var, source, body }, ?_, rfl, rfl⟩
    rw [hleads.block_eq_of_encloses hencloses, hread]
    rfl

/-- A number behind the range of the header. -/
def numberBehindRange : List SourceLine :=
  Loop.lines 1 ['X'] "RANGE(1,3) 5".toList [⟨2, "ADD SERIES 1 $X".toList⟩] ⟨3, "NEXT".toList⟩

def numberBehindRangeLoop : Loop :=
  { line := 1
    var := ['X']
    source := .range (Range.values ⟨1, 3⟩)
    body := [⟨2, "ADD SERIES 1 $X".toList⟩] }

theorem segments_numberBehindRange :
    segments numberBehindRange = [⟨numberBehindRange, .ok (.loop numberBehindRangeLoop)⟩] := by
  refine segments_loopLines (by decide +kernel) ?_ (by decide) 1
  intro line hline
  rw [List.mem_singleton.1 hline]
  exact ⟨by decide, by decide⟩

theorem mem_segments_numberBehindRange :
    ⟨numberBehindRange, .ok (.loop numberBehindRangeLoop)⟩ ∈ segments numberBehindRange := by
  rw [segments_numberBehindRange]
  exact List.mem_singleton_self _

theorem segment_block_eq_loop_numberBehindRange :
    ⟨numberBehindRange, .ok (.loop numberBehindRangeLoop)⟩ ∈ segments numberBehindRange ∧
      ∃ header body next after,
        Segment.Encloses ⟨numberBehindRange, .ok (.loop numberBehindRangeLoop)⟩ header body next ∧
          Loop.HasSource header.text ['X'] (.range (Range.values ⟨1, 3⟩)) after := by
  obtain ⟨header, body, next, after, hencloses, hsource, _⟩ :=
    (segment_block_eq_loop_iff mem_segments_numberBehindRange ['X']
      (.range (Range.values ⟨1, 3⟩))).1 ⟨_, rfl, rfl, rfl⟩
  exact ⟨mem_segments_numberBehindRange, header, body, next, after, hencloses, hsource⟩

def numberBehindRangeFront : Loop.HeaderFront :=
  { margin := []
    before := .blank
    var := ['X']
    behind := .blank
    ahead := .blank
    margin_separates := List.forall_mem_nil _
    isWord := Text.isWord_of_all (List.cons_ne_nil _ _) rfl }

theorem hasSource_numberBehindRange :
    Loop.HasSource (Loop.headerOver ['X'] "RANGE(1,3) 5".toList) ['X']
      (.range (Range.values ⟨1, 3⟩)) " 5".toList := by
  have hread : Range.ofInner 0 0 "1,3".toList = .ok ⟨1, 3⟩ := rfl
  obtain ⟨hspells, hreadable⟩ := Range.ofInner_eq_ok_iff.1 hread
  have hheader : Loop.headerOver ['X'] "RANGE(1,3) 5".toList =
      numberBehindRangeFront.text ++ (Range.opening ++ ("1,3".toList ++ [')']) ++ " 5".toList) := by
    decide +kernel
  rw [hheader]
  exact .mk numberBehindRangeFront (.range hspells hreadable) _

/-- A loop can be accepted although a number behind its range is ignored. -/
theorem not_readsWhole_of_loop :
    ¬ ∀ (lines : List SourceLine) (segment : Segment), segment ∈ segments lines →
      ∀ loop, segment.block = .ok (.loop loop) →
        ∃ header, segment.lines.head? = some header ∧
          Loop.ReadsWhole header.text loop.var loop.source := by
  intro hall
  obtain ⟨header, hheader, hwhole⟩ := hall _ _ mem_segments_numberBehindRange _ rfl
  obtain rfl := Option.some.inj hheader
  have hvar : ¬ Range.opening <:+: ['X'] := by decide
  have hseparates := (hasSource_numberBehindRange.readsWhole_iff hvar).1 hwhole
  have hfive := hseparates '5' (by decide)
  cases hfive

end ChartScript
