import ChartScript.Segment

/-!
# The segments partition a file

A `NEXT` line closes a loop when, counted after the header of the loop, the `NEXT` lines
exceed the `FOR` lines for the first time.  The reader of segments keeps a depth instead of
counting.  `splitBody?_eq_some_iff` shows that both find the same line, and the main
statement describes every segment of every file by the counts alone.

A suffix of the segments of a file consists of the segments of the lines that remain, so
that a statement about the first segment is one about all of them.
-/

namespace ChartScript

def keywordCount (keyword : Keyword) (lines : List SourceLine) : Nat :=
  lines.countP fun line => Keyword.ofLine line.text == keyword

theorem keywordCount_cons
    (keyword : Keyword) (line : SourceLine) (lines : List SourceLine) :
    keywordCount keyword (line :: lines) =
      keywordCount keyword lines +
        if Keyword.ofLine line.text = keyword then 1 else 0 := by
  unfold keywordCount
  rw [List.countP_cons]
  simp

theorem keywordCount_pos_of_mem
    {keyword : Keyword} {line : SourceLine} {lines : List SourceLine}
    (hmem : line ∈ lines) (hline : Keyword.ofLine line.text = keyword) :
    0 < keywordCount keyword lines := by
  unfold keywordCount
  rw [List.countP_pos_iff]
  exact ⟨line, hmem, by simp [hline]⟩

theorem keywordCount_eq_zero
    {keyword : Keyword} {lines : List SourceLine}
    (hnone : ∀ line ∈ lines, Keyword.ofLine line.text ≠ keyword) :
    keywordCount keyword lines = 0 := by
  unfold keywordCount
  rw [List.countP_eq_zero]
  intro line hmem
  simpa using hnone line hmem

namespace Loop

/-- With `depth` loops open and `body` behind them, `line` is a `NEXT` that closes one loop
more than there are. -/
def Closes (depth : Nat) (body : List SourceLine) (line : SourceLine) : Prop :=
  Keyword.ofLine line.text = .next ∧
    keywordCount .loop (body ++ [line]) + depth < keywordCount .next (body ++ [line])

/-- Behind the lines of `body`, `line` is the first one that closes. -/
def ClosesFirst (depth : Nat) (body : List SourceLine) (line : SourceLine) : Prop :=
  Closes depth body line ∧
    ∀ earlier inner between, body = earlier ++ inner :: between →
      ¬ Closes depth earlier inner

/-- The number of open loops after a line that closes none of the outer ones. -/
def depthAfter (depth : Nat) (line : SourceLine) : Nat :=
  match Keyword.ofLine line.text with
  | .next => depth - 1
  | .loop => depth + 1
  | _ => depth

theorem closes_nil_iff (depth : Nat) (line : SourceLine) :
    Closes depth [] line ↔ Keyword.ofLine line.text = .next ∧ depth = 0 := by
  unfold Closes
  constructor
  · intro ⟨hnext, hcount⟩
    simp only [List.nil_append, keywordCount_cons, hnext] at hcount
    simp [keywordCount] at hcount
    exact ⟨hnext, hcount⟩
  · intro ⟨hnext, hdepth⟩
    refine ⟨hnext, ?_⟩
    simp [keywordCount, hnext, hdepth]

theorem closes_cons_iff
    {depth : Nat} {first line : SourceLine} {body : List SourceLine}
    (hfirst : ¬ Closes depth [] first) :
    Closes depth (first :: body) line ↔ Closes (depthAfter depth first) body line := by
  rw [closes_nil_iff] at hfirst
  unfold Closes depthAfter
  simp only [List.cons_append, keywordCount_cons]
  cases hkeyword : Keyword.ofLine first.text with
  | next =>
      have hdepth : depth ≠ 0 := fun hzero => hfirst ⟨hkeyword, hzero⟩
      simp
      omega
  | loop =>
      simp
      omega
  | list => simp
  | define => simp
  | add => simp
  | other => simp

/-- The first line either closes by itself, or it belongs to the body and the rest closes
with the depth it leaves. -/
theorem closesFirst_cons_iff
    {depth : Nat} {first line : SourceLine} {body : List SourceLine}
    (hfirst : ¬ Closes depth [] first) :
    ClosesFirst depth (first :: body) line ↔
      ClosesFirst (depthAfter depth first) body line := by
  unfold ClosesFirst
  rw [closes_cons_iff hfirst]
  constructor
  · intro ⟨hcloses, hbefore⟩
    refine ⟨hcloses, ?_⟩
    intro earlier inner between hbody
    have hnot := hbefore (first :: earlier) inner between (by rw [hbody]; rfl)
    rwa [closes_cons_iff hfirst] at hnot
  · intro ⟨hcloses, hbefore⟩
    refine ⟨hcloses, ?_⟩
    intro earlier inner between hbody
    cases earlier with
    | nil =>
        obtain ⟨rfl, _⟩ := List.cons.inj hbody
        exact hfirst
    | cons other earlier =>
        obtain ⟨rfl, htail⟩ := List.cons.inj hbody
        rw [closes_cons_iff hfirst]
        exact hbefore earlier inner between htail

theorem body_eq_nil_of_closes
    {depth : Nat} {first line : SourceLine} {body : List SourceLine}
    (hfirst : Closes depth [] first)
    (hbody : ClosesFirst depth body line) (rest after : List SourceLine)
    (hlines : first :: rest = body ++ line :: after) :
    body = [] := by
  cases body with
  | nil => rfl
  | cons other body =>
      obtain ⟨rfl, _⟩ := List.cons.inj hlines
      exact absurd hfirst (hbody.2 [] first body rfl)

theorem splitBody?_cons_of_closes
    {depth : Nat} {line : SourceLine} (rest : List SourceLine)
    (hcloses : Closes depth [] line) :
    splitBody? depth (line :: rest) = some ([], line, rest) := by
  rw [closes_nil_iff] at hcloses
  obtain ⟨hnext, rfl⟩ := hcloses
  unfold splitBody?
  rw [hnext]

theorem splitBody?_cons_of_not_closes
    {depth : Nat} {line : SourceLine} (rest : List SourceLine)
    (hopen : ¬ Closes depth [] line) :
    splitBody? depth (line :: rest) =
      (splitBody? (depthAfter depth line) rest).map (splitBody?.keep line) := by
  rw [closes_nil_iff] at hopen
  cases hkeyword : Keyword.ofLine line.text with
  | next =>
      cases depth with
      | zero => exact absurd ⟨hkeyword, rfl⟩ hopen
      | succ depth => simp [splitBody?, depthAfter, hkeyword]
  | loop => simp [splitBody?, depthAfter, hkeyword]
  | list => simp [splitBody?, depthAfter, hkeyword]
  | define => simp [splitBody?, depthAfter, hkeyword]
  | add => simp [splitBody?, depthAfter, hkeyword]
  | other => simp [splitBody?, depthAfter, hkeyword]

/-- The depth finds the line that the counts describe. -/
theorem splitBody?_eq_some_iff
    {depth : Nat} {lines body after : List SourceLine} {next : SourceLine} :
    splitBody? depth lines = some (body, next, after) ↔
      lines = body ++ next :: after ∧ ClosesFirst depth body next := by
  induction lines generalizing depth body with
  | nil => simp [splitBody?]
  | cons line rest ih =>
      by_cases hline : Closes depth [] line
      · rw [splitBody?_cons_of_closes rest hline]
        constructor
        · intro heq
          obtain ⟨rfl, rfl, rfl⟩ := by simpa using heq
          exact ⟨rfl, hline, by simp⟩
        · rintro ⟨hlines, hfirst⟩
          obtain rfl := body_eq_nil_of_closes hline hfirst rest after hlines
          obtain ⟨rfl, rfl⟩ := List.cons.inj hlines
          rfl
      · rw [splitBody?_cons_of_not_closes rest hline]
        constructor
        · intro heq
          obtain ⟨⟨tail, found, last⟩, hfound, hkeep⟩ := Option.map_eq_some_iff.1 heq
          simp only [splitBody?.keep, Prod.mk.injEq] at hkeep
          obtain ⟨rfl, rfl, rfl⟩ := hkeep
          obtain ⟨hrest, hfirst⟩ := ih.1 hfound
          refine ⟨by rw [hrest]; rfl, ?_⟩
          rw [closesFirst_cons_iff hline]
          exact hfirst
        · rintro ⟨hlines, hfirst⟩
          cases body with
          | nil =>
              obtain ⟨rfl, _⟩ := List.cons.inj hlines
              exact absurd hfirst.1 hline
          | cons other body =>
              obtain ⟨rfl, hrest⟩ := List.cons.inj hlines
              rw [closesFirst_cons_iff hline] at hfirst
              rw [ih.2 ⟨hrest, hfirst⟩]
              rfl

theorem splitBody?_eq_none_iff
    {depth : Nat} {lines : List SourceLine} :
    splitBody? depth lines = none ↔
      ∀ body next after, lines = body ++ next :: after → ¬ ClosesFirst depth body next := by
  constructor
  · intro hnone body next after hlines hfirst
    rw [splitBody?_eq_some_iff.2 ⟨hlines, hfirst⟩] at hnone
    cases hnone
  · intro hnever
    cases hsplit : splitBody? depth lines with
    | none => rfl
    | some found =>
        obtain ⟨body, next, after⟩ := found
        obtain ⟨hlines, hfirst⟩ := splitBody?_eq_some_iff.1 hsplit
        exact absurd hfirst (hnever body next after hlines)

/-- A body without inner loops has no inner `NEXT` either: the first one would close. -/
theorem ne_next_of_closesFirst
    {body : List SourceLine} {next : SourceLine}
    (hfirst : ClosesFirst 0 body next)
    (hloops : ∀ line ∈ body, Keyword.ofLine line.text ≠ .loop) :
    ∀ line ∈ body, Keyword.ofLine line.text ≠ .next := by
  intro line hmem hnext
  obtain ⟨earlier, between, hbody⟩ := List.append_of_mem hmem
  apply hfirst.2 earlier line between hbody
  refine ⟨hnext, ?_⟩
  have hzero : keywordCount .loop (earlier ++ [line]) = 0 := by
    apply keywordCount_eq_zero
    intro other hother
    apply hloops
    rw [hbody]
    simp at hother ⊢
    rcases hother with hother | hother
    · exact Or.inl hother
    · exact Or.inr (Or.inl hother)
  have hpos : 0 < keywordCount .next (earlier ++ [line]) :=
    keywordCount_pos_of_mem (by simp) hnext
  omega

theorem read_eq_ok
    {header : SourceLine} {body : List SourceLine} {loop : Loop}
    (hread : Loop.read header body = .ok loop) :
    loop.body = body ∧ ∀ line ∈ body, Keyword.ofLine line.text ≠ .loop := by
  unfold Loop.read at hread
  split at hread
  · cases hread
  · next hnone =>
      split at hread
      · cases hread
      · obtain rfl := Except.ok.inj hread
        refine ⟨rfl, ?_⟩
        intro line hmem
        simpa using List.find?_eq_none.1 hnone line hmem

theorem read_of_inner_loop
    (header : SourceLine) {earlier between : List SourceLine} {inner : SourceLine}
    (hinner : Keyword.ofLine inner.text = .loop)
    (hearlier : ∀ line ∈ earlier, Keyword.ofLine line.text ≠ .loop) :
    Loop.read header (earlier ++ inner :: between) =
      .error (.ofFault inner.number .nestedLoop) := by
  have hfind : (earlier ++ inner :: between).find?
      (fun line => Keyword.ofLine line.text == .loop) = some inner := by
    rw [List.find?_append]
    have hnone : earlier.find? (fun line => Keyword.ofLine line.text == .loop) = none := by
      rw [List.find?_eq_none]
      intro line hmem
      simpa using hearlier line hmem
    rw [hnone]
    simp [hinner]
  unfold Loop.read
  rw [hfind]

end Loop

theorem segments_nil : segments [] = [] := by
  rw [segments]

theorem segments_cons_single
    {line : SourceLine} (rest : List SourceLine)
    (hline : Keyword.ofLine line.text ≠ .loop) :
    segments (line :: rest) = ⟨[line], Block.ofLine line⟩ :: segments rest := by
  rw [segments, if_neg hline]

theorem segments_cons_closed
    {header next : SourceLine} {body : List SourceLine} (after : List SourceLine)
    (hheader : Keyword.ofLine header.text = .loop)
    (hfirst : Loop.ClosesFirst 0 body next) :
    segments (header :: body ++ next :: after) =
      ⟨header :: body ++ [next], (Loop.read header body).map .loop⟩ :: segments after := by
  have hsplit := Loop.splitBody?_eq_some_iff.2
    ⟨(rfl : body ++ next :: after = body ++ next :: after), hfirst⟩
  rw [List.cons_append, segments, if_pos hheader]
  split
  · next hnone =>
      rw [hsplit] at hnone
      cases hnone
  · next hsome =>
      rw [hsplit] at hsome
      obtain ⟨rfl, rfl, rfl⟩ := by simpa using hsome
      rfl

theorem segments_cons_open
    {header : SourceLine} {rest : List SourceLine}
    (hheader : Keyword.ofLine header.text = .loop)
    (hopen : ∀ body next after, rest = body ++ next :: after →
      ¬ Loop.ClosesFirst 0 body next) :
    segments (header :: rest) =
      [⟨header :: rest, .error (.ofFault header.number .openLoop)⟩] := by
  have hsplit := Loop.splitBody?_eq_none_iff.2 hopen
  rw [segments, if_pos hheader]
  split
  · rfl
  · next hsome =>
      rw [hsplit] at hsome
      cases hsome

/-- How a segment stands at the beginning of the lines `lines`, of which `after` are left:
the reader's rules with the counts in place of the depth. -/
inductive Segment.Leads :
    (lines : List SourceLine) → Segment → (after : List SourceLine) → Prop
  | single {line : SourceLine} (rest : List SourceLine)
      (hline : Keyword.ofLine line.text ≠ .loop) :
      Leads (line :: rest) ⟨[line], Block.ofLine line⟩ rest
  | closed {header next : SourceLine} {body : List SourceLine} (after : List SourceLine)
      (hheader : Keyword.ofLine header.text = .loop)
      (hfirst : Loop.ClosesFirst 0 body next) :
      Leads (header :: body ++ next :: after)
        ⟨header :: body ++ [next], (Loop.read header body).map .loop⟩ after
  | unclosed {header : SourceLine} {rest : List SourceLine}
      (hheader : Keyword.ofLine header.text = .loop)
      (hopen : ∀ body next after, rest = body ++ next :: after →
        ¬ Loop.ClosesFirst 0 body next) :
      Leads (header :: rest)
        ⟨header :: rest, .error (.ofFault header.number .openLoop)⟩ []

theorem segments_of_leads
    {lines after : List SourceLine} {segment : Segment}
    (hleads : segment.Leads lines after) :
    segments lines = segment :: segments after := by
  cases hleads with
  | single rest hline => exact segments_cons_single after hline
  | closed after hheader hfirst => exact segments_cons_closed after hheader hfirst
  | unclosed hheader hopen =>
      rw [segments_cons_open hheader hopen, segments_nil]

theorem exists_leads (line : SourceLine) (rest : List SourceLine) :
    ∃ segment after, Segment.Leads (line :: rest) segment after := by
  by_cases hline : Keyword.ofLine line.text = .loop
  · cases hsplit : Loop.splitBody? 0 rest with
    | none =>
        exact ⟨_, _, .unclosed hline (Loop.splitBody?_eq_none_iff.1 hsplit)⟩
    | some found =>
        obtain ⟨body, next, after⟩ := found
        obtain ⟨rfl, hfirst⟩ := Loop.splitBody?_eq_some_iff.1 hsplit
        exact ⟨_, _, .closed after hline hfirst⟩
  · exact ⟨_, _, .single rest hline⟩

theorem Segment.Leads.lines_ne_nil
    {lines after : List SourceLine} {segment : Segment}
    (hleads : segment.Leads lines after) :
    segment.lines ≠ [] := by
  cases hleads <;> simp

theorem leads_of_segments_eq_cons
    {lines : List SourceLine} {segment : Segment} {more : List Segment}
    (hsegments : segments lines = segment :: more) :
    ∃ after, segment.Leads lines after ∧ more = segments after := by
  cases lines with
  | nil =>
      rw [segments_nil] at hsegments
      cases hsegments
  | cons line rest =>
      obtain ⟨first, after, hleads⟩ := exists_leads line rest
      rw [segments_of_leads hleads] at hsegments
      obtain ⟨rfl, rfl⟩ := List.cons.inj hsegments
      exact ⟨after, hleads, rfl⟩

theorem segments_flatMap_lines_suffix
    {lines : List SourceLine} {before after : List Segment}
    (hsegments : segments lines = before ++ after) :
    segments (after.flatMap Segment.lines) = after := by
  induction before generalizing lines with
  | nil =>
      rw [List.nil_append] at hsegments
      rw [← hsegments, flatMap_lines_segments]
  | cons segment before ih =>
      obtain ⟨rest, _, hrest⟩ := leads_of_segments_eq_cons hsegments
      exact ih hrest.symm

theorem leads_of_segments_eq_append
    {lines : List SourceLine} {before after : List Segment} {segment : Segment}
    (hsegments : segments lines = before ++ segment :: after) :
    segment.Leads (segment.lines ++ after.flatMap Segment.lines)
      (after.flatMap Segment.lines) := by
  have hsuffix := segments_flatMap_lines_suffix hsegments
  obtain ⟨rest, hleads, hafter⟩ := leads_of_segments_eq_cons hsuffix
  have hrest : rest = after.flatMap Segment.lines := by
    rw [hafter, flatMap_lines_segments]
  rw [hrest] at hleads
  simpa using hleads

/-- The lines alone decide which segment leads them. -/
theorem Segment.Leads.unique
    {lines after other : List SourceLine} {segment found : Segment}
    (hleads : segment.Leads lines after) (hfound : found.Leads lines other) :
    found = segment ∧ segments other = segments after := by
  have heq := segments_of_leads hfound
  rw [segments_of_leads hleads] at heq
  obtain ⟨hsegment, hafter⟩ := List.cons.inj heq
  exact ⟨hsegment.symm, hafter.symm⟩

theorem Block.ofLine_ne_loop (line : SourceLine) (loop : Loop) :
    Block.ofLine line ≠ .ok (.loop loop) := by
  intro hblock
  unfold Block.ofLine at hblock
  split at hblock
  · cases hread : ListStatement.read line with
    | error error => simp [hread, Except.map] at hblock
    | ok statement => simp [hread, Except.map] at hblock
  · cases hblock
  · cases hblock

theorem Segment.Leads.of_block_loop
    {lines after : List SourceLine} {segment : Segment} {loop : Loop}
    (hleads : segment.Leads lines after) (hblock : segment.block = .ok (.loop loop)) :
    ∃ header next,
      segment.lines = header :: loop.body ++ [next] ∧
        Keyword.ofLine header.text = .loop ∧ Keyword.ofLine next.text = .next ∧
        ∀ line ∈ loop.body,
          Keyword.ofLine line.text ≠ .loop ∧ Keyword.ofLine line.text ≠ .next := by
  cases hleads with
  | single rest hline => exact absurd hblock (Block.ofLine_ne_loop _ loop)
  | @closed header next body after hheader hfirst =>
      cases hread : Loop.read header body with
      | error error => simp [hread, Except.map] at hblock
      | ok found =>
          obtain rfl : found = loop := by simpa [hread, Except.map] using hblock
          obtain ⟨rfl, hloops⟩ := Loop.read_eq_ok hread
          refine ⟨header, next, rfl, hheader, hfirst.1.1, ?_⟩
          intro line hmem
          exact ⟨hloops line hmem, Loop.ne_next_of_closesFirst hfirst hloops line hmem⟩
  | unclosed hheader hopen => cases hblock

theorem length_le_length_flatMap_lines
    (list : List Segment) (hlines : ∀ segment ∈ list, segment.lines ≠ []) :
    list.length ≤ (list.flatMap Segment.lines).length := by
  induction list with
  | nil => simp
  | cons segment rest ih =>
      have hfirst := List.length_pos_iff.2 (hlines segment (by simp))
      have hrest := ih fun other hother => hlines other (by simp [hother])
      simp only [List.flatMap_cons, List.length_append, List.length_cons]
      omega

theorem exists_leads_of_mem
    {lines : List SourceLine} {segment : Segment} (hmem : segment ∈ segments lines) :
    ∃ file after, segment.Leads file after := by
  obtain ⟨before, after, hsegments⟩ := List.append_of_mem hmem
  exact ⟨_, _, leads_of_segments_eq_append hsegments⟩

theorem lines_ne_nil_of_mem_segments
    {lines : List SourceLine} {segment : Segment} (hmem : segment ∈ segments lines) :
    segment.lines ≠ [] := by
  obtain ⟨file, after, hleads⟩ := exists_leads_of_mem hmem
  exact hleads.lines_ne_nil

/-- The segments of a file are consecutive, not empty, and together the file.  A segment that
begins with a `FOR` line ends at the line that closes it, or with the file where no line
does; any other segment is one line.  A loop that could be read holds no inner `FOR` or
`NEXT`, and otherwise its first inner `FOR` is the error, whatever the header says. -/
theorem segments_partition (lines : List SourceLine) :
    (segments lines).flatMap Segment.lines = lines ∧
      (segments lines).length ≤ lines.length ∧
      ∀ before segment after, segments lines = before ++ segment :: after →
        segment.lines ≠ [] ∧
          (∀ header rest, segment.lines ++ after.flatMap Segment.lines = header :: rest →
            (Keyword.ofLine header.text ≠ .loop →
              segment.lines = [header] ∧ segment.block = Block.ofLine header) ∧
            (Keyword.ofLine header.text = .loop →
              (∀ body next later, rest = body ++ next :: later →
                Loop.ClosesFirst 0 body next →
                  segment.lines = header :: body ++ [next] ∧
                    segment.block = (Loop.read header body).map .loop ∧
                    ∀ earlier inner between, body = earlier ++ inner :: between →
                      Keyword.ofLine inner.text = .loop →
                      (∀ line ∈ earlier, Keyword.ofLine line.text ≠ .loop) →
                        segment.block = .error (.ofFault inner.number .nestedLoop)) ∧
              ((∀ body next later, rest = body ++ next :: later →
                ¬ Loop.ClosesFirst 0 body next) →
                  segment.lines = header :: rest ∧ after = [] ∧
                    segment.block = .error (.ofFault header.number .openLoop)))) ∧
          ∀ loop, segment.block = .ok (.loop loop) →
            ∃ header next,
              segment.lines = header :: loop.body ++ [next] ∧
                Keyword.ofLine header.text = .loop ∧ Keyword.ofLine next.text = .next ∧
                ∀ line ∈ loop.body,
                  Keyword.ofLine line.text ≠ .loop ∧ Keyword.ofLine line.text ≠ .next := by
  refine ⟨flatMap_lines_segments lines, ?_, ?_⟩
  · have hle := length_le_length_flatMap_lines (segments lines)
      fun segment hmem => lines_ne_nil_of_mem_segments hmem
    rwa [flatMap_lines_segments] at hle
  · intro before segment after hsegments
    have hleads := leads_of_segments_eq_append hsegments
    refine ⟨hleads.lines_ne_nil, ?_, fun loop hblock => hleads.of_block_loop hblock⟩
    intro header rest hlines
    rw [hlines] at hleads
    refine ⟨?_, fun hheader => ⟨?_, ?_⟩⟩
    · intro hheader
      obtain ⟨rfl, _⟩ := Segment.Leads.unique (.single rest hheader) hleads
      exact ⟨rfl, rfl⟩
    · intro body next later hrest hfirst
      subst hrest
      obtain ⟨rfl, _⟩ := Segment.Leads.unique (.closed later hheader hfirst) hleads
      refine ⟨rfl, rfl, ?_⟩
      intro earlier inner between hbody hinner hearlier
      subst hbody
      simp only [Loop.read_of_inner_loop header hinner hearlier, Except.map]
    · intro hopen
      obtain ⟨rfl, hafter⟩ := Segment.Leads.unique (.unclosed hheader hopen) hleads
      rw [List.append_cons] at hsegments
      have hsuffix := segments_flatMap_lines_suffix hsegments
      rw [hafter, segments_nil] at hsuffix
      exact ⟨rfl, hsuffix.symm, rfl⟩

end ChartScript
