import ChartScript.SourceLine
import ChartScript.Proofs.TokenText

/-!
# Lines that stand for themselves

A text that replacing, cutting and trimming leave alone is a line of the file that it is
written to: texts that are joined with line feeds are the lines of the joined text, numbered
from 1, if each of them is a line by itself.
-/

namespace ChartScript

namespace Text

theorem replaceAll_eq_self
    {pattern text : Text} (hpattern : ¬ pattern <:+: text) (value : Text) :
    replaceAll pattern value text = text := by
  induction text with
  | nil => exact replaceAll_nil pattern value
  | cons c rest ih =>
      have hhere : ¬ pattern <+: c :: rest := fun hbegins => hpattern hbegins.isInfix
      have hlater : ¬ pattern <:+: rest := fun hinside =>
        hpattern (hinside.trans (List.suffix_cons c rest).isInfix)
      rw [replaceAll_cons value hhere, ih hlater]

theorem mem_replaceAll_go
    {pattern value done text : Text} {skip : Nat} {c : Char}
    (hc : c ∈ replaceAll.go pattern value done skip text) :
    c ∈ done ∨ c ∈ value ∨ c ∈ text := by
  fun_induction replaceAll.go pattern value done skip text with
  | case1 done => exact .inl (List.mem_reverse.1 hc)
  | case2 done first rest skip ih =>
      rcases ih hc with hc | hc | hc
      · exact .inl hc
      · exact .inr (.inl hc)
      · exact .inr (.inr (List.mem_cons_of_mem first hc))
  | case3 done first rest hoccurs ih =>
      rcases ih hc with hc | hc | hc
      · rw [List.reverseAux_eq, List.mem_append, List.mem_reverse] at hc
        exact hc.elim (fun hc => .inr (.inl hc)) .inl
      · exact .inr (.inl hc)
      · exact .inr (.inr (List.mem_cons_of_mem first hc))
  | case4 done first rest hoccurs ih =>
      rcases ih hc with hc | hc | hc
      · rcases List.mem_cons.1 hc with rfl | hc
        · exact .inr (.inr List.mem_cons_self)
        · exact .inl hc
      · exact .inr (.inl hc)
      · exact .inr (.inr (List.mem_cons_of_mem first hc))

theorem mem_replaceAll
    {pattern value text : Text} {c : Char} (hc : c ∈ replaceAll pattern value text) :
    c ∈ value ∨ c ∈ text := by
  rcases mem_replaceAll_go hc with hc | hc
  · cases hc
  · exact hc

end Text

namespace SourceLine

theorem isLineEnd_eq (c : Char) : isLineEnd c = (Text.isBlank c || c == '\r') := by
  simp [isLineEnd, Text.isBlank]

/-- What is left of a piece is a line, unless it is nothing or a comment. -/
theorem ofPiece?_eq_some_iff {piece : Text} {number : Nat} {line : SourceLine} :
    ofPiece? piece number = some line ↔
      line = ⟨number, piece.dropEndWhile isLineEnd⟩ ∧ line.text ≠ [] ∧
        isComment line.text = false := by
  unfold ofPiece?
  simp only [Option.ite_none_left_eq_some, Bool.or_eq_true, List.isEmpty_iff, not_or,
    Bool.not_eq_true, Option.some.injEq]
  constructor
  · rintro ⟨⟨hne, hcomment⟩, rfl⟩
    exact ⟨rfl, hne, hcomment⟩
  · rintro ⟨rfl, hne, hcomment⟩
    exact ⟨⟨hne, hcomment⟩, rfl⟩

/-- A text that does not end in what does not count, and begins no comment, is a line. -/
theorem ofPiece?_eq_some
    {text : Text} (hne : text ≠ []) (hcomment : isComment text = false)
    (hlast : ∀ c, text.getLast? = some c → isLineEnd c = false) (number : Nat) :
    ofPiece? text number = some ⟨number, text⟩ := by
  rw [ofPiece?_eq_some_iff, Text.dropEndWhile_eq_self hlast]
  exact ⟨rfl, hne, hcomment⟩

theorem number_of_ofPiece?
    {piece : Text} {number : Nat} {line : SourceLine} (hline : ofPiece? piece number = some line) :
    line.number = number := by
  obtain ⟨rfl, _⟩ := ofPiece?_eq_some_iff.1 hline
  rfl

/-- The numbers of the lines of a file increase. -/
theorem pairwise_ofContent (content : Text) :
    (ofContent content).Pairwise fun line later => line.number < later.number := by
  unfold ofContent
  rw [List.pairwise_filterMap]
  have hindices : ((content.pieces.zipIdx 1).map Prod.snd).Pairwise (· < ·) := by
    rw [List.zipIdx_map_snd]
    exact List.pairwise_lt_range'
  refine (List.pairwise_map.1 hindices).imp ?_
  intro piece later hbelow line hline other hother
  rw [number_of_ofPiece? hline, number_of_ofPiece? hother]
  exact hbelow

theorem not_mem_of_mem_ofContent
    {content : Text} {line : SourceLine} (hline : line ∈ ofContent content) :
    '\n' ∉ line.text := by
  obtain ⟨⟨piece, number⟩, hpiece, hread⟩ := List.mem_filterMap.1 hline
  have hmem := List.fst_mem_of_mem_zipIdx hpiece
  obtain ⟨rfl, _⟩ := ofPiece?_eq_some_iff.1 hread
  intro hfeed
  have hbegins := List.rdropWhile_prefix isLineEnd piece
  have hcut := (Text.mem_of_mem_splitOnP hmem (hbegins.subset hfeed)).2
  simp at hcut

/-- Lines that are joined with line feeds are found again, numbered from 1. -/
theorem ofContent_intercalate
    {texts : List Text} (hfeed : ∀ text ∈ texts, '\n' ∉ text)
    (hline : ∀ text ∈ texts, ∀ number, ofPiece? text number = some ⟨number, text⟩) :
    ofContent (['\n'].intercalate texts) =
      (texts.zipIdx 1).map fun (text, number) => ⟨number, text⟩ := by
  cases texts with
  | nil => rfl
  | cons first rest =>
      have hpieces : Text.pieces (['\n'].intercalate (first :: rest)) = first :: rest :=
        List.splitOn_intercalate '\n' hfeed (List.cons_ne_nil first rest)
      unfold ofContent
      rw [hpieces, ← List.filterMap_eq_map]
      apply List.filterMap_congr
      rintro ⟨text, number⟩ hmem
      exact hline text (List.fst_mem_of_mem_zipIdx hmem) number

/-- The texts that are lines of a file: nothing about them is dropped. -/
structure IsLine (text : Text) : Prop where
  no_lineFeed : '\n' ∉ text
  ne_nil : text ≠ []
  not_comment : isComment text = false
  last_not_lineEnd : ∀ c, text.getLast? = some c → isLineEnd c = false

theorem isLine_of_mem_ofContent
    {content : Text} {line : SourceLine} (hline : line ∈ ofContent content) :
    IsLine line.text := by
  have hfeed := not_mem_of_mem_ofContent hline
  obtain ⟨⟨piece, number⟩, _, hpiece⟩ := List.mem_filterMap.1 hline
  obtain ⟨rfl, hne, hcomment⟩ := ofPiece?_eq_some_iff.1 hpiece
  exact ⟨hfeed, hne, hcomment, fun _ hc => Text.not_of_getLast?_dropEndWhile hc⟩

/-- Texts that are lines already are the lines of the file that they are written to. -/
theorem ofContent_of_isLine {texts : List Text} (hlines : ∀ text ∈ texts, IsLine text) :
    ofContent (['\n'].intercalate texts) =
      (texts.zipIdx 1).map fun (text, number) => ⟨number, text⟩ := by
  apply ofContent_intercalate
  · exact fun text hmem => (hlines text hmem).no_lineFeed
  · intro text hmem number
    have hline := hlines text hmem
    exact ofPiece?_eq_some hline.ne_nil hline.not_comment hline.last_not_lineEnd number

/-- A line of a file is the only line of a file that holds nothing else. -/
theorem ofContent_eq_singleton_iff {text : Text} :
    ofContent text = [⟨1, text⟩] ↔ IsLine text := by
  constructor
  · intro hcontent
    have hmem : ⟨1, text⟩ ∈ ofContent text := by
      rw [hcontent]
      exact List.mem_singleton_self _
    exact isLine_of_mem_ofContent hmem
  · intro hline
    have hlines := ofContent_of_isLine (List.forall_mem_singleton.2 hline)
    simpa using hlines

theorem withCases_eq_self
    {line : SourceLine} (hline : ¬ casesVariable <:+: line.text) (datasets : Nat) :
    line.withCases datasets = line := by
  unfold withCases
  rw [Text.replaceAll_eq_self hline]

end SourceLine

end ChartScript
