import ChartScript.Document
import ChartScript.Proofs.DerivedFlags
import ChartScript.Proofs.JsonStrings
import ChartScript.Proofs.SpelledBounds

/-!
# Qualified names are read back

The text of a qualified name is read as that name, and no two names share a text.  A text is
read as a name exactly if ASCII digits spell the number of the dataset in front of its first
colon; the text of the name is then the same text, but for zeros at its front.  The names of
derived quantities are readable, so that a document gives them back.
-/

namespace ChartScript

namespace QualifiedName

/-! ## Texts that are read as a name -/

/-- ASCII digits that spell the number of the dataset, a colon and the name. -/
def SpelledBy (q : QualifiedName) (text : Text) : Prop :=
  ∃ digits, text = digits ++ ':' :: q.name ∧ Decimal.IsDigits digits ∧
    Nat.ofDigitChars 10 digits 0 = q.dataset

theorem parse?_eq_some_iff {text : Text} {q : QualifiedName} :
    parse? text = some q ↔ q.SpelledBy text ∧ q.Readable := by
  constructor
  · intro hparse
    refine ⟨?_, (readable_of_parse? hparse).1⟩
    unfold parse? at hparse
    split at hparse
    · next digits name hsplit =>
        obtain ⟨htext, _, hall, _, _⟩ := split?_eq_some_iff.1 hsplit
        obtain ⟨dataset, hread, rfl⟩ := Option.map_eq_some_iff.1 hparse
        have hplus : '+' ∉ digits := by
          intro hmem
          have hdigit : Decimal.isAnyDigit '+' = false := by decide
          rw [hall '+' hmem] at hdigit
          cases hdigit
        obtain ⟨hdigits, hvalue, _⟩ := (Decimal.below?_eq_some_iff hplus).1 hread
        exact ⟨digits, htext, hdigits, hvalue⟩
    · cases hparse
  · rintro ⟨⟨digits, rfl, hdigits, hvalue⟩, hreadable⟩
    have hsplit : split? (digits ++ ':' :: q.name) = some (digits, q.name) :=
      split?_eq_some_iff.2 ⟨rfl, hdigits.1,
        fun c hc => Decimal.isAnyDigit_of_isDigit (hdigits.2 c hc), hreadable.name_ne_nil,
        hreadable.no_lineFeed⟩
    have hplus : '+' ∉ digits := fun hmem =>
      Decimal.ne_of_isDigit (hdigits.2 '+' hmem) (by decide) rfl
    have hread := (Decimal.below?_eq_some_iff hplus).2 ⟨hdigits, hvalue, hreadable.dataset_lt⟩
    unfold parse?
    rw [hsplit]
    simp only [hread, Option.map_some]

/-! ## Zeros at the front -/

/-- A text without the zeros at its front that another digit follows. -/
def dropZeros : Text → Text
  | '0' :: c :: rest => if c.isDigit then dropZeros (c :: rest) else '0' :: c :: rest
  | text => text

theorem dropZeros_text (q : QualifiedName) : dropZeros q.text = q.text := by
  obtain ⟨c, digits, hdigits, _⟩ := Decimal.exists_ofNat_eq_cons q.dataset
  unfold text
  rw [hdigits]
  by_cases hzero : c = '0'
  · subst hzero
    obtain rfl := Decimal.eq_nil_of_ofNat_eq_cons hdigits
    rfl
  · rw [List.cons_append, dropZeros.eq_2]
    intro d rest heq
    exact absurd (List.cons.inj heq).1 hzero

/-- Behind each of the zeros stands another zero or the first digit of the text. -/
theorem dropZeros_replicate_append (zeros : Nat) (q : QualifiedName) :
    dropZeros (List.replicate zeros '0' ++ q.text) = q.text := by
  induction zeros with
  | zero => exact q.dropZeros_text
  | succ zeros ih =>
      obtain ⟨c, rest, hrest, hdigit⟩ :
          ∃ c rest, List.replicate zeros '0' ++ q.text = c :: rest ∧ c.isDigit = true := by
        cases zeros with
        | zero => exact q.exists_text_eq_cons
        | succ zeros => exact ⟨'0', List.replicate zeros '0' ++ q.text, rfl, by decide⟩
      rw [List.replicate_succ, List.cons_append]
      rw [hrest] at ih ⊢
      rw [dropZeros, if_pos hdigit, ih]

theorem SpelledBy.text_eq_dropZeros
    {q : QualifiedName} {text : Text} (hspelled : q.SpelledBy text) :
    q.text = dropZeros text := by
  obtain ⟨digits, rfl, hdigits, hvalue⟩ := hspelled
  obtain ⟨zeros, hzeros⟩ := hdigits.exists_zeros
  rw [hvalue] at hzeros
  rw [hzeros, List.append_assoc]
  exact (dropZeros_replicate_append zeros q).symm

/-! ## Different names -/

theorem text_injective : Function.Injective text := by
  intro q r htext
  have hcut : ∀ s : QualifiedName,
      s.text.takeWhile Decimal.isAnyDigit = Decimal.ofNat s.dataset ∧
        s.text.dropWhile Decimal.isAnyDigit = ':' :: s.name := fun s =>
    Range.span_digits_append (Decimal.isDigits_ofNat s.dataset)
      (Decimal.endsNumber_cons (by decide) s.name)
  obtain ⟨hqDigits, hqName⟩ := hcut q
  obtain ⟨hrDigits, hrName⟩ := hcut r
  rw [htext] at hqDigits hqName
  have hdigits := hqDigits.symm.trans hrDigits
  have hdataset : q.dataset = r.dataset := by
    have hvalues := congrArg Decimal.nat? hdigits
    rw [Decimal.nat?_ofNat, Decimal.nat?_ofNat] at hvalues
    exact Option.some.inj hvalues
  have hname : q.name = r.name := (List.cons.inj (hqName.symm.trans hrName)).2
  obtain ⟨dataset, name⟩ := q
  obtain rfl := hdataset
  obtain rfl := hname
  rfl

/-! ## Documents -/

theorem Readable.ofJson?_toJson {q : QualifiedName} (hq : q.Readable) :
    ofJson? q.toJson = some q := by
  unfold ofJson? toJson Json.text?
  rw [Option.bind_some, hq.parse?_text]

theorem read?_print_toJson (q : QualifiedName) : Json.read? q.toJson.print = some q.toJson :=
  Json.read?_print_string q.text

end QualifiedName

theorem Definition.ofJson?_toJson
    {definition : Definition} (hname : definition.name.Readable) :
    ofJson? definition.toJson = some definition := by
  have hfields : Json.fieldValues? [Json.required "name", Json.required "expression",
      Json.required "unit"] definition.toJson =
        some [some definition.name.toJson, some (.string definition.expression),
          some (.string definition.unit)] := rfl
  unfold ofJson?
  rw [hfields]
  simp [hname.ofJson?_toJson, Json.text?]

theorem CommandFile.name_readable_of_mem_derived
    {options : Options} {source : Text} {file : CommandFile}
    (hfile : (ofSource options source).result = .ok file) {definition : Definition}
    (hentry : definition ∈ file.derived.entries) :
    definition.name.Readable := by
  obtain ⟨_, _, _, hderived⟩ := of_ofSource hfile
  have hmem : definition.name ∈ file.derived.entries.map Definition.name :=
    List.mem_map_of_mem hentry
  rw [← DefinitionTable.contains_iff_mem_map, hderived,
    DefinitionTable.contains_ofStatements_iff] at hmem
  obtain ⟨statement, hstatement, found, hdirective, hsame⟩ := hmem
  have hname : statement.directive.name? = some definition.name := by
    rw [hdirective, ← hsame]
    rfl
  exact name_readable_of_mem_statements hfile hstatement hname

namespace QualifiedName

/-- A readable name is read from its text.  What is read from a text is spelled by it, and is
written as the text without needless zeros.  Different names have different texts, and the
derived quantities of a file are given back by the JSON that they are written as. -/
theorem parse?_undoes_text :
    (∀ q : QualifiedName, q.Readable → parse? q.text = some q) ∧
      (∀ text q, parse? text = some q ↔ q.SpelledBy text ∧ q.Readable) ∧
      (∀ text q, parse? text = some q → q.text = dropZeros text) ∧
      (∀ q r : QualifiedName, q ≠ r → q.text ≠ r.text) ∧
      ∀ options source file, (CommandFile.ofSource options source).result = .ok file →
        ∀ definition ∈ file.derived.entries,
          (Json.read? definition.name.toJson.print).bind ofJson? = some definition.name ∧
            Definition.ofJson? definition.toJson = some definition := by
  refine ⟨fun q hq => hq.parse?_text, fun text q => parse?_eq_some_iff, ?_, ?_, ?_⟩
  · intro text q hparse
    exact (parse?_eq_some_iff.1 hparse).1.text_eq_dropZeros
  · intro q r hne htext
    exact hne (text_injective htext)
  · intro options source file hfile definition hentry
    have hname := CommandFile.name_readable_of_mem_derived hfile hentry
    refine ⟨?_, Definition.ofJson?_toJson hname⟩
    rw [read?_print_toJson, Option.bind_some, hname.ofJson?_toJson]

/-- A quoted name with a colon of its own. -/
def quotedSource : Text := "DEFINE 01:2:\"p\" m = $a".toList

theorem parse?_undoes_text_severalColons :
    (Readable ⟨18446744073709551615, "9:a b".toList⟩ ∧
        parse? (text ⟨18446744073709551615, "9:a b".toList⟩) =
          some ⟨18446744073709551615, "9:a b".toList⟩) ∧
      (parse? "007:1:x".toList = some ⟨7, "1:x".toList⟩ ∧
        SpelledBy ⟨7, "1:x".toList⟩ "007:1:x".toList ∧
        text ⟨7, "1:x".toList⟩ = dropZeros "007:1:x".toList) ∧
      (QualifiedName.mk 1 "1:x".toList ≠ ⟨11, "x".toList⟩ ∧
        text ⟨1, "1:x".toList⟩ ≠ text ⟨11, "x".toList⟩) ∧
      ∃ file, (CommandFile.ofSource ⟨2, .abort⟩ quotedSource).result = .ok file ∧
        file.derived.entries.map Definition.name = [⟨1, "2:\"p\"".toList⟩] ∧
        ∀ definition ∈ file.derived.entries,
          (Json.read? definition.name.toJson.print).bind ofJson? = some definition.name ∧
            Definition.ofJson? definition.toJson = some definition := by
  obtain ⟨hread, hspelled, hshown, hdiffer, hderived⟩ := parse?_undoes_text
  have hlargest : Readable ⟨18446744073709551615, "9:a b".toList⟩ :=
    ⟨by decide, by decide, by decide⟩
  have hzeros : parse? "007:1:x".toList = some ⟨7, "1:x".toList⟩ := by decide
  have hne : QualifiedName.mk 1 "1:x".toList ≠ ⟨11, "x".toList⟩ := by decide
  refine ⟨⟨hlargest, hread _ hlargest⟩,
    ⟨hzeros, ((hspelled _ _).1 hzeros).1, hshown _ _ hzeros⟩, ⟨hne, hdiffer _ _ hne⟩, ?_⟩
  have hrun : (CommandFile.ofSource ⟨2, .abort⟩ quotedSource).result.map
      (fun file => file.derived.entries.map Definition.name) =
        .ok [⟨1, "2:\"p\"".toList⟩] := by
    decide +kernel
  obtain ⟨file, hfile, hentries⟩ := map_eq_ok_iff.1 hrun
  exact ⟨file, hfile, hentries, hderived _ _ _ hfile⟩

end QualifiedName

end ChartScript
