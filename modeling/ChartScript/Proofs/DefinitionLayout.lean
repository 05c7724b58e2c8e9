import ChartScript.Proofs.DefinitionParts

/-!
# Definitions in every layout

A definition line is read by its parts, however many blanks and tabs stand around them.  The
unit may be left out, an equals sign may stand inside the name and behind the first character
of the unit, and the expression may begin with one; the equals sign of the line is still the
first that begins a part behind the name.
-/

namespace ChartScript

namespace Text

/-- Blanks and tabs, if anything. -/
def IsMargin (text : Text) : Prop := ∀ c ∈ text, isBlank c = true

instance (text : Text) : Decidable text.IsMargin :=
  decidable_of_iff (text.all isBlank = true) List.all_eq_true

namespace IsMargin

variable {margin : Text}

theorem isSpace (hmargin : margin.IsMargin) : margin.IsSpace := fun c hc =>
  isWhite_of_isBlank (hmargin c hc)

theorem endsToken_append (hmargin : margin.IsMargin) (hne : margin ≠ []) (rest : Text) :
    EndsToken (margin ++ rest) := by
  intro c hc
  rw [List.head?_append_of_ne_nil _ hne] at hc
  exact hmargin c (List.mem_of_head? hc)

/-- The margin of a word is trimmed, and nothing else. -/
theorem trimStart_append
    (hmargin : margin.IsMargin) {word : Text} (hne : word ≠ [])
    (hhead : ∀ c, word.head? = some c → isWhite c = false) (rest : Text) :
    trimStart (margin ++ (word ++ rest)) = word ++ rest := by
  rw [trimStart_append_of_isSpace hmargin.isSpace]
  apply trimStart_eq_self
  rw [List.head?_append_of_ne_nil _ hne]
  exact hhead

theorem trimEnd_append
    (hmargin : margin.IsMargin) {word : Text}
    (hlast : ∀ c, word.getLast? = some c → isWhite c = false) :
    trimEnd (word ++ margin) = word := by
  unfold trimEnd
  rw [dropEndWhile_append hmargin.isSpace]
  exact trimEnd_eq_self hlast

end IsMargin

end Text

namespace Definition

/-! ## Parts and layouts -/

structure Parts where
  token : Text
  unit? : Option Text
  expression : Text
  isNameToken : IsNameToken token
  isUnit : ∀ unit ∈ unit?, IsUnit unit
  expression_ne_nil : expression ≠ []
  expression_head : ∀ c, expression.head? = some c → Text.isWhite c = false
  expression_last : ∀ c, expression.getLast? = some c → Text.isWhite c = false

namespace Parts

def name (parts : Parts) : QualifiedName := nameOf parts.token

def unit (parts : Parts) : Text := parts.unit?.getD noUnit

end Parts

/-- The blanks and tabs of a line.  Those behind the keyword and the name may not be left out,
nor those behind a unit. -/
structure Layout where
  margin : Text
  afterKeyword : Text
  afterName : Text
  afterUnit : Text
  afterEquals : Text
  ending : Text
  isMargin : ∀ gap ∈ [margin, afterKeyword, afterName, afterUnit, afterEquals, ending],
    gap.IsMargin
  afterKeyword_ne_nil : afterKeyword ≠ []
  afterName_ne_nil : afterName ≠ []
  afterUnit_ne_nil : afterUnit ≠ []

namespace Layout

/-- One blank between two parts, and none around the line. -/
def single : Layout where
  margin := []
  afterKeyword := [' ']
  afterName := [' ']
  afterUnit := [' ']
  afterEquals := [' ']
  ending := []
  isMargin := by decide
  afterKeyword_ne_nil := by decide
  afterName_ne_nil := by decide
  afterUnit_ne_nil := by decide

variable (layout : Layout) (parts : Parts)

def unitText : Option Text → Text
  | none => []
  | some unit => unit ++ layout.afterUnit

/-- The line from its equals sign on. -/
def afterUnitText : Text := '=' :: (layout.afterEquals ++ (parts.expression ++ layout.ending))

def line : Text :=
  layout.margin ++ (keyword ++ (layout.afterKeyword ++ (parts.token ++ (layout.afterName ++
    (layout.unitText parts.unit? ++ layout.afterUnitText parts)))))

/-! ## Reading a line -/

variable {layout parts}

theorem trimStart_append_afterUnitText {gap : Text} (hgap : gap.IsMargin) :
    Text.trimStart (gap ++ layout.afterUnitText parts) = layout.afterUnitText parts :=
  hgap.trimStart_append (List.cons_ne_nil '=' []) (Text.not_white_of_head?_cons (by decide) []) _

/-- A unit is found if there is one, since no unit begins with an equals sign. -/
theorem splitUnit_unitText (name : QualifiedName) :
    splitUnit name (Text.trimStart (layout.afterName ++
      (layout.unitText parts.unit? ++ layout.afterUnitText parts))) =
        .ok (parts.unit, layout.afterUnitText parts) := by
  have hafterName := layout.isMargin layout.afterName (by simp)
  have hafterUnit := layout.isMargin layout.afterUnit (by simp)
  unfold Parts.unit
  cases hunit : parts.unit? with
  | none =>
      unfold unitText
      rw [List.nil_append, trimStart_append_afterUnitText hafterName]
      rfl
  | some unit =>
      have hisUnit := parts.isUnit unit hunit
      have hends := hafterUnit.endsToken_append layout.afterUnit_ne_nil
        (layout.afterUnitText parts)
      unfold unitText
      rw [List.append_assoc, hafterName.trimStart_append hisUnit.ne_nil hisUnit.head_not_white,
        splitUnit_append hisUnit name hends, trimStart_append_afterUnitText hafterUnit,
        Option.getD_some]

theorem split_line (layout : Layout) (parts : Parts) :
    split (layout.line parts) =
      .ok (parts.name, parts.unit, parts.expression ++ layout.ending) := by
  have hmargin := layout.isMargin layout.margin (by simp)
  have hafterKeyword := layout.isMargin layout.afterKeyword (by simp)
  have hafterName := layout.isMargin layout.afterName (by simp)
  have hafterEquals := layout.isMargin layout.afterEquals (by simp)
  have hending := layout.isMargin layout.ending (by simp)
  have hkeyword : ∀ c, keyword.head? = some c → Text.isWhite c = false :=
    Text.not_white_of_head?_cons (by decide) _
  have hline := hmargin.trimStart_append (by decide : keyword ≠ []) hkeyword
    (layout.afterKeyword ++ (parts.token ++ (layout.afterName ++
      (layout.unitText parts.unit? ++ layout.afterUnitText parts))))
  have htoken := Text.splitToken_of_endsToken parts.isNameToken.isWord.2
    (hafterName.endsToken_append layout.afterName_ne_nil
      (layout.unitText parts.unit? ++ layout.afterUnitText parts))
  rw [← hafterKeyword.trimStart_append parts.isNameToken.isWord.1
    parts.isNameToken.head_not_white] at htoken
  have hexpression := hafterEquals.trimStart_append parts.expression_ne_nil
    parts.expression_head layout.ending
  rw [split_eq_ok_iff]
  refine ⟨_, parts.token, _, _, hline, htoken, parts.isNameToken.isWord.1,
    parts.isNameToken.nameOfToken_eq, splitUnit_unitText _, hexpression.symm, ?_⟩
  rw [hending.trimEnd_append parts.expression_last]
  exact parts.expression_ne_nil

/-- A line is read by its parts, whatever the layout. -/
theorem read_line
    (layout : Layout) (parts : Parts) (number : Nat) {expression : Expression}
    (hparse : Expression.parse parts.expression = .ok expression) :
    ∃ bound, Expression.qualifyText parts.name.dataset parts.expression = .ok bound ∧
      read ⟨number, layout.line parts⟩ = .ok ⟨parts.name, bound, parts.unit⟩ := by
  have hending := layout.isMargin layout.ending (by simp)
  have hbound : Expression.qualifyText parts.name.dataset parts.expression =
      .ok (expression.qualify parts.name.dataset).text := by
    unfold Expression.qualifyText
    rw [hparse]
    rfl
  refine ⟨_, hbound, read_eq_ok_iff.2 ⟨_, split_line layout parts, ?_⟩⟩
  rw [hending.trimEnd_append parts.expression_last]
  exact hbound

/-- An equals sign in every part. -/
def equalsParts : Parts where
  token := ['0', '2', ':', 'a', '=', 'b']
  unit? := some ['m', '=', 's']
  expression := ['=', '$', 'x', ' ', '=', ' ', '1']
  isNameToken := {
    isWord := Text.isWord_of_all (by decide) (by decide)
    head_not_white := Text.not_white_of_head?_cons (by decide) _
    head_ne_sigil := by decide
    number_readable := by decide }
  isUnit := by
    intro unit hunit
    obtain rfl := Option.some.inj hunit
    have hword : Text.IsWord .blanks ['m', '=', 's'] :=
      Text.isWord_of_all (by decide) (by decide)
    exact ⟨hword.1, hword.2, Text.not_white_of_head?_cons (by decide) _, by decide, by decide⟩
  expression_ne_nil := by decide
  expression_head := Text.not_white_of_head?_cons (by decide) _
  expression_last := by
    intro c hc
    obtain rfl := Option.some.inj hc
    decide

/-- No blanks behind the equals sign, and tabs around the other parts. -/
def tabs : Layout where
  margin := "\t".toList
  afterKeyword := "\t".toList
  afterName := " \t".toList
  afterUnit := "\t\t".toList
  afterEquals := []
  ending := "\t ".toList
  isMargin := by decide
  afterKeyword_ne_nil := by decide
  afterName_ne_nil := by decide
  afterUnit_ne_nil := by decide

/-- With the unit and without it. -/
theorem read_line_equalsParts :
    Expression.parse equalsParts.expression =
        .ok ⟨[("=".toList, ⟨"x".toList, false⟩)], " = 1".toList⟩ ∧
      read ⟨7, "\tDEFINE\t02:a=b \tm=s\t\t==$x = 1\t ".toList⟩ =
        .ok ⟨⟨2, "a=b".toList⟩, "=${2:x} = 1".toList, "m=s".toList⟩ ∧
      read ⟨7, "\tDEFINE\t02:a=b \t==$x = 1\t ".toList⟩ =
        .ok ⟨⟨2, "a=b".toList⟩, "=${2:x} = 1".toList, noUnit⟩ := by
  have hparse : Expression.parse equalsParts.expression =
      .ok ⟨[("=".toList, ⟨"x".toList, false⟩)], " = 1".toList⟩ := by decide +kernel
  have hbound : Expression.qualifyText equalsParts.name.dataset equalsParts.expression =
      .ok "=${2:x} = 1".toList := by decide +kernel
  obtain ⟨bound, hqualify, hread⟩ := read_line tabs equalsParts 7 hparse
  obtain rfl := Except.ok.inj (hqualify.symm.trans hbound)
  obtain ⟨bound, hqualify, hwithout⟩ :=
    read_line tabs { equalsParts with unit? := none, isUnit := nofun } 7 hparse
  obtain rfl := Except.ok.inj (hqualify.symm.trans hbound)
  exact ⟨hparse, hread, hwithout⟩

end Layout

end Definition

end ChartScript
