import ChartScript.Fault

/-!
# Expressions

The expression of a definition is opaque apart from its references to quantities.  A
reference is written `${body}` and then runs to the first closing brace, or `$body` and then
runs to the next blank or tab or to the end of the text.  Its body is not empty.

`Expression.parse` takes a text apart and `Expression.text` puts it together again.
-/

namespace ChartScript

/-- A reference as it is written, without its sigil and braces. -/
structure Reference where
  body : Text
  braced : Bool
  deriving DecidableEq, Repr

def Reference.text (reference : Reference) : Text :=
  if reference.braced then '$' :: '{' :: reference.body ++ ['}'] else '$' :: reference.body

/-- The references of a text, each with the text in front of it, and the text after the
last one. -/
structure Expression where
  parts : List (Text × Reference)
  rest : Text
  deriving DecidableEq, Repr

/-- Where a reference stands, in bytes of the UTF-8 form. -/
structure ReferenceSpan where
  start : Nat
  stop : Nat
  reference : Reference
  deriving DecidableEq, Repr

namespace Expression

def text (expression : Expression) : Text :=
  (expression.parts.map fun (before, reference) => before ++ reference.text).flatten
    ++ expression.rest

def references (expression : Expression) : List Reference := expression.parts.map Prod.snd

/-- Takes a text apart, from left to right. -/
def parse (text : Text) : Except SyntaxError Expression := go [] 0 text
where
  /-- `done` holds the finished parts, backwards, and `passed` counts their characters. -/
  go (done : List (Text × Reference)) (passed : Nat) (text : Text) :
      Except SyntaxError Expression :=
    let before := text.takeWhile (· != '$')
    let column := passed + before.length + 1
    match _h : text.dropWhile (· != '$') with
    | [] => .ok { parts := done.reverse, rest := before }
    | _ :: '{' :: inside =>
      let body := inside.takeWhile (· != '}')
      match _h : inside.dropWhile (· != '}') with
      | [] => .error ⟨some (column + 1), .openReference⟩
      | _ :: rest =>
        if body.isEmpty then .error ⟨some column, .emptyReference⟩
        else go ((before, ⟨body, true⟩) :: done) (column + body.length + 2) rest
    | _ :: inside =>
      let body := inside.takeWhile (!Text.isBlank ·)
      if body.isEmpty then .error ⟨some column, .emptyReference⟩
      else
        go ((before, ⟨body, false⟩) :: done) (column + body.length)
          (inside.dropWhile (!Text.isBlank ·))
  termination_by text.length
  decreasing_by
    · have hopen := (List.dropWhile_sublist (l := text) (p := (· != '$'))).length_le
      have hclose := (List.dropWhile_sublist (l := inside) (p := (· != '}'))).length_le
      simp_all
      omega
    · have hopen := (List.dropWhile_sublist (l := text) (p := (· != '$'))).length_le
      have hclose := (List.dropWhile_sublist (l := inside) (p := (!Text.isBlank ·))).length_le
      simp_all
      omega

theorem text_parse_go {done : List (Text × Reference)} {passed : Nat} {text : Text}
    {expression : Expression} (h : parse.go done passed text = .ok expression) :
    expression.text =
      (done.reverse.map fun (before, reference) => before ++ reference.text).flatten ++ text := by
  fun_induction parse.go done passed text with
  | case1 done passed text before hopen =>
    obtain rfl := Except.ok.inj h
    have htext : before = text := by
      have happend := List.takeWhile_append_dropWhile (p := (· != '$')) (l := text)
      rwa [hopen, List.append_nil] at happend
    simp [Expression.text, htext]
  | case2 => simp at h
  | case3 => simp at h
  | case4 done passed text before column c inside hopen body d rest hclose hbody ih =>
    rw [ih h]
    conv => rhs; rw [Text.eq_of_dropWhile_ne hopen, Text.eq_of_dropWhile_ne hclose]
    simp [Reference.text, before, body]
  | case5 => simp at h
  | case6 done passed text before column c inside hinside hopen body hbody ih =>
    rw [ih h]
    conv => rhs; rw [Text.eq_of_dropWhile_ne hopen]
    conv => rhs; rw [← List.takeWhile_append_dropWhile (p := (!Text.isBlank ·)) (l := inside)]
    simp [Reference.text, before, body]

/-- Taking a text apart loses nothing. -/
theorem text_of_parse {text : Text} {expression : Expression}
    (h : parse text = .ok expression) : expression.text = text := by
  simpa using text_parse_go h

/-- The expression with every reference bound to a dataset: one that is no qualified name
gets the number of the dataset. -/
def qualify (dataset : Nat) (expression : Expression) : Expression :=
  { expression with
    parts := expression.parts.map fun (before, reference) =>
      if QualifiedName.isQualified reference.body then (before, reference)
      else (before, ⟨(QualifiedName.mk dataset reference.body).text, true⟩) }

def qualifyText (dataset : Nat) (text : Text) : Except SyntaxError Text :=
  (parse text).map fun expression => (expression.qualify dataset).text

def spans (expression : Expression) : List ReferenceSpan := go [] 0 expression.parts
where
  go (done : List ReferenceSpan) (passed : Nat) : List (Text × Reference) → List ReferenceSpan
    | [] => done.reverse
    | (before, reference) :: parts =>
      let start := passed + before.byteLength
      let stop := start + reference.text.byteLength
      go (⟨start, stop, reference⟩ :: done) stop parts

end Expression

end ChartScript
