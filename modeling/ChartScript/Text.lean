/-!
# Text

Every rule of the command language speaks of the characters of a line, one after the
other, so a text is the list of its characters.  Strings appear only where a text is
shown to somebody.

Two classes of white characters are kept apart.  Blanks and tabs separate the tokens of a
line; the wider class of all white-space characters is what trimming removes.
-/

namespace ChartScript

abbrev Text := List Char

namespace Text

def str (text : Text) : String := String.ofList text

/-- A blank or a tab. -/
def isBlank (c : Char) : Bool := c == ' ' || c == '\t'

/-- The characters with the Unicode property White_Space. -/
def isWhite (c : Char) : Bool :=
  let n := c.toNat
  (0x9 ≤ n && n ≤ 0xD) || n == 0x20 || n == 0x85 || n == 0xA0 || n == 0x1680
    || (0x2000 ≤ n && n ≤ 0x200A) || n == 0x2028 || n == 0x2029 || n == 0x202F
    || n == 0x205F || n == 0x3000

/-- The code point of the character is in one of the ranges. -/
def inRanges (ranges : List (Nat × Nat)) (c : Char) : Bool :=
  ranges.any fun range => range.1 ≤ c.toNat && c.toNat ≤ range.2

/-- The text without its longest ending whose characters all satisfy `p`. -/
def dropEndWhile (p : Char → Bool) (text : Text) : Text :=
  (text.reverse.dropWhile p).reverse

def trimStart (text : Text) : Text := text.dropWhile isWhite

def trimEnd (text : Text) : Text := text.dropEndWhile isWhite

def trim (text : Text) : Text := trimEnd (trimStart text)

/-- The pieces between line feeds; there is always at least one. -/
def pieces (text : Text) : List Text := text.splitOnP (· == '\n')

/-- The number of bytes of the UTF-8 form. -/
def byteLength (text : Text) : Nat := text.foldl (fun n c => n + c.utf8Size) 0

/-- The order of dictionaries, where the characters count by their code points. -/
def le (a b : Text) : Bool := !List.lex b a fun x y => x.toNat < y.toNat

theorem isWhite_of_isBlank {c : Char} (h : isBlank c = true) : isWhite c = true := by
  rcases (by simpa [isBlank] using h : c = ' ' ∨ c = '\t') with rfl | rfl <;> rfl

/-- Up to the first character `x` and from there on. -/
theorem eq_of_dropWhile_ne {x c : Char} {text rest : Text}
    (h : text.dropWhile (· != x) = c :: rest) : text = text.takeWhile (· != x) ++ x :: rest := by
  have hhead := List.head_dropWhile_not (p := (· != x)) (l := text) (by simp [h])
  obtain rfl : c = x := by simpa [h] using hhead
  rw [← h, List.takeWhile_append_dropWhile]

end Text

end ChartScript
