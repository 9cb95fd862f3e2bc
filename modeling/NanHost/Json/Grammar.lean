import NanHost.Text.Scanner

/-!
# Reading JSON

Scanners for what a reader of JSON needs when it knows which members it is after: the text of a
key, a natural number, and a way past any other value. The grammar is the standard one; a value
that is passed over has to be well formed, but what the escapes in its texts stand for is not looked
at.
-/

namespace NanHost.Json.Grammar

open Scanner

/-- Blanks between the parts of a value. -/
def blanks : Scanner Unit :=
  discard (takeWhile fun c => c = ' ' || c = '\t' || c = '\n' || c = '\r')

/-- Whether a character stands for itself in a text. -/
def isPlain (c : Char) : Bool := c ≠ '"' && c ≠ '\\' && 0x20 ≤ c.toNat

/-! ## Texts -/

/-- The characters that stand for others after a backslash, with those that they stand for. -/
def shortEscapes : List (Char × Char) :=
  [('"', '"'), ('\\', '\\'), ('/', '/'), ('b', '\x08'), ('f', '\x0c'), ('n', '\n'), ('r', '\r'),
    ('t', '\t')]

/-- A character written by a letter after a backslash. -/
def shortEscape : Scanner Char := do
  char '\\'
  let c ← satisfy fun _ => true
  match shortEscapes.lookup c with
  | some meant => pure meant
  | none => failure

/-- A unit of sixteen bits, written in hexadecimal. -/
def unitEscape : Scanner Nat := do
  word "\\u"
  hexNumber 4

/-- A character written by its code: one unit, or a pair of surrogates. -/
def codeEscape : Scanner Char := do
  let high ← unitEscape
  if 0xd800 ≤ high ∧ high < 0xdc00 then
    let low ← unitEscape
    ensure (0xdc00 ≤ low ∧ low < 0xe000)
    character (0x10000 + (high - 0xd800) * 0x400 + (low - 0xdc00))
  else character high

/-- A text whose escapes stand for characters. -/
def text : Scanner String := do
  char '"'
  let content ← many (satisfy isPlain <|> shortEscape <|> codeEscape)
  char '"'
  pure (String.ofList content)

/-- Any text. -/
def skipText : Scanner Unit := do
  char '"'
  discard (many (discard (satisfy isPlain <|> shortEscape) <|> discard unitEscape))
  char '"'

/-! ## Numbers -/

/-- A natural number; it does not start with a zero unless it is zero. -/
def natural : Scanner Nat :=
  (do char '0'; pure 0) <|> (do
    let first ← satisfy fun c => c.isDigit && c ≠ '0'
    let rest ← takeWhile Char.isDigit
    pure (Scanner.number 10 (first :: rest)))

/-- Digits, one at least. -/
def digits : Scanner Unit := discard (many1 (satisfy Char.isDigit))

/-- Any number. -/
def skipNumber : Scanner Unit := do
  option () (char '-')
  discard natural
  option () (do char '.'; digits)
  option () (do
    discard (satisfy fun c => c = 'e' || c = 'E')
    option () (discard (satisfy fun c => c = '+' || c = '-'))
    digits)

/-! ## Values -/

/-- Items between two brackets, with commas between them. -/
def bracketed {α : Type} (opening closing : Char) (item : Scanner α) : Scanner (List α) := do
  char opening
  blanks
  let items ← separated (do
    let value ← item
    blanks
    pure value) (do char ','; blanks)
  char closing
  pure items

/-- A member of an object: the key, then whatever is to be read under it. -/
def memberOf {κ α : Type} (key : Scanner κ) (value : κ → Scanner α) : Scanner α := do
  let name ← key
  blanks
  char ':'
  blanks
  value name

/-- Any value nested up to `depth` deep. -/
def skipNested : Nat → Scanner Unit
  | 0 => failure
  | depth + 1 =>
    word "null" <|> word "true" <|> word "false" <|> skipText <|> skipNumber <|>
      discard (bracketed '[' ']' (skipNested depth)) <|>
      discard (bracketed '\x7b' '\x7d' (memberOf skipText fun _ => skipNested depth))

/-- Any value. It cannot be nested deeper than it is long. -/
def skipValue : Scanner Unit := fun text => skipNested text.length text

end NanHost.Json.Grammar
