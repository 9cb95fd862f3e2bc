import NanHost.Toml.Scalar

/-!
# TOML: values with parts, and documents

Lists and tables written as values, then the lines of a document: keys with their values, headers,
comments. Nesting is bounded, and so is the length of a dotted key.
-/

namespace NanHost.Toml

namespace Grammar

open Scanner

/-- The bound on nesting and on the names in a dotted key; neither reaches it. -/
def depthLimit : Nat := 80

/-- A comment, up to the end of its line. -/
def comment : Scanner Unit := do
  char '#'
  discard (takeWhile isVisible)

/-! ## Keys -/

/-- Whether a character may stand in a name without quotes. -/
def isBare (c : Char) : Bool := c.isAlphanum || c = '-' || c = '_'

/-- One name of a key. -/
def name : Scanner String :=
  basicText <|> literalText <|> String.ofList <$> many1 (satisfy isBare)

/-- A key: names with dots between them. -/
def key : Scanner Path := do
  let path ← separated1 (do
    blanks
    let part ← name
    blanks
    pure part) (char '.')
  ensure (path.length < depthLimit)
  pure path

/-- A key and its value. -/
def keyValue (value : Scanner Toml) : Scanner (Path × Toml) := do
  let path ← key
  char '='
  blanks
  let held ← value
  pure (path, held)

/-! ## Values with parts -/

/-- Blanks, line ends and comments between the items of a list. -/
def gap : Scanner Unit := do
  blanks
  discard (many (do
    option () comment
    newline
    blanks))

/-- A list. Its last item may be followed by a comma. -/
def list (value : Scanner Toml) : Scanner (List Toml) := do
  char '['
  let items ← separated (do
    gap
    let item ← value
    gap
    pure item) (char ',')
  if !items.isEmpty then option () (char ',')
  gap
  char ']'
  pure items

/-- A table written as a value, in one line. -/
def valueTable (value : Scanner Toml) : Scanner Entries := do
  char '\x7b'
  let values ← separated (do
    let entry ← keyValue value
    blanks
    pure entry) (char ',')
  blanks
  char '\x7d'
  match Entries.insertAll [] values with
  | some entries => pure entries
  | none => failure

/-- A value with parts up to `depth` deep. -/
def nested : Nat → Scanner Toml
  | 0 => scalar
  | depth + 1 =>
    scalar <|> .list <$> list (nested depth) <|> .table .value <$> valueTable (nested depth)

/-- A value. -/
def value : Scanner Toml := nested (depthLimit - 1)

/-! ## Lines -/

/-- The end of a line, after blanks and a comment; the last line of a document may lack it. -/
def lineEnd : Scanner Unit := do
  blanks
  option () comment
  newline <|> atEnd

/-- A line without a header: a key with its value, a comment, or nothing. -/
def line : Scanner (Option (Path × Toml)) := do
  blanks
  (do
    let entry ← keyValue value
    lineEnd
    pure (some entry)) <|> (do comment; newline <|> atEnd; pure none) <|> (do newline; pure none)

/-- The lines up to the next header. -/
def body : Scanner (List (Path × Toml)) := do
  let lines ← many line
  blanks
  pure (lines.filterMap id)

/-- A header, between brackets. -/
def header (opening closing : String) : Scanner Path := do
  word opening
  let path ← key
  word closing
  lineEnd
  pure path

/-- A header with the lines below it. -/
def part : Scanner Section := do
  let (path, repeated) ←
    (fun path => (path, true)) <$> header "[[" "]]" <|>
      (fun path => (path, false)) <$> header "[" "]"
  let values ← body
  pure ⟨path, repeated, values⟩

/-- A document. A mark of the byte order before it is passed over. -/
def document : Scanner Document := do
  option () (char (Char.ofNat 0xfeff))
  let top ← body
  let sections ← many part
  pure ⟨top, sections⟩

end Grammar

/-- The table that a TOML text describes, if it describes one. -/
def read? (text : String) : Option Entries :=
  (Scanner.readAll? Grammar.document text).bind (·.entries?)

end NanHost.Toml
