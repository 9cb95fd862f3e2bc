import NanHost.Text.Scanner
import NanHost.Toml

/-!
# TOML: texts, numbers, dates

Scanners for the values that have no parts.
-/

namespace NanHost.Toml.Grammar

open Scanner

/-! ## Blanks and line ends -/

/-- Whether a character separates the parts of a line. -/
def isBlank (c : Char) : Bool := c = ' ' || c = '\t'

/-- Blanks within a line. -/
def blanks : Scanner Unit := discard (takeWhile isBlank)

/-- The end of a line. -/
def newline : Scanner Unit := char '\n' <|> word "\r\n"

/-- Whether a character may stand in a line: no control but the tab. -/
def isVisible (c : Char) : Bool := c = '\t' || (0x20 ≤ c.toNat && c.toNat ≠ 0x7f)

/-! ## Texts -/

/-- The letters that stand for other characters after a backslash. -/
def shortEscapes : List (Char × Char) :=
  [('b', '\x08'), ('t', '\t'), ('n', '\n'), ('f', '\x0c'), ('r', '\r'), ('"', '"'), ('\\', '\\')]

/-- What follows a backslash: a letter that stands for a character, or the character's code. -/
def escape : Scanner Char := do
  char '\\'
  let c ← satisfy fun _ => true
  match shortEscapes.lookup c with
  | some meant => pure meant
  | none =>
    if c = 'u' then hexNumber 4 >>= character
    else if c = 'U' then hexNumber 8 >>= character
    else failure

/-- Whether a character stands for itself between double quotes. -/
def isBasic (c : Char) : Bool := isVisible c && c ≠ '"' && c ≠ '\\'

/-- Whether a character stands for itself between single quotes. -/
def isLiteral (c : Char) : Bool := isVisible c && c ≠ '\''

/-- A text in one line, between double quotes. -/
def basicText : Scanner String := do
  char '"'
  let content ← many (satisfy isBasic <|> escape)
  char '"'
  pure (String.ofList content)

/-- A text in one line, between single quotes. -/
def literalText : Scanner String := do
  char '\''
  let content ← takeWhile isLiteral
  char '\''
  pure (String.ofList content)

/-- A backslash at the end of a line: it stands for nothing, and so do the blanks and line ends that
follow. -/
def continuation : Scanner (List Char) := do
  char '\\'
  blanks
  newline
  discard (many (discard (satisfy isBlank) <|> newline))
  pure []

/-- Fewer than three quotes, which belong to a text that three quotes end. -/
def innerQuotes (quote : Char) : Scanner (List Char) := do
  let quotes ← takeWhile (· = quote)
  ensure (quotes.length = 1 ∨ quotes.length = 2)
  pure quotes

/-- The end of a text between triple quotes. Up to two further quotes belong to the text. -/
def closingQuotes (quote : Char) : Scanner (List Char) := do
  let quotes ← takeWhile (· = quote)
  ensure (3 ≤ quotes.length ∧ quotes.length ≤ 5)
  pure (quotes.drop 3)

/-- A text between triple quotes. A line end right after the opening is not part of it. -/
def longText (quote : Char) (part : Scanner (List Char)) : Scanner String := do
  word (String.ofList [quote, quote, quote])
  option () newline
  let content ← many (part <|> innerQuotes quote <|> (do newline; pure ['\n']))
  let last ← closingQuotes quote
  pure (String.ofList (content.flatten ++ last))

/-- A text over several lines, between double quotes. -/
def longBasicText : Scanner String :=
  longText '"' (List.singleton <$> satisfy isBasic <|> List.singleton <$> escape <|> continuation)

/-- A text over several lines, between single quotes. -/
def longLiteralText : Scanner String := longText '\'' (List.singleton <$> satisfy isLiteral)

/-- A text of any kind. -/
def anyText : Scanner String := longBasicText <|> longLiteralText <|> basicText <|> literalText

/-! ## Numbers -/

/-- Digits, with single underscores between them at will. -/
def digits (isDigit : Char → Bool) : Scanner (List Char) :=
  many1 (satisfy isDigit) >>= fun first => do
    let rest ← many (do char '_'; many1 (satisfy isDigit))
    pure (first ++ rest.flatten)

/-- A sign, if there is one: whether it is a minus. -/
def sign : Scanner Bool := (do char '-'; pure true) <|> (do option () (char '+'); pure false)

/-- Decimal digits without a leading zero, unless zero is meant. -/
def decimalDigits : Scanner (List Char) := do
  let all ← digits Char.isDigit
  ensure (all.head? ≠ some '0' ∨ all = ['0'])
  pure all

/-- An integer in the decimal system. -/
def decimal : Scanner Int := do
  let negative ← sign
  let magnitude ← number 10 <$> decimalDigits
  pure (if negative then -magnitude else magnitude)

/-- An integer in another system, which its start tells. -/
def radix (start : String) (base : Nat) (isDigit : Char → Bool) : Scanner Int := do
  word start
  let magnitude ← number base <$> digits isDigit
  pure magnitude

/-- An integer. It has to fit into sixty-four bits. -/
def integer : Scanner Int := do
  let value ←
    radix "0x" 16 isHexDigit <|> radix "0o" 8 (fun c => '0' ≤ c && c ≤ '7') <|>
      radix "0b" 2 (fun c => c = '0' || c = '1') <|> decimal
  ensure (Int64.minValue.toInt ≤ value ∧ value ≤ Int64.maxValue.toInt)
  pure value

/-- Where binary floating point ends: what is at least this large rounds to infinity. -/
def floatLimit : Nat := Nat.pow 2 1024 - Nat.pow 2 970

/-- Whether `digits · 10 ^ exponent` is too large for binary floating point. Most exponents are
decided by the count of digits alone. -/
def overflows (digits : List Char) (exponent : Int) : Bool :=
  let significant := digits.dropWhile (· = '0')
  let places := significant.length + exponent
  if significant.isEmpty then false
  else if places ≤ 308 then false
  else if 310 ≤ places then true
  else if 0 ≤ exponent then floatLimit ≤ number 10 significant * Nat.pow 10 exponent.toNat
  else floatLimit * Nat.pow 10 (-exponent).toNat ≤ number 10 significant

/-- The digits after the point. -/
def fraction : Scanner (List Char) := do
  char '.'
  digits Char.isDigit

/-- The power of ten. -/
def exponent : Scanner Int := do
  discard (satisfy fun c => c = 'e' || c = 'E')
  let negative ← sign
  let magnitude ← number 10 <$> digits Char.isDigit
  pure (if negative then -magnitude else magnitude)

/-- A number with a fraction or a power of ten. One that is too large is refused unless it is
negative. -/
def float : Scanner Unit := do
  let negative ← sign
  let whole ← decimalDigits
  let (part, power) ←
    (do
      let part ← fraction
      let power ← option 0 exponent
      pure (part, power)) <|> (fun power => ([], power)) <$> exponent
  ensure (negative ∨ !overflows (whole ++ part) (power - part.length))

/-- Infinity, or what is not a number. -/
def specialFloat : Scanner Unit := do
  discard sign
  word "inf" <|> word "nan"

/-! ## Dates and times -/

/-- A number of two digits within bounds. -/
def twoDigits (least most : Nat) : Scanner Nat := do
  let value ← number 10 <$> (satisfy Char.isDigit).times 2
  ensure (least ≤ value ∧ value ≤ most)
  pure value

/-- How many days a month has. -/
def daysIn (year month : Nat) : Nat :=
  if month = 2 then
    if year % 4 = 0 ∧ (year % 100 ≠ 0 ∨ year % 400 = 0) then 29 else 28
  else if month = 4 ∨ month = 6 ∨ month = 9 ∨ month = 11 then 30
  else 31

/-- A day of the calendar. -/
def date : Scanner Unit := do
  let year ← number 10 <$> (satisfy Char.isDigit).times 4
  char '-'
  let month ← twoDigits 1 12
  char '-'
  discard (twoDigits 1 (daysIn year month))

/-- A time of day; a second may be the sixtieth. -/
def timeOfDay : Scanner Unit := do
  discard (twoDigits 0 23)
  char ':'
  discard (twoDigits 0 59)
  char ':'
  discard (twoDigits 0 60)
  option () (do char '.'; discard (many1 (satisfy Char.isDigit)))

/-- How far a time is from that of the zero meridian. -/
def offset : Scanner Unit :=
  discard (satisfy fun c => c = 'Z' || c = 'z') <|> (do
    discard (satisfy fun c => c = '+' || c = '-')
    discard (twoDigits 0 23)
    char ':'
    discard (twoDigits 0 59))

/-- A date, a time, or both. -/
def dateTime : Scanner Unit :=
  (do
    date
    option () (do
      discard (satisfy fun c => c = 'T' || c = 't' || c = ' ')
      timeOfDay
      option () offset)) <|> timeOfDay

/-! ## All together -/

/-- A value without parts. What could be the start of another kind is tried in an order in which
the longer kind comes first. -/
def scalar : Scanner Toml :=
  .text <$> anyText <|> (do dateTime; pure .dateTime) <|> (do float; pure .float) <|>
    (do specialFloat; pure .float) <|> .integer <$> integer <|>
    (do word "true"; pure (.boolean true)) <|> (do word "false"; pure (.boolean false))

end NanHost.Toml.Grammar
