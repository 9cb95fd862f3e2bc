/-!
# Scanners

A scanner reads from the front of a text: it takes characters off and makes a value of them, or it
fails and nothing is taken. What repeats does so at most once for each character that is left, so
every scanner comes to an end.
-/

namespace NanHost

/-- A reader of the front of a text. -/
abbrev Scanner (α : Type) := StateT (List Char) Option α

namespace Scanner

/-- The next character, if it satisfies the condition. -/
def satisfy (condition : Char → Bool) : Scanner Char := fun
  | [] => none
  | c :: rest => if condition c then some (c, rest) else none

/-- The given character. -/
def char (c : Char) : Scanner Unit := discard (satisfy (· = c))

/-- The given characters, one after the other. -/
def word (text : String) : Scanner Unit := text.toList.forM char

/-- All characters up to the first that does not satisfy the condition. -/
def takeWhile (condition : Char → Bool) : Scanner (List Char) := fun text =>
  some (text.takeWhile condition, text.dropWhile condition)

/-- Nothing, at the end of the text only. -/
def atEnd : Scanner Unit := fun
  | [] => some ((), [])
  | _ :: _ => none

/-- Up to `count` repetitions, as many as there are. -/
def manyUpTo {α : Type} (scan : Scanner α) : Nat → Scanner (List α)
  | 0 => pure []
  | count + 1 =>
    (do
      let first ← scan
      let rest ← manyUpTo scan count
      pure (first :: rest)) <|> pure []

/-- As many repetitions as there are. -/
def many {α : Type} (scan : Scanner α) : Scanner (List α) := fun text =>
  scan.manyUpTo text.length text

/-- One repetition at least, and as many as there are. -/
def many1 {α : Type} (scan : Scanner α) : Scanner (List α) := do
  let first ← scan
  let rest ← scan.many
  pure (first :: rest)

/-- One repetition at least, with a separator between any two. -/
def separated1 {α : Type} (scan : Scanner α) (separator : Scanner Unit) : Scanner (List α) := do
  let first ← scan
  let rest ← many (do separator; scan)
  pure (first :: rest)

/-- Any number of repetitions, with a separator between any two. -/
def separated {α : Type} (scan : Scanner α) (separator : Scanner Unit) : Scanner (List α) :=
  scan.separated1 separator <|> pure []

/-- A value that is there only sometimes. -/
def option {α : Type} (fallback : α) (scan : Scanner α) : Scanner α := scan <|> pure fallback

/-- The given number of repetitions. -/
def times {α : Type} (scan : Scanner α) : Nat → Scanner (List α)
  | 0 => pure []
  | count + 1 => do
    let first ← scan
    let rest ← scan.times count
    pure (first :: rest)

/-- Goes on only if the condition holds. -/
def ensure (condition : Prop) [Decidable condition] : Scanner Unit :=
  if condition then pure () else failure

/-- The value of a scanner that takes the whole text. -/
def readAll? {α : Type} (scan : Scanner α) (text : String) : Option α :=
  ((do
    let value ← scan
    atEnd
    pure value : Scanner α) text.toList).map (·.1)

/-! ## Digits -/

/-- Whether a character is a digit of numbers to base sixteen. -/
def isHexDigit (c : Char) : Bool :=
  c.isDigit || ('a' ≤ c && c ≤ 'f') || ('A' ≤ c && c ≤ 'F')

/-- What a digit, of whatever base up to sixteen, counts. -/
def digitValue (c : Char) : Nat :=
  if c.isDigit then c.toNat - '0'.toNat
  else if 'a' ≤ c then c.toNat - 'a'.toNat + 10
  else c.toNat - 'A'.toNat + 10

/-- The number that digits spell, the most significant first. -/
def number (base : Nat) (digits : List Char) : Nat :=
  digits.foldl (fun value digit => value * base + digitValue digit) 0

/-- A number of the given count of hexadecimal digits. -/
def hexNumber (count : Nat) : Scanner Nat := number 16 <$> (satisfy isHexDigit).times count

/-- The character of a number; the surrogates and what lies beyond the last plane have none. -/
def character (code : Nat) : Scanner Char := do
  ensure code.isValidChar
  pure (Char.ofNat code)

end Scanner

end NanHost
