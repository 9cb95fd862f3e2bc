import Std.Data.ExtTreeMap.Lemmas

/-!
# Metric families

A family is a named number, or a number for each combination of label values. Families are written
out in the text format that collectors read: a line of help, a line with the type, then one line a
sample, in the order of the label values. A family that has no sample yet is left out.
-/

namespace NanHost

/-- Counts by label values, of which only those counted at least once are there. -/
abbrev Tally := Std.ExtTreeMap (List String) Nat

namespace Tally

/-- How often the combination of label values was counted. -/
def count (tally : Tally) (labels : List String) : Nat := tally.getD labels 0

/-- Counts the combination of label values once more. -/
def bump (tally : Tally) (labels : List String) : Tally :=
  tally.insert labels (tally.count labels + 1)

end Tally

/-- What kind of number a family holds. -/
inductive FamilyType where
  | counter
  | gauge
  /-- Of a histogram, the number of observations is the sample. -/
  | histogram
  deriving DecidableEq

/-- The word for a kind of family. -/
def FamilyType.label : FamilyType → String
  | counter => "counter"
  | gauge => "gauge"
  | histogram => "histogram"

/-- A metric family with its samples. -/
structure Family where
  name : String
  help : String
  type : FamilyType
  labels : List String
  samples : Tally

namespace Family

/-- A family without labels, which has one sample from the start. -/
def single (name help : String) (type : FamilyType) (value : Nat) : Family :=
  ⟨name, help, type, [], (∅ : Tally).insert [] value⟩

/-- The label values of a sample as they are written. -/
def labelText (labels values : List String) : String :=
  match List.zipWith (fun label value => label ++ "=\"" ++ value ++ "\"") labels values with
  | [] => ""
  | pairs => "\x7b" ++ ",".intercalate pairs ++ "\x7d"

/-- The name under which the samples of a family are written. -/
def sampleName (family : Family) : String :=
  match family.type with
  | .histogram => family.name ++ "_count"
  | .counter | .gauge => family.name

/-- The lines of a family. -/
def lines (family : Family) : List String :=
  if family.samples.isEmpty then []
  else
    ["# HELP " ++ family.name ++ " " ++ family.help,
      "# TYPE " ++ family.name ++ " " ++ family.type.label] ++
    family.samples.toList.map fun sample =>
      family.sampleName ++ labelText family.labels sample.1 ++ " " ++ toString sample.2

end Family

end NanHost
