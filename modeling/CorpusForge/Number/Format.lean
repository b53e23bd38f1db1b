import CorpusForge.Number.Decimal
import CorpusForge.Text.Search

/-!
# Numbers for reports

Written forms of a number: digits grouped in threes with at most three places
(`Number.grouped`), one fixed place (`Number.fixedOne`), and a number of seconds as a time in hours,
minutes and seconds (`Number.duration`). Grouping rounds the number's own shortest decimal, the
fixed form the exact binary value; in both a half goes away from zero.
-/

namespace CorpusForge.Number

/-- `num / den` rounded to the nearest natural number, a half up. -/
def roundHalfUp (num den : Nat) : Nat := (2 * num + den) / (2 * den)

/-- Separates groups of three digits, counted from the right, by commas. -/
def groupDigits (digits : List Char) : List Char :=
  let rec walk : List Char → List Char
    | [] => []
    | d :: rest =>
      if rest.length % 3 = 0 ∧ rest ≠ [] then d :: ',' :: walk rest else d :: walk rest
  walk digits

/-- Drops the zeros at the end. -/
def dropTrailingZeros (digits : List Char) : List Char :=
  (digits.reverse.dropWhile (· = '0')).reverse

/-- A count of thousandths, grouped, without trailing zeros behind the point. -/
def groupedThousandths (n : Nat) : List Char :=
  let places := dropTrailingZeros (Text.padLeft 3 '0' (Decimal.digitsOf (n % 1000)))
  let whole := groupDigits (Decimal.digitsOf (n / 1000))
  if places = [] then whole else whole ++ '.' :: places

/-- The thousandths nearest to a decimal, a half up. -/
def thousandths (d : Decimal) : Nat :=
  let shift := d.exponent + 3
  if 0 ≤ shift then d.digits * Nat.pow 10 shift.toNat
  else roundHalfUp d.digits (Nat.pow 10 (-shift).toNat)

/-- The size of a finite number, grouped. -/
def groupedSize (q : Rat) : List Char :=
  groupedThousandths (if q = 0 then 0 else thousandths (Decimal.shortest q))

/-- Digits in groups of three, at most three places. The sign of a negative number stays when
    it rounds to zero. -/
def grouped : Number → String
  | .nan => "NaN"
  | .infinite false => "∞"
  | .infinite true => "-∞"
  | .negZero => "-0"
  | .real q =>
    if q < 0 then String.ofList ('-' :: groupedSize (-q)) else String.ofList (groupedSize q)

/-- The exact value with one place behind the point, a half up; for numbers from zero up. -/
def fixedOne : Number → String
  | .real q =>
    if q < pow2 70 then
      let tenths := ((10 : Rat) * q + 1 / 2).floor.toNat
      String.ofList (Decimal.digitsOf (tenths / 10) ++ '.' :: Decimal.digitsOf (tenths % 10))
    else text (.real q)
  | n => n.text

/-- At least two digits. -/
def twoDigits (n : Number) : String := String.ofList (Text.padLeft 2 '0' n.text.toList)

/-- A number of seconds, rounded and at least zero, by its two greatest units. -/
def duration (n : Number) : String :=
  let sixty := ofInt 60
  let seconds := (ofInt 0).maximum n.round
  let minutes := (seconds / sixty).floor
  if seconds.lt sixty then s!"{seconds.text}s"
  else if minutes.lt sixty then s!"{minutes.text}m {twoDigits (seconds % sixty)}s"
  else s!"{(minutes / sixty).floor.text}h {twoDigits (minutes % sixty)}m"

end CorpusForge.Number
