import CorpusForge.Number.Basic

/-!
# Decimal text of a number

Reading: a decimal literal denotes `digits * 10 ^ exponent`, rounded once (`Decimal.toNumber`).
Writing: a number is shown with the fewest significant digits that read back to it
(`Decimal.shortest`), positionally while its decimal point falls between six zeros behind the
point and twenty-one digits before it, otherwise with a signed exponent (`Number.text`).
-/

namespace CorpusForge

/-- The decimal `digits * 10 ^ exponent`. -/
structure Decimal where
  digits : Nat
  exponent : Int
  deriving DecidableEq, Repr

namespace Decimal

/-- A power of ten. -/
def pow10 (k : Int) : Rat := (10 : Rat) ^ k

/-- The exact value. -/
def toRat (d : Decimal) : Rat := (d.digits : Rat) * pow10 d.exponent

/-- The decimal digits of a natural number, the leading one first. -/
def digitsOf (n : Nat) : List Char := Nat.toDigits 10 n

/-- The number nearest to the decimal. Exponents far outside the range of the finite numbers are
    settled by the position of the leading digit alone. -/
def toNumber (negative : Bool) (d : Decimal) : Number :=
  let lead : Int := ((digitsOf d.digits).length : Int) + d.exponent
  let size : Number :=
    if d.digits = 0 then .real 0
    else if 400 < lead then .infinite false
    else if lead < -400 then .real 0
    else .ofRat d.toRat
  if negative then size.neg else size

/-! ### The fewest digits -/

/-- The exponent of the highest power of ten that is at most `q`, for a positive `q`. -/
def leadExponent (q : Rat) : Int :=
  let guess := (Number.magnitude q * 30103).fdiv 100000
  if pow10 (guess + 1) ≤ q then guess + 1
  else if q < pow10 guess then guess - 1
  else guess

/-- The decimals next to `q` on the grid of multiples of `10 ^ exponent`, the nearer one first;
    of two equally near ones the one with an even last digit. -/
def neighbours (q : Rat) (exponent : Int) : List Decimal :=
  let unit := pow10 exponent
  let low := (q / unit).floor.toNat
  let below : Decimal := ⟨low, exponent⟩
  let above : Decimal := ⟨low + 1, exponent⟩
  let rest := q - below.toRat
  let gap := unit - rest
  if rest < gap ∨ (rest = gap ∧ low % 2 = 0) then [below, above] else [above, below]

/-- Searches the grids of `digits`, `digits + 1`, … significant digits for a decimal that reads
    back to `q`. -/
def search (q : Rat) (lead : Int) : (grids : Nat) → (digits : Nat) → Decimal
  | 0, digits => ⟨(q / pow10 (lead - digits + 1)).floor.toNat, lead - digits + 1⟩
  | grids + 1, digits =>
    match (neighbours q (lead - digits + 1)).find? fun d => Number.round53 d.toRat = q with
    | some d => d
    | none => search q lead grids (digits + 1)

/-- Drops the trailing zeros of the digits; `fuel` bounds their number. -/
def trim : (fuel : Nat) → Decimal → Decimal
  | 0, d => d
  | fuel + 1, d =>
    if d.digits ≠ 0 ∧ d.digits % 10 = 0 then trim fuel ⟨d.digits / 10, d.exponent + 1⟩ else d

/-- The decimal with the fewest digits that reads back to the positive binary64 value `q`.
    Seventeen digits always do. -/
def shortest (q : Rat) : Decimal := trim 20 (search q (leadExponent q) 17 1)

/-! ### Layout -/

/-- The digits with the decimal point `point` places behind the leading digit's left edge:
    positional for `-6 < point ≤ 21`, otherwise with one digit before the point and an
    exponent. -/
def layout (digits : List Char) (point : Int) : List Char :=
  let count : Int := digits.length
  if count ≤ point ∧ point ≤ 21 then
    digits ++ List.replicate (point - count).toNat '0'
  else if 0 < point ∧ point ≤ 21 then
    digits.take point.toNat ++ '.' :: digits.drop point.toNat
  else if -6 < point ∧ point ≤ 0 then
    '0' :: '.' :: List.replicate (-point).toNat '0' ++ digits
  else
    let e := point - 1
    let tail := (if e < 0 then '-' else '+') :: digitsOf e.natAbs
    match digits with
    | [d] => d :: 'e' :: tail
    | d :: rest => d :: '.' :: rest ++ 'e' :: tail
    | [] => []

end Decimal

namespace Number

/-- The text of a positive binary64 value. -/
def positiveText (q : Rat) : List Char :=
  if q.den = 1 ∧ q.num < 9007199254740992 then Decimal.digitsOf q.num.toNat
  else
    let d := Decimal.shortest q
    let digits := Decimal.digitsOf d.digits
    Decimal.layout digits (digits.length + d.exponent)

/-- The text that names a number; both zeros are `0`. -/
def text : Number → String
  | .nan => "NaN"
  | .infinite false => "Infinity"
  | .infinite true => "-Infinity"
  | .negZero => "0"
  | .real q =>
    if q = 0 then "0"
    else if q < 0 then String.ofList ('-' :: positiveText (-q))
    else String.ofList (positiveText q)

/-- The text of an integer, by the same rule as for numbers: exact up to `2 ^ 53`, the fewest
    digits that read back beyond. -/
def intText (n : Int) : String := (ofInt n).text

end Number

/-- The decimal text of a natural number. -/
def Decimal.natText (n : Nat) : String := String.ofList (Decimal.digitsOf n)

end CorpusForge
