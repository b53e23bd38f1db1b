/-!
# Binary64 numbers

A `Number` is a binary64 floating-point value, given by what it denotes: a rational, or one of the
values that no rational stands for. Every operation computes the exact rational result and rounds
it once, to the nearest representable value, ties to even (`Number.ofRat`); the infinities, the
negative zero and not-a-number follow the usual tables.

* `Number.round53`: the rounding of a rational to the binary64 grid;
* `Number.ofRat`, `Number.ofInt`: the number nearest to an exact value;
* `Number.IsBinary64`: the invariant that every operation keeps.
-/

namespace CorpusForge

/-- A binary64 value. -/
inductive Number where
  /-- Not a number. -/
  | nan
  /-- An infinity. -/
  | infinite (negative : Bool)
  /-- The zero with the negative sign. -/
  | negZero
  /-- The value of a rational; zero here is the positive one. -/
  | real (value : Rat)
  deriving DecidableEq, Repr, Inhabited

namespace Number

/-! ### Rounding -/

/-- A power of two. -/
def pow2 (k : Int) : Rat := (2 : Rat) ^ k

/-- The exponent of the highest power of two that is at most `|q|`, for a nonzero `q`. -/
def magnitude (q : Rat) : Int :=
  let e : Int := (q.num.natAbs.log2 : Int) - (q.den.log2 : Int)
  if q.abs < pow2 e then e - 1 else e

/-- The gap between neighbouring binary64 values around `q`: 53 significant bits, and never
    finer than the smallest positive value. -/
def gap (q : Rat) : Rat := pow2 (max (magnitude q - 52) (-1074))

/-- The nearest integer; of two equally near ones the even one. -/
def nearestEven (q : Rat) : Int :=
  let low := q.floor
  let rest := q - (low : Rat)
  if rest < 1 / 2 then low
  else if 1 / 2 < rest then low + 1
  else if low % 2 = 0 then low else low + 1

/-- The nearest point of the binary64 grid, whose exponent is not bounded above. -/
def round53 (q : Rat) : Rat :=
  if q = 0 then 0 else (nearestEven (q / gap q) : Rat) * gap q

/-- The first power of two that is too large to be finite. -/
def overflow : Rat := pow2 1024

/-- The number nearest to an exact value. -/
def ofRat (q : Rat) : Number :=
  let r := round53 q
  if overflow ≤ r.abs then .infinite (decide (q < 0))
  else if r = 0 ∧ q < 0 then .negZero
  else .real r

/-- The number nearest to an integer. -/
def ofInt (n : Int) : Number :=
  if n.natAbs ≤ 9007199254740992 then .real (n : Rat) else ofRat (n : Rat)

/-- The number nearest to a natural number. -/
def ofNat (n : Nat) : Number := ofInt (n : Int)

instance (n : Nat) : OfNat Number n := ⟨ofNat n⟩

/-- A number that binary64 can hold: its rational is a finite point of the grid. -/
def IsBinary64 : Number → Prop
  | .real q => round53 q = q ∧ q.abs < overflow
  | _ => True

/-! ### Classes and order -/

/-- Neither infinite nor not-a-number. -/
def isFinite : Number → Bool
  | .real _ => true
  | .negZero => true
  | _ => false

/-- A finite number without a fraction. -/
def isInteger : Number → Bool
  | .real q => q.den = 1
  | .negZero => true
  | _ => false

/-- The rational that a finite number denotes; zero for the others. -/
def toRat : Number → Rat
  | .real q => q
  | _ => 0

/-- The integer part of a finite number, without the fraction; zero for the others. -/
def toInt (n : Number) : Int :=
  let q := n.toRat
  if q < 0 then q.ceil else q.floor

/-- The low 32 bits of the integer part. -/
def toWord (n : Number) : UInt32 := UInt32.ofNat (n.toInt % 4294967296).toNat

/-- The sign bit. -/
def isNegative : Number → Bool
  | .nan => false
  | .infinite s => s
  | .negZero => true
  | .real q => decide (q < 0)

/-- The numeric order; nothing compares with not-a-number. -/
def lt : Number → Number → Bool
  | .nan, _ => false
  | _, .nan => false
  | .infinite true, .infinite true => false
  | .infinite true, _ => true
  | _, .infinite true => false
  | .infinite false, _ => false
  | _, .infinite false => true
  | a, b => decide (a.toRat < b.toRat)

/-- The numeric equality: both zeros are equal, and not-a-number equals nothing. -/
def eq : Number → Number → Bool
  | .nan, _ => false
  | _, .nan => false
  | a, b => !a.lt b && !b.lt a

/-- Less or equal; false when either side is not a number. -/
def le (a b : Number) : Bool := a.lt b || a.eq b

/-- The greater of two numbers; not-a-number wins. -/
def maximum (a b : Number) : Number :=
  if a = .nan ∨ b = .nan then .nan
  else if a.lt b then b
  else if b.lt a then a
  else if a = .negZero then b
  else a

/-- The number is at most a count. -/
def atMost (n : Number) (count : Nat) : Bool := n.le (.real count)

/-! ### Arithmetic -/

/-- The number with the other sign. -/
def neg : Number → Number
  | .nan => .nan
  | .infinite s => .infinite !s
  | .negZero => .real 0
  | .real q => if q = 0 then .negZero else .real (-q)

def add : Number → Number → Number
  | .nan, _ => .nan
  | _, .nan => .nan
  | .infinite a, .infinite b => if a = b then .infinite a else .nan
  | .infinite a, _ => .infinite a
  | _, .infinite b => .infinite b
  | .negZero, .negZero => .negZero
  | .negZero, .real q => .real q
  | .real q, .negZero => .real q
  | .real p, .real q => ofRat (p + q)

def sub (a b : Number) : Number := a.add b.neg

/-- The lesser of two numbers; not-a-number wins. -/
def minimum (a b : Number) : Number := (a.neg.maximum b.neg).neg

/-- The number after this one when counting by ones; it is the same number where the grid is
    coarser than that. -/
def next (n : Number) : Number := n.add (.real 1)

/-- A zero of the given sign. -/
def zero (negative : Bool) : Number := if negative then .negZero else .real 0

def mul (a b : Number) : Number :=
  let negative := xor a.isNegative b.isNegative
  match a, b with
  | .nan, _ => .nan
  | _, .nan => .nan
  | .infinite _, .infinite _ => .infinite negative
  | .infinite _, y => if y.toRat = 0 then .nan else .infinite negative
  | x, .infinite _ => if x.toRat = 0 then .nan else .infinite negative
  | x, y => if x.toRat = 0 ∨ y.toRat = 0 then zero negative else ofRat (x.toRat * y.toRat)

def div (a b : Number) : Number :=
  let negative := xor a.isNegative b.isNegative
  match a, b with
  | .nan, _ => .nan
  | _, .nan => .nan
  | .infinite _, .infinite _ => .nan
  | .infinite _, _ => .infinite negative
  | _, .infinite _ => zero negative
  | x, y =>
    if y.toRat = 0 then (if x.toRat = 0 then .nan else .infinite negative)
    else if x.toRat = 0 then zero negative
    else ofRat (x.toRat / y.toRat)

/-- What is left of `a` after whole multiples of `b`, with the sign of `a`. -/
def rem (a b : Number) : Number :=
  match a, b with
  | .nan, _ => .nan
  | _, .nan => .nan
  | .infinite _, _ => .nan
  | x, .infinite _ => x
  | x, y =>
    if y.toRat = 0 then .nan
    else
      let times := x.toRat / y.toRat
      let whole := if times < 0 then times.ceil else times.floor
      let rest := x.toRat - (whole : Rat) * y.toRat
      if rest = 0 then zero x.isNegative else .real rest

instance : Add Number := ⟨add⟩
instance : Sub Number := ⟨sub⟩
instance : Mul Number := ⟨mul⟩
instance : Div Number := ⟨div⟩
instance : Mod Number := ⟨rem⟩
instance : Neg Number := ⟨neg⟩

/-! ### Whole numbers -/

/-- The greatest whole number that is not above. -/
def floor : Number → Number
  | .real q => .real (q.floor : Rat)
  | n => n

/-- The least whole number that is not below. -/
def ceil : Number → Number
  | .real q => if q < 0 ∧ -1 < q then .negZero else .real (q.ceil : Rat)
  | n => n

/-- How many natural numbers are below the number: the steps that a count from zero takes until it
    is reached. Nothing is counted towards a number that is not finite. -/
def steps (n : Number) : Nat := n.ceil.toRat.floor.toNat

/-- As many things as the number says, of which there are `count`; all of them when the number is
    not at most that. -/
def upTo (n : Number) (count : Nat) : Nat := if n.atMost count then n.steps else count

/-- The nearest whole number; a half goes up. -/
def round : Number → Number
  | .real q =>
    let r := (q + 1 / 2).floor
    if r = 0 ∧ q < 0 then .negZero else .real (r : Rat)
  | n => n

end Number

end CorpusForge
