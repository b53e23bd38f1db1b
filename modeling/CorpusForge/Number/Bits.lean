import CorpusForge.Number.Basic

/-!
# The bit pattern of a number

The 64 bits of the interchange format: a sign, eleven bits of biased exponent, and 52 bits of
fraction behind the leading bit.
-/

namespace CorpusForge.Number

/-- The bits of a positive finite value. Below the smallest normal value the exponent field is
    zero and there is no leading bit. -/
def positiveBits (q : Rat) : Nat :=
  let e := magnitude q
  if e < -1022 then (q / pow2 (-1074)).floor.toNat
  else
    let fraction := (q / pow2 (e - 52)).floor.toNat - 4503599627370496
    (e + 1023).toNat * 4503599627370496 + fraction

/-- The bits of a number, the sign first. -/
def bits : Number → Nat
  | .nan => 0x7ff8000000000000
  | .infinite false => 0x7ff0000000000000
  | .infinite true => 0xfff0000000000000
  | .negZero => 0x8000000000000000
  | .real q =>
    if q = 0 then 0
    else if q < 0 then 0x8000000000000000 + positiveBits (-q)
    else positiveBits q

end CorpusForge.Number
