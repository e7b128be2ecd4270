/-! # Rounding quotients to floating point

A finite floating point number is a significand below `2 ^ 53` times a power of two
that is at least `2 ^ (-1074)`. A quotient of natural numbers is rounded to the nearest
such number, a half going to the even significand.
-/
namespace SchemaAtlas.Number

/-- The quotient of two naturals rounded to the nearest natural, a half to the even one. -/
def roundQuotient (n d : Nat) : Nat :=
  let q := n / d
  let r := 2 * (n % d)
  if d < r ∨ (r = d ∧ q % 2 = 1) then q + 1 else q

def scaleUp (n : Nat) (e : Int) : Nat := n * Nat.pow 2 e.toNat

/-- The least significand of a number whose last place is not the smallest. -/
def hiddenBit : Nat := 0x10000000000000

/-- The exponent `e` with `2 ^ e ≤ n / d < 2 ^ (e + 1)`, for positive `n` and `d`. -/
def magnitude (n d : Nat) : Int :=
  let e : Int := (n.log2 : Int) - d.log2
  if scaleUp d e ≤ scaleUp n (-e) then e else e - 1

def lastPlace (magnitude : Int) : Int :=
  max (-1074) (magnitude - 52)

def encodeQuotient (n d : Nat) : Nat :=
  if n = 0 then 0
  else
    let u := lastPlace (magnitude n d)
    (u + 1074).toNat * hiddenBit + roundQuotient (scaleUp n (-u)) (scaleUp d u)

/-- The encoding of positive infinity, just after those of the finite numbers. -/
def infinityBits : Nat := 0x7ff0000000000000

def signBit : Nat := 0x8000000000000000

def ofEncoding (negative : Bool) (bits : Nat) : Float :=
  .ofBits (.ofNat (if negative then signBit + bits else bits))

/-- The floating point number nearest to `± n / d`, unless that is out of range. -/
def ofQuotient? (negative : Bool) (n d : Nat) : Option Float :=
  let bits := encodeQuotient n d
  if bits < infinityBits then some (ofEncoding negative bits) else none

def infinity (negative : Bool) : Float :=
  ofEncoding negative infinityBits

def nan : Float :=
  .ofBits 0x7ff8000000000000

/-- The floating point number nearest to an integer, unless that is out of range. -/
def ofInt? (n : Int) : Option Float :=
  ofQuotient? (n < 0) n.natAbs 1

def magnitudeBits (x : Float) : Nat :=
  x.toBits.toNat % signBit

def isNegative (x : Float) : Bool :=
  signBit ≤ x.toBits.toNat

def isFinite (x : Float) : Bool :=
  magnitudeBits x < infinityBits

def significand (x : Float) : Nat :=
  let b := magnitudeBits x
  if b < hiddenBit then b else b % hiddenBit + hiddenBit

def exponent (x : Float) : Int :=
  let b := magnitudeBits x
  if b < hiddenBit then -1074 else (b / hiddenBit : Nat) - 1075

def toInt? (x : Float) : Option Int :=
  if !isFinite x then none
  else
    let m := significand x
    let e := exponent x
    let n := scaleUp m e
    let d := scaleUp 1 (-e)
    if n % d = 0 then some (if isNegative x then -(n / d : Nat) else (n / d : Nat)) else none

def intLtFloat (n : Int) (x : Float) : Bool :=
  if x.isNaN then false
  else if !isFinite x then !isNegative x
  else
    let m : Int := scaleUp (significand x) (exponent x)
    n * (scaleUp 1 (-exponent x) : Nat) < if isNegative x then -m else m

def floatLtInt (x : Float) (n : Int) : Bool :=
  if x.isNaN then false
  else if !isFinite x then isNegative x
  else
    let m : Int := scaleUp (significand x) (exponent x)
    (if isNegative x then -m else m) < n * (scaleUp 1 (-exponent x) : Nat)

end SchemaAtlas.Number
