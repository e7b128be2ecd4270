import SchemaAtlas.Number.Rounding

/-! # Decimal text of floating point numbers

A floating point number is written with the fewest decimal digits that read back as
the same number, and of those with the nearest ones. Powers of ten from `-4` to `15`
are written out, others with an exponent of at least two digits.
-/
namespace SchemaAtlas.Number

structure Decimal where
  digits : Nat
  exponent : Int
  deriving DecidableEq, Repr

def digitsOf (n : Nat) : List Char := Nat.toDigits 10 n

def scaleTen (n : Nat) (e : Int) : Nat := n * Nat.pow 10 e.toNat

/-- The floating point number nearest to a decimal; infinite when out of range. -/
def Decimal.toFloat (negative : Bool) (d : Decimal) : Float :=
  let size : Int := (digitsOf d.digits).length + d.exponent
  if d.digits = 0 ∨ size < -400 then ofEncoding negative 0
  else if 400 < size then infinity negative
  else
    (ofQuotient? negative (scaleTen d.digits d.exponent) (scaleTen 1 (-d.exponent))).getD
      (infinity negative)

/-- The exponent `k` with `10 ^ k ≤ n / d < 10 ^ (k + 1)`, for positive `n` and `d`. -/
def decimalMagnitude (n d : Nat) : Int :=
  if d ≤ n then (digitsOf (n / d)).length - 1
  else
    let k := (digitsOf (d / n)).length
    if d = scaleTen n (k - 1 : Nat) then -(k - 1 : Nat) else -k

/-- The numbers that round to a given one, in quarters of its last place: the number
itself, the ends of the interval, and whether the ends belong to it. -/
structure Reach where
  value : Nat
  low : Nat
  high : Nat
  closed : Bool

/-- The interval around `m * 2 ^ e`; it is narrower below a power of two. -/
def Reach.around (m : Nat) (e : Int) : Reach where
  value := 4 * m
  low := if m = hiddenBit ∧ -1074 < e then 4 * m - 1 else 4 * m - 2
  high := 4 * m + 2
  closed := m % 2 == 0

/-- Whether `n / d`, in quarters of the last place, lies in the interval. -/
def Reach.holds (r : Reach) (n d : Nat) : Bool :=
  if r.closed then r.low * d ≤ n && n ≤ r.high * d else r.low * d < n && n < r.high * d

/-- The multiple of `10 ^ place` nearest to `m * 2 ^ e` among those that read back as it. -/
def onGrid? (m : Nat) (e : Int) (place : Int) : Option Nat :=
  let r := Reach.around m e
  -- one step of the grid is `step / unit` quarters of the last place
  let step := scaleUp (scaleTen 1 place) (2 - e)
  let unit := scaleUp (scaleTen 1 (-place)) (e - 2)
  let below := r.value * unit / step
  let rest := 2 * (r.value * unit % step)
  let above := below + 1
  match r.holds (below * step) unit, r.holds (above * step) unit with
  | true, true =>
    some (if rest < step ∨ (rest = step ∧ below % 2 = 0) then below else above)
  | true, false => some below
  | false, true => some above
  | false, false => none

/-- The shortest decimal of `m * 2 ^ e` with at least `17 - more` digits. -/
def shortestFrom (m : Nat) (e : Int) (top : Int) : Nat → Decimal
  | 0 => ⟨(onGrid? m e (top - 16)).getD 0, top - 16⟩
  | more + 1 =>
    let place := top - (16 - (more + 1 : Nat) : Int)
    match onGrid? m e place with
    | some n => ⟨n, place⟩
    | none => shortestFrom m e top more

/-- The shortest decimal that reads back as the positive number `m * 2 ^ e`. -/
def shortest (m : Nat) (e : Int) : Decimal :=
  shortestFrom m e (decimalMagnitude (scaleUp m e) (scaleUp 1 (-e))) 16

def trimZeros (ds : List Char) : List Char :=
  (ds.reverse.dropWhile (· == '0')).reverse

def exponentText (e : Int) : List Char :=
  let ds := digitsOf e.natAbs
  'e' :: (if e < 0 then '-' else '+') :: (if ds.length < 2 then '0' :: ds else ds)

/-- The text of a positive decimal: positional for exponents from `-4` to `15`. -/
def Decimal.text (d : Decimal) : List Char :=
  let all := digitsOf d.digits
  let point : Int := all.length + d.exponent
  let ds := trimZeros all
  if -4 < point ∧ point ≤ 0 then
    '0' :: '.' :: (List.replicate (-point).toNat '0' ++ ds)
  else if 0 < point ∧ point ≤ 16 then
    let whole := ds.take point.toNat
    let fraction := ds.drop point.toNat
    whole ++ List.replicate (point.toNat - ds.length) '0' ++
      '.' :: (if fraction.isEmpty then ['0'] else fraction)
  else match ds with
    | [] => ['0']
    | [c] => c :: exponentText (point - 1)
    | c :: rest => c :: '.' :: (rest ++ exponentText (point - 1))

def text (x : Float) : String :=
  if x.isNaN then "nan"
  else
    let sign := if isNegative x then ['-'] else []
    .ofList <| sign ++
      if !isFinite x then ['i', 'n', 'f']
      else if significand x = 0 then ['0', '.', '0']
      else (shortest (significand x) (exponent x)).text

end SchemaAtlas.Number
