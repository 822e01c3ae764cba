/-!
# The shortest decimal of a floating-point number

For each number of digits from one on, the two neighbours of the value on that decimal grid are read
back. The first grid on which one reads back as the value wins, and of two that do the nearer one.
Values from `10 ^ -5` up to `10 ^ 16` are written with a point, all others with an exponent.
-/

namespace LogPipeline.Json

/-- The significand of a value takes the last 52 bits. -/
def significandEnd : Nat := 0x10000000000000

/-- A positive finite value as `m * 2 ^ e`. -/
def binaryParts (x : Float) : Nat × Int :=
  let bits := x.toBits.toNat
  let exponent : Nat := bits / significandEnd % 0x800
  let fraction : Nat := bits % significandEnd
  if exponent = 0 then (fraction, -1074) else (fraction + significandEnd, (exponent : Int) - 1075)

def ratio (x : Float) : Nat × Nat :=
  let (m, e) := binaryParts x
  if 0 ≤ e then (m * Nat.pow 2 e.toNat, 1) else (m, Nat.pow 2 (-e).toNat)

/-- The exponent of the first decimal digit of a fraction `n / d`, for values beyond `10 ^ -400`. -/
def leadingExponent (n d : Nat) : Int :=
  ((toString (n * Nat.pow 10 400 / d)).length : Int) - 401

/-- The decimal `digits * 10 ^ e`, read as a floating-point number. -/
def readDecimal (digits : Nat) (e : Int) : Float :=
  if 0 ≤ e then Float.ofScientific digits false e.toNat
  else Float.ofScientific digits true (-e).toNat

/-- The shortest digits that read back as `x`, with the exponent of the last one. The grid has `n`
digits, and `fuel` more grids are tried. -/
def shortestFrom (x : Float) (num den : Nat) (lead : Int) : Nat → Nat → Nat × Int
  | 0, _ => (0, 0)
  | fuel + 1, n =>
    let e := lead - (n - 1 : Nat)
    let (a, b) :=
      if 0 ≤ e then (num, den * Nat.pow 10 e.toNat) else (num * Nat.pow 10 (-e).toNat, den)
    let low := a / b
    let lowBack := readDecimal low e == x
    let highBack := readDecimal (low + 1) e == x
    if lowBack && highBack then (if 2 * (a - low * b) ≤ b then low else low + 1, e)
    else if lowBack then (low, e)
    else if highBack then (low + 1, e)
    else shortestFrom x num den lead fuel (n + 1)

def trimZeros : Nat → Nat → Int → Nat × Int
  | 0, d, e => (d, e)
  | fuel + 1, d, e => if d % 10 = 0 && d ≠ 0 then trimZeros fuel (d / 10) (e + 1) else (d, e)

/-- The text of decimal digits with the exponent of the last one. -/
def placePoint (digits : Nat) (e : Int) : String :=
  let ds := (toString digits).toList
  let n := ds.length
  let point : Int := n + e
  if 0 ≤ e && point ≤ 16 then String.ofList (ds ++ List.replicate e.toNat '0' ++ ['.', '0'])
  else if 0 < point && point ≤ 16 then
    String.ofList (ds.take point.toNat ++ '.' :: ds.drop point.toNat)
  else if -5 < point && point ≤ 0 then
    String.ofList ('0' :: '.' :: (List.replicate (-point).toNat '0' ++ ds))
  else
    let exponent := point - 1
    let mantissa := match ds with
      | [d] => [d]
      | d :: rest => d :: '.' :: rest
      | [] => []
    String.ofList mantissa ++ (if exponent < 0 then "e-" else "e+") ++ toString exponent.natAbs

/-- The shortest text that reads back as `x`. -/
def floatText (x : Float) : String :=
  if x == 0.0 then (if x.toBits == 0 then "0.0" else "-0.0")
  else
    let y := x.abs
    let (num, den) := ratio y
    let (d, e) := shortestFrom y num den (leadingExponent num den) 17 1
    let (d, e) := trimZeros 400 d e
    (if x < 0.0 then "-" else "") ++ placePoint d e

end LogPipeline.Json
