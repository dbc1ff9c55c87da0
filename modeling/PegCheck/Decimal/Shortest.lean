/-!
# The shortest decimal that reads back

A positive binary fraction `m · 2 ^ q` is shown with the fewest significant digits that still lie in
the interval of reals that round to it, and among those of that many digits with the nearest. The
arithmetic is exact, on natural numbers.

Headlines:
* **`Decimal.shortest`**: the digits and the decimal exponent of the first of them.
* **`Decimal.layout`**: positional from `10 ^ -5` up to `10 ^ 15`, always with a fraction; with a
  signed exponent of at least two digits elsewhere.
-/

namespace PegCheck.Decimal

/-- A non-negative rational number. -/
structure Ratio where
  num : Nat
  den : Nat

/-- The number `n · 2 ^ q`. -/
def Ratio.ofBinary (n : Nat) (q : Int) : Ratio :=
  if q ≥ 0 then ⟨n * Nat.pow 2 q.toNat, 1⟩ else ⟨n, Nat.pow 2 (-q).toNat⟩

/-- The number `d · 10 ^ e`. -/
def Ratio.ofDecimal (d : Nat) (e : Int) : Ratio :=
  if e ≥ 0 then ⟨d * Nat.pow 10 e.toNat, 1⟩ else ⟨d, Nat.pow 10 (-e).toNat⟩

/-- Is the first number smaller? -/
def Ratio.lt (a b : Ratio) : Bool := a.num * b.den < b.num * a.den

/-- The distance of two numbers. -/
def Ratio.distance (a b : Ratio) : Ratio :=
  let x := a.num * b.den
  let y := b.num * a.den
  ⟨(x - y) + (y - x), a.den * b.den⟩

/-- The least number of tenfold steps, of at most `fuel`, that bring `r` to one or more. -/
def stepsToOne (r : Ratio) : Nat → Nat
  | 0 => 0
  | fuel + 1 => if r.num ≥ r.den then 0 else stepsToOne ⟨r.num * 10, r.den⟩ fuel + 1

/-- The decimal exponent of the first digit of a positive number. -/
def leadingExponent (r : Ratio) : Int :=
  if r.num ≥ r.den then ((Nat.toDigits 10 (r.num / r.den)).length : Int) - 1
  else - (stepsToOne r 400 : Int)

/-- The nearer of the two neighbours of `r` on the grid of multiples of `10 ^ e`, if it lies between
the bounds; `closed` says that the bounds themselves count. -/
def gridHit (r lower upper : Ratio) (closed : Bool) (e : Int) : Option Nat :=
  let step := Ratio.ofDecimal 1 e
  let below := (r.num * step.den) / (r.den * step.num)
  let inside (d : Nat) : Bool :=
    let x := Ratio.ofDecimal d e
    if closed then !x.lt lower && !upper.lt x else lower.lt x && x.lt upper
  let apart (d : Nat) : Ratio := (Ratio.ofDecimal d e).distance r
  let farBelow := (apart (below + 1)).lt (apart below)
  let candidates := if farBelow then [below + 1, below] else [below, below + 1]
  candidates.find? fun d => d != 0 && inside d

/-- The shortest digits of `m · 2 ^ q` and the decimal exponent of the first of them; `narrow` says
that the neighbour below is only half as far away as the one above. -/
def shortest (m : Nat) (q : Int) (narrow : Bool) : Nat × Int :=
  let value := Ratio.ofBinary m q
  let lower := Ratio.ofBinary (4 * m - if narrow then 1 else 2) (q - 2)
  let upper := Ratio.ofBinary (4 * m + 2) (q - 2)
  let first := leadingExponent value
  let hit := (List.range 17).findSome? fun (n : Nat) =>
    (gridHit value lower upper (m % 2 == 0) (first - n)).map fun d => (d, first - n)
  match hit with
  | some (d, e) => (d, e + ((Nat.toDigits 10 d).length : Int) - 1)
  | none => (m, 0)

/-- Digits without the zeros at their end. -/
def significant (digits : List Char) : List Char :=
  match (digits.reverse.dropWhile (· == '0')).reverse with
  | [] => ['0']
  | ds => ds

/-- A number in print, from its digits and the decimal exponent of the first of them. -/
def layout (digits : List Char) (exponent : Int) : String :=
  let pointed (whole fraction : List Char) : String :=
    String.ofList (whole ++ '.' :: (if fraction.isEmpty then ['0'] else fraction))
  if 0 ≤ exponent && exponent ≤ 15 then
    let n := exponent.toNat + 1
    pointed (digits.take n ++ List.replicate (n - digits.length) '0') (digits.drop n)
  else if -5 ≤ exponent && exponent < 0 then
    pointed ['0'] (List.replicate ((-exponent).toNat - 1) '0' ++ digits)
  else
    let mantissa := match digits with
      | [d] => String.ofList [d]
      | ds => pointed (ds.take 1) (ds.drop 1)
    let size := exponent.natAbs
    mantissa ++ "e" ++ (if exponent < 0 then "-" else "+")
      ++ (if size < 10 then "0" else "") ++ toString size

/-- A finite double in print. -/
def render (x : Float) : String :=
  let bits : Nat := x.toBits.toNat
  let sign := if bits ≥ Nat.pow 2 63 then "-" else ""
  let biased : Nat := bits / Nat.pow 2 52 % Nat.pow 2 11
  let fraction : Nat := bits % Nat.pow 2 52
  if biased == 0 && fraction == 0 then sign ++ "0.0"
  else
    let m := if biased == 0 then fraction else fraction + Nat.pow 2 52
    let q : Int := if biased == 0 then -1074 else (biased : Int) - 1075
    let (d, e) := shortest m q (fraction == 0 && biased > 1)
    sign ++ layout (significant (Nat.toDigits 10 d)) e

end PegCheck.Decimal
