/-!
Binary floating point in sixty-four bits, by exact arithmetic.

A finite number that is not negative is a mantissa below `2 ^ 53` times a power
of two.  Every operation computes its exact result as a ratio and rounds that
once, to the nearest number and to the even one of two that are equally near.
-/

namespace Phrasebook.Decimal

def powTwo (n : Nat) : Nat :=
  Nat.pow 2 n

def powTen (n : Nat) : Nat :=
  Nat.pow 10 n

/-- The number `mantissa * 2 ^ exponent`. -/
structure Binary64 where
  mantissa : Nat
  exponent : Int
  deriving DecidableEq, Repr

namespace Binary64

def minExponent : Int := -1074

def maxExponent : Int := 971

def zero : Binary64 :=
  ⟨0, minExponent⟩

/-- The integer nearest to a ratio, the even one of two that are equally
near. -/
def roundDiv (num den : Nat) : Nat :=
  let q := num / den
  let twice := 2 * (num % den)
  if twice < den then q
  else if den < twice then q + 1
  else q + q % 2

/-- `n * 2 ^ e`, as a ratio. -/
def scale (n : Nat) (e : Int) : Nat × Nat :=
  if 0 ≤ e then (n * powTwo e.toNat, 1) else (n, powTwo (-e).toNat)

/-- The number nearest to a ratio, unless it is too large. -/
def ofRatio? (num den : Nat) : Option Binary64 :=
  if num = 0 then some zero
  else
    let guess : Int := (Nat.log2 num : Int) - (Nat.log2 den : Int)
    let (low, lowDen) := scale den guess
    let log := if low ≤ num * lowDen then guess else guess - 1
    let e := max (log - 52) minExponent
    let (unit, unitDen) := scale den e
    let m := roundDiv (num * unitDen) unit
    let (m, e) := if m = powTwo 53 then (powTwo 52, e + 1) else (m, e)
    if maxExponent < e then none else some ⟨m, e⟩

def mul? (a b : Binary64) : Option Binary64 :=
  let (num, den) := scale (a.mantissa * b.mantissa) (a.exponent + b.exponent)
  ofRatio? num den

def div? (a b : Binary64) : Option Binary64 :=
  let (num, den) := scale a.mantissa (a.exponent - b.exponent)
  ofRatio? num (den * b.mantissa)

/-- `n * 10 ^ e` in steps that each round: `n` itself, a power of ten up to
`10 ^ 308`, and their product or quotient.  A smaller number is first divided
by `10 ^ 308`, at most `fuel` times, which leaves nothing of it. -/
def scaleTen? : Nat → Binary64 → Int → Option Binary64
  | fuel, f, e =>
      if e.natAbs ≤ 308 then do
        let power ← ofRatio? (powTen e.natAbs) 1
        if 0 ≤ e then f.mul? power else f.div? power
      else if f.mantissa = 0 then some f
      else if 0 ≤ e then none
      else
        match fuel with
        | 0 => some zero
        | fuel + 1 => do
            let power ← ofRatio? (powTen 308) 1
            let f ← f.div? power
            scaleTen? fuel f (e + 308)

/-- The number that a decimal significand below `2 ^ 64` and an exponent of ten
stand for, unless it is too large. -/
def ofDecimal? (significand : Nat) (exponent : Int) : Option Binary64 := do
  scaleTen? 4 (← ofRatio? significand 1) exponent

end Binary64

/-! ### Shortest decimals -/

/-- The decimal `digits * 10 ^ exponent`. -/
structure Shortest where
  digits : Nat
  exponent : Int
  deriving DecidableEq, Repr

/-- The multiple of `10 ^ p` that reads back as `f` and is nearest to it, if
there is one.  What reads back lies between the midpoints to the neighbours of
`f`; the midpoints themselves do if the mantissa is even. -/
def nearestOnGrid? (f : Binary64) (p : Int) : Option Nat :=
  let value := 4 * f.mantissa
  let low :=
    if f.mantissa = powTwo 52 ∧ Binary64.minExponent < f.exponent then value - 1
    else value - 2
  let high := value + 2
  let unit := powTwo (f.exponent - 2).toNat * powTen (-p).toNat
  let grid := powTwo (2 - f.exponent).toNat * powTen p.toNat
  let readsBack (d : Nat) : Bool :=
    if f.mantissa % 2 = 0 then low * unit ≤ d * grid && d * grid ≤ high * unit
    else low * unit < d * grid && d * grid < high * unit
  let below := value * unit / grid
  let above := below + 1
  match 0 < below && readsBack below, readsBack above with
  | true, true =>
      if value * unit - below * grid ≤ above * grid - value * unit then some below
      else some above
  | true, false => some below
  | false, true => some above
  | false, false => none

/-- The decimal with the fewest digits that reads back as `f`, searched from
the exponent `p` down. -/
def shortestFrom (f : Binary64) (p : Int) : Nat → Shortest
  | 0 => ⟨0, 0⟩
  | fuel + 1 =>
      match nearestOnGrid? f p with
      | some d => ⟨d, p⟩
      | none => shortestFrom f (p - 1) fuel

/-- The decimal with the fewest digits that reads back as `f`. -/
def shortest (f : Binary64) : Shortest :=
  if f.mantissa = 0 then ⟨0, 0⟩ else shortestFrom f 309 640

namespace Shortest

def figures (s : Shortest) : List Char :=
  Nat.toDigits 10 s.digits

/-- The power of ten that the first digit stands for. -/
def order (s : Shortest) : Int :=
  s.exponent + s.figures.length - 1

/-- A decimal without an exponent, with at least one digit on either side of
its point. -/
def positional (s : Shortest) : List Char :=
  if 0 ≤ s.exponent then s.figures ++ List.replicate s.exponent.toNat '0' ++ ['.', '0']
  else
    let places := (-s.exponent).toNat
    let padded := List.replicate (places + 1 - s.figures.length) '0' ++ s.figures
    padded.take (padded.length - places) ++ '.' :: padded.drop (padded.length - places)

/-- A decimal with one digit before its point, if it has one, and an exponent
that always has a sign. -/
def scientific (s : Shortest) : List Char :=
  let fraction := s.figures.drop 1
  s.figures.take 1 ++ (if fraction.isEmpty then [] else '.' :: fraction) ++
    ['e', if s.order < 0 then '-' else '+'] ++ Nat.toDigits 10 s.order.natAbs

/-- A decimal as it is shown: with an exponent only below `10 ^ -5` and from
`10 ^ 16` on. -/
def write (s : Shortest) : List Char :=
  if -5 ≤ s.order ∧ s.order ≤ 15 then s.positional else s.scientific

end Shortest

end Phrasebook.Decimal
