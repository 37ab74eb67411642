namespace PuzzlePrep.Number

structure Format where
  bits : Nat
  lowest : Int
  highest : Int

def double : Format := ⟨53, -1074, 971⟩

def single : Format := ⟨24, -149, 104⟩

/-- A value of a format: `finite` is `mantissa * 2 ^ scale`, with a sign of its own for zero. -/
inductive Binary
  | finite (negative : Bool) (mantissa : Nat) (scale : Int)
  | infinite (negative : Bool)
  | nan
  deriving DecidableEq, Repr, Inhabited

namespace Binary

def zero (negative : Bool) : Binary := .finite negative 0 0

def isFinite : Binary → Bool
  | .finite .. => true
  | _ => false

def isZero : Binary → Bool
  | .finite _ m _ => m == 0
  | _ => false

end Binary

def divNearest (num den : Nat) : Nat :=
  let q := num / den
  let r := num % den
  if 2 * r < den then q else if den < 2 * r then q + 1 else q + q % 2

def rescale (num den : Nat) (scale : Int) : Nat × Nat :=
  if 0 ≤ scale then (num, den * Nat.pow 2 scale.toNat) else (num * Nat.pow 2 (-scale).toNat, den)

namespace Format

def nearest (f : Format) (negative : Bool) (num den : Nat) : Binary :=
  if num = 0 then Binary.zero negative
  else
    let guess := max ((num.log2 : Int) - den.log2 - f.bits) f.lowest
    let (n, d) := rescale num den guess
    let scale := if n / d < Nat.pow 2 f.bits then guess else guess + 1
    let (n, d) := rescale num den scale
    let m := divNearest n d
    let (m, scale) := if m < Nat.pow 2 f.bits then (m, scale) else (m / 2, scale + 1)
    if f.highest < scale then .infinite negative
    else if m = 0 then Binary.zero negative
    else .finite negative m scale

/-- The value of the format nearest to `digits * 10 ^ exponent`. Exponents far beyond every value
of a format are cut off before they are raised to a power. -/
def ofDecimal (f : Format) (negative : Bool) (digits : Nat) (exponent : Int) : Binary :=
  let size := (digits.log2 : Int) * 30103 / 100000 + exponent
  if digits = 0 || size < -400 then Binary.zero negative
  else if 400 < size then .infinite negative
  else if 0 ≤ exponent then f.nearest negative (digits * Nat.pow 10 exponent.toNat) 1
  else f.nearest negative digits (Nat.pow 10 (-exponent).toNat)

def ofInt (f : Format) (i : Int) : Binary := f.nearest (i < 0) i.natAbs 1

def convert (f : Format) : Binary → Binary
  | .finite negative m scale =>
    let (n, d) := rescale m 1 (-scale)
    f.nearest negative n d
  | x => x

end Format

end PuzzlePrep.Number
