import PuzzlePrep.Number.Binary

namespace PuzzlePrep.Number

namespace Format

def mul (f : Format) : Binary → Binary → Binary
  | .finite s m e, .finite s' m' e' =>
    let (n, d) := rescale (m * m') 1 (-(e + e'))
    f.nearest (s != s') n d
  | _, _ => .nan

def div (f : Format) : Binary → Binary → Binary
  | .finite s m e, .finite s' m' e' =>
    if m' = 0 then .nan
    else
      let (n, d) := rescale m m' (e' - e)
      f.nearest (s != s') n d
  | _, _ => .nan

def largestStep : Nat := 308

/-- A value of double precision times a power of ten; nothing if the product is too large. `fuel`
bounds the number of divisions; four of them make every value zero. -/
def scaleBy : Nat → Binary → Int → Option Binary
  | 0, x, _ => some x
  | fuel + 1, x, exponent =>
    if exponent.natAbs ≤ largestStep then
      let power := double.ofInt (Nat.pow 10 exponent.natAbs)
      if 0 ≤ exponent then
        let product := double.mul x power
        if product.isFinite then some product else none
      else some (double.div x power)
    else if x.isZero then some x
    else if 0 ≤ exponent then none
    else scaleBy fuel (double.div x (double.ofInt (Nat.pow 10 largestStep))) (exponent + largestStep)

end Format

def readScaled (negative : Bool) (digits : Nat) (exponent : Int) : Option Binary :=
  (Format.scaleBy 4 (double.ofInt digits) exponent).map fun
    | .finite _ m e => .finite negative m e
    | x => x

end PuzzlePrep.Number
