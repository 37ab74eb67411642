import PuzzlePrep.Number.Binary

namespace PuzzlePrep.Number

structure Decimal where
  digits : Nat
  exponent : Int
  deriving DecidableEq, Repr, Inhabited

def powerOfTen (k : Int) : Nat × Nat :=
  if 0 ≤ k then (Nat.pow 10 k.toNat, 1) else (1, Nat.pow 10 (-k).toNat)

inductive Tie
  | toEven
  | upward
  deriving DecidableEq, Repr

/-- What a writer decides about the decimals of a value: for which powers of two the lower end of
an interval with an even mantissa belongs to it, and what becomes of a tie. -/
structure Choice where
  lowEnd : Int → Bool
  tie : Tie

def Choice.balanced : Choice := ⟨fun _ => true, .toEven⟩

structure Interval where
  low : Nat
  value : Nat
  high : Nat
  lowEnd : Bool
  highEnd : Bool
  tie : Tie

/-- The interval of a value. Below a power of two the next value is half as far away; there the
choice of the writer plays no part. -/
def Format.interval (f : Format) (choice : Choice) (mantissa : Nat) (scale : Int) : Interval :=
  let even := mantissa % 2 = 0
  if mantissa = Nat.pow 2 (f.bits - 1) && f.lowest < scale then
    ⟨4 * mantissa - 1, 4 * mantissa, 4 * mantissa + 2, even, even, .toEven⟩
  else
    ⟨4 * mantissa - 2, 4 * mantissa, 4 * mantissa + 2, even && choice.lowEnd scale, even,
      choice.tie⟩

def Interval.holds (i : Interval) (step quarter digits : Nat) : Bool :=
  let d := digits * step
  (i.low * quarter < d || (i.lowEnd && i.low * quarter = d)) &&
    (d < i.high * quarter || (i.highEnd && d = i.high * quarter))

def Tie.takesLower (tie : Tie) (rest step lower : Nat) : Bool :=
  2 * rest < step || (tie == .toEven && 2 * rest = step && lower % 2 = 0)

def Interval.onGrid? (i : Interval) (scale k : Int) : Option Nat :=
  let (gridNum, gridDen) := powerOfTen k
  let (unitNum, unitDen) := rescale 1 1 (2 - scale)
  let step := gridNum * unitDen
  let quarter := unitNum * gridDen
  let value := i.value * quarter
  let low := value / step
  match i.holds step quarter low, i.holds step quarter (low + 1) with
  | true, true => some (if i.tie.takesLower (value - low * step) step low then low else low + 1)
  | true, false => some low
  | false, true => some (low + 1)
  | false, false => none

def Interval.search (i : Interval) (scale : Int) : Nat → Int → Decimal
  | 0, k => ⟨0, k⟩
  | fuel + 1, k =>
    match i.onGrid? scale k with
    | some digits => ⟨digits, k⟩
    | none => i.search scale fuel (k - 1)

def Decimal.reduce : Nat → Decimal → Decimal
  | 0, d => d
  | fuel + 1, d =>
    if d.digits ≠ 0 && d.digits % 10 = 0 then reduce fuel ⟨d.digits / 10, d.exponent + 1⟩ else d

/-- The shortest decimal of a value that is not zero. Twenty grids are enough for every format of
at most 53 bits. -/
def Format.shortest (f : Format) (choice : Choice) (mantissa : Nat) (scale : Int) : Decimal :=
  let top := ((mantissa.log2 : Int) + scale) * 30103 / 100000 + 1
  ((f.interval choice mantissa scale).search scale 20 top).reduce 20

structure Notation where
  plainFrom : Int
  plainTo : Int
  pointZero : Bool

def dataNotation : Notation := ⟨-5, 15, true⟩

def plainNotation : Notation := ⟨-400, 400, false⟩

def Decimal.text (n : Notation) (d : Decimal) : String :=
  let ds := (toString d.digits).toList
  let e := d.exponent + ds.length - 1
  let text :=
    if n.plainFrom ≤ e && e ≤ n.plainTo then
      if 0 ≤ d.exponent then
        ds ++ List.replicate d.exponent.toNat '0' ++ (if n.pointZero then ['.', '0'] else [])
      else if 0 ≤ e then ds.take (e.toNat + 1) ++ '.' :: ds.drop (e.toNat + 1)
      else '0' :: '.' :: List.replicate (-e - 1).toNat '0' ++ ds
    else
      let fraction := if ds.length ≤ 1 then [] else '.' :: ds.drop 1
      let sign := if e < 0 then '-' else '+'
      ds.take 1 ++ fraction ++ 'e' :: sign :: (toString e.natAbs).toList
  String.ofList text

def Format.text (f : Format) (n : Notation) : Binary → String
  | .nan => "NaN"
  | .infinite negative => if negative then "-inf" else "inf"
  | .finite negative m scale =>
    let sign := if negative then "-" else ""
    if m = 0 then sign ++ (if n.pointZero then "0.0" else "0")
    else sign ++ (f.shortest .balanced m scale).text n

end PuzzlePrep.Number
