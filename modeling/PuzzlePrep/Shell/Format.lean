import PuzzlePrep.Shell.Arithmetic
import PuzzlePrep.Shell.Escape

namespace PuzzlePrep.Shell.Format

def pad (left zeros : Bool) (width : Nat) (bytes : ByteArray) : ByteArray :=
  let fill (c : Char) := Escape.utf8 (List.replicate (width - bytes.size) c)
  if left then bytes ++ fill ' '
  else if zeros then
    match bytes.toList with
    | 45 :: rest => ⟨#[45]⟩ ++ fill '0' ++ ⟨rest.toArray⟩
    | _ => fill '0' ++ bytes
  else fill ' ' ++ bytes

inductive Measure
  | unset
  | fixed (n : Nat)
  | given

structure Directive where
  spelling : List Char
  left : Bool
  zeros : Bool
  plus : Bool
  width : Measure
  precision : Measure
  letter : Char

def measure (cs : List Char) : Measure × List Char :=
  match cs with
  | '*' :: rest => (.given, rest)
  | cs =>
    let digits := cs.takeWhile Char.isDigit
    (if digits.isEmpty then .unset else .fixed (((String.ofList digits).toNat?).getD 0),
      cs.dropWhile Char.isDigit)

def directive? (cs : List Char) : Option (Directive × List Char) :=
  let isFlag : Char → Bool := fun c => c == '-' || c == '0' || c == '+' || c == ' ' || c == '#'
  let flags := cs.takeWhile isFlag
  let (width, rest) := measure (cs.dropWhile isFlag)
  let (precision, rest) := match rest with
    | '.' :: rest =>
      match measure rest with
      | (.unset, rest) => (.fixed 0, rest)
      | found => found
    | rest => (.unset, rest)
  match rest with
  | [] => none
  | letter :: after =>
    let spelling := '%' :: cs.take (cs.length - after.length)
    some (⟨spelling, flags.contains '-', flags.contains '0', flags.contains '+', width, precision,
      letter⟩, after)

def numberAtFront (cs : List Char) : Int × List Char × Bool :=
  let cs := cs.dropWhile fun c => c == ' ' || ('\t' ≤ c && c ≤ '\r')
  let (negative, cs) := match cs with
    | '-' :: rest => (true, rest)
    | '+' :: rest => (false, rest)
    | cs => (false, cs)
  let (base, cs) := match cs with
    | '0' :: x :: d :: rest =>
      if (x == 'x' || x == 'X') && Arithmetic.digitValue d < 16 then (16, d :: rest) else (8, cs)
    | '0' :: _ => (8, cs)
    | cs => (10, cs)
  let digits := cs.takeWhile fun c => Arithmetic.digitValue c < base
  let n := digits.foldl (fun n c => base * n + Arithmetic.digitValue c) 0
  (if negative then -(n : Int) else n, cs.drop digits.length, !digits.isEmpty)

def number (signed : Bool) (argument : String) : Int × Option String :=
  match argument.toList with
  | '\x27' :: c :: _ | '\x22' :: c :: _ => (c.toNat, none)
  | ['\x27'] | ['\x22'] => (0, none)
  | cs =>
    let (n, rest, found) := numberAtFront cs
    let least : Int := if signed then -(Number.signedBound : Int) else -(Number.wordCount : Int) + 1
    let greatest : Int := if signed then (Number.signedBound : Int) - 1 else (Number.wordCount : Int) - 1
    let fits := least ≤ n && n ≤ greatest
    let value := if fits then n else if n < 0 && signed then least else greatest
    let complaint :=
      if !found && !argument.isEmpty then some (argument ++ ": expected numeric value")
      else if !rest.isEmpty then some (argument ++ ": not completely converted")
      else if fits then none
      else some (argument ++ ": Numerical result out of range")
    (value, complaint)

/-- What has been printed, the arguments that are left, the complaints so far, and whether to print
no more, perhaps because of a mistake in the format. -/
structure Printed where
  arguments : List String
  bytes : ByteArray := .empty
  complaints : List String := []
  ended : Bool := false
  mistake : Option String := none

namespace Printed

def write (bytes : ByteArray) (p : Printed) : Printed := { p with bytes := p.bytes ++ bytes }

def takeNumber (signed : Bool) (p : Printed) : Int × Printed :=
  match p.arguments with
  | [] => (0, p)
  | a :: rest =>
    let (n, complaint) := number signed a
    (n, { p with arguments := rest, complaints := p.complaints ++ complaint.toList })

def takeMeasure (p : Printed) : Measure → Option Nat × Printed
  | .unset => (none, p)
  | .fixed n => (some n, p)
  | .given =>
    let (n, p) := p.takeNumber true
    (some n.toNat, p)

def takeText (p : Printed) : String × Printed :=
  (p.arguments.headD "", { p with arguments := p.arguments.tail })

def follow (d : Directive) (p : Printed) : Printed :=
  let (width, p) := p.takeMeasure d.width
  let (precision, p) := p.takeMeasure d.precision
  let place (bytes : ByteArray) : ByteArray := pad d.left d.zeros (width.getD 0) bytes
  let cut (bytes : ByteArray) : ByteArray := match precision with
    | some n => bytes.extract 0 n
    | none => bytes
  let digits (base : Nat) (n : Nat) : List Char :=
    let ds := Nat.toDigits base n
    List.replicate (precision.getD 0 - ds.length) '0' ++ ds
  let whole (base : Nat) (upper : Bool) : Printed :=
    let (n, p) := p.takeNumber false
    let ds := digits base (Arithmetic.bits n)
    p.write (place (Escape.utf8 (if upper then ds.map Char.toUpper else ds)))
  match d.letter with
  | 's' =>
    let (s, p) := p.takeText
    p.write (place (cut s.toUTF8))
  | 'b' =>
    let (s, p) := p.takeText
    let (bytes, stop) := Escape.expand (s.length + 1) s.toList
    { p.write (place (cut bytes)) with ended := stop }
  | 'c' =>
    let (s, p) := p.takeText
    p.write (place (s.toUTF8.extract 0 1))
  | 'd' | 'i' =>
    let (n, p) := p.takeNumber true
    let sign := if n < 0 then ['-'] else if d.plus then ['+'] else []
    p.write (place (Escape.utf8 (sign ++ digits 10 n.natAbs)))
  | 'u' => whole 10 false
  | 'o' => whole 8 false
  | 'x' => whole 16 false
  | 'X' => whole 16 true
  | _ => { p with ended := true, mistake := some (String.ofList d.spelling ++ ": invalid directive") }

def pass : Nat → List Char → Printed → Printed
  | 0, _, p => p
  | _, [], p => p
  | fuel + 1, '%' :: '%' :: cs, p => pass fuel cs (p.write (Escape.utf8 ['%']))
  | fuel + 1, '%' :: cs, p =>
    match directive? cs with
    | none => { p with ended := true, mistake := some "missing format character" }
    | some (d, rest) =>
      let p := p.follow d
      if p.ended then p else pass fuel rest p
  | fuel + 1, '\\' :: c :: cs, p =>
    match Escape.octal? false (c :: cs), Escape.simple? c with
    | some (bytes, n), _ => pass fuel ((c :: cs).drop n) (p.write bytes)
    | none, some d => pass fuel cs (p.write (Escape.utf8 [d]))
    | none, none => pass fuel cs (p.write (Escape.utf8 ['\\', c]))
  | fuel + 1, c :: cs, p => pass fuel cs (p.write (Escape.utf8 [c]))

end Printed

def print : Nat → List Char → Printed → Printed
  | 0, _, p => p
  | fuel + 1, cs, p =>
    let next := Printed.pass (cs.length + 1) cs p
    if next.ended || next.arguments.isEmpty || next.arguments.length == p.arguments.length then next
    else print fuel cs next

def apply (form : String) (arguments : List String) : Printed :=
  print (arguments.length + 1) form.toList ⟨arguments, .empty, [], false, none⟩

end PuzzlePrep.Shell.Format
