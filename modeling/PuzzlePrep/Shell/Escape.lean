namespace PuzzlePrep.Shell.Escape

def isOctal (c : Char) : Bool := '0' ≤ c && c ≤ '7'

def octal (cs : List Char) : ByteArray :=
  ⟨#[(cs.foldl (fun (n : Nat) (c : Char) => 8 * n + (c.toNat - 48)) 0).toUInt8]⟩

def utf8 (cs : List Char) : ByteArray := (String.ofList cs).toUTF8

def simple? : Char → Option Char
  | 'a' => some '\x07'
  | 'b' => some '\x08'
  | 'f' => some '\x0c'
  | 'n' => some '\n'
  | 'r' => some '\r'
  | 't' => some '\t'
  | 'v' => some '\x0b'
  | '\\' => some '\\'
  | _ => none

def octal? (zero : Bool) (cs : List Char) : Option (ByteArray × Nat) :=
  let digits := (cs.takeWhile isOctal).take (if zero && cs.head? == some '0' then 4 else 3)
  if digits.isEmpty then none else some (octal digits, digits.length)

def expand : Nat → List Char → ByteArray × Bool
  | 0, _ => (.empty, false)
  | _, [] => (.empty, false)
  | fuel + 1, '\\' :: c :: cs =>
    if c == 'c' then (.empty, true)
    else
      let (bytes, rest) := match octal? true (c :: cs), simple? c with
        | some (bytes, n), _ => (bytes, (c :: cs).drop n)
        | none, some d => (utf8 [d], cs)
        | none, none => (utf8 ['\\', c], cs)
      let (more, stop) := expand fuel rest
      (bytes ++ more, stop)
  | fuel + 1, c :: cs =>
    let (more, stop) := expand fuel cs
    (utf8 [c] ++ more, stop)

end PuzzlePrep.Shell.Escape
