import PuzzlePrep.Shell.Format
import PuzzlePrep.Shell.State

namespace PuzzlePrep.Shell.Tool

open Act

def flags : List String → List Char × List String
  | [] => ([], [])
  | "--" :: rest => ([], rest)
  | a :: rest =>
    let (fs, others) := flags rest
    match a.toList with
    | '-' :: '-' :: _ => (fs, others)
    | '-' :: c :: cs => (c :: cs ++ fs, others)
    | _ => (fs, a :: others)

def baseName (s : String) : String :=
  let cs := (s.toList.reverse.dropWhile (· == '/')).reverse
  if cs.isEmpty then (if s = "" then "" else "/")
  else String.ofList (cs.reverse.takeWhile (· != '/')).reverse

def directoryName (s : String) : String :=
  let cs := s.toList.reverse.dropWhile (· == '/')
  let front := cs.dropWhile (· != '/')
  if cs.isEmpty && s != "" then "/"
  else if front.isEmpty then "."
  else
    let front := front.dropWhile (· == '/')
    if front.isEmpty then "/" else String.ofList front.reverse

def each (arguments : List String) (step : String → Act Nat) : Act Nat := do
  let statuses ← arguments.mapM step
  return statuses.foldl max 0

def fail (tool : String) (text : String) : Act Nat := do
  complain (tool ++ ": " ++ text)
  return 1

def misuse (tool : String) (text : String) : Act Nat := do
  complain (tool ++ ": " ++ text)
  complain ("Try '" ++ tool ++ " --help' for more information.")
  return 1

def quoted (s : String) : String := "'" ++ s ++ "'"

def bytesOf (p : String) : Disk ByteArray := do
  if p = "/dev/null" then return .empty
  match ← Disk.inspect (·.find ⟨p⟩) with
  | (_, .directory) => Disk.refuse .isDirectory
  | (_, .file (.bytes data) _) => return data
  | (_, .file (.table ..) _) => return .empty

def source (p : String) : Act (Except Fault ByteArray) := do
  if p = "-" then return .ok (← takeInput) else attempt (bytesOf p)

def onSources (tool : String) (files : List String) (step : String → ByteArray → Act Unit) :
    Act Nat :=
  each (if files.isEmpty then ["-"] else files) fun p => do
    match ← source p with
    | .error f => fail tool (p ++ ": " ++ f.reason)
    | .ok data =>
      step p data
      return 0

def cat (arguments : List String) : Act Nat :=
  onSources "cat" (flags arguments).2 fun _ data => emit 1 data

def goal (t : Tree) (file target : String) : String :=
  if t.hasDirectory ⟨target⟩ then ((⟨target⟩ : Path) / baseName file).text else target

def copyFile (content : Content) (executable : Bool) (target : Path) : Disk Unit := do
  let fresh := !(← get).has target
  let l ← Disk.createFile target
  modify fun t =>
    match t.get? l with
    | some (.file _ old) => t.put l (.file content (if fresh then executable else old))
    | _ => t

def copyDirectory (origin : Location) (target : Path) : Disk Unit := do
  Disk.ensureDirectory target
  let (l, _) ← Disk.inspect (·.find target)
  modify fun t =>
    (t.entries.filter fun (m, _) => origin.isPrefixOf m && m != origin).foldl
      (fun t (m, e) => t.put (l ++ m.drop origin.length) e) t

def copyOne (recursive : Bool) (target file : String) : Act Nat := do
  match ← attempt (Disk.inspect (·.find ⟨file⟩)) with
  | .error f => fail "cp" ("cannot stat " ++ quoted file ++ ": " ++ f.reason)
  | .ok (l, .directory) =>
    if !recursive then fail "cp" ("-r not specified; omitting directory " ++ quoted file)
    else
      let target := goal (← get).tree file target
      match ← attempt (copyDirectory l ⟨target⟩) with
      | .ok _ => return 0
      | .error f => fail "cp" ("cannot create directory " ++ quoted target ++ ": " ++ f.reason)
  | .ok (l, .file content executable) =>
    let target := goal (← get).tree file target
    match (← get).tree.find ⟨target⟩ with
    | .ok (m, _) =>
      if l = m then
        return ← fail "cp" (quoted file ++ " and " ++ quoted target ++ " are the same file")
    | .error _ => pure ()
    match ← attempt (copyFile content executable ⟨target⟩) with
    | .ok _ => return 0
    | .error f => fail "cp" ("cannot create regular file " ++ quoted target ++ ": " ++ f.reason)

def sourcesAndTarget (tool : String) (arguments : List String) (step : String → String → Act Nat) :
    Act Nat := do
  match arguments.reverse with
  | [] => misuse tool "missing file operand"
  | [file] => misuse tool ("missing destination file operand after " ++ quoted file)
  | target :: files =>
    if files.length > 1 && !(← get).tree.hasDirectory ⟨target⟩ then
      fail tool ("target " ++ quoted target ++ ": " ++ Fault.notDirectory.reason)
    else each files.reverse (step target)

def cp (arguments : List String) : Act Nat :=
  let (fs, files) := flags arguments
  sourcesAndTarget "cp" files (copyOne (fs.any ['r', 'R', 'a'].contains))

def relocate (origin target : Location) (t : Tree) : Tree :=
  let moved := t.entries.filterMap fun (m, e) =>
    if origin.isPrefixOf m then some (target ++ m.drop origin.length, e) else none
  let t := (t.prune target).prune origin
  { t with entries := moved ++ t.entries }

def moveOne (target file : String) : Act Nat := do
  match ← attempt (Disk.inspect (·.find ⟨file⟩)) with
  | .error f => fail "mv" ("cannot stat " ++ quoted file ++ ": " ++ f.reason)
  | .ok (l, e) =>
    let target := goal (← get).tree file target
    match (← get).tree.spot ⟨target⟩ with
    | .ok (.named parent name _) =>
      let m := parent ++ [name]
      if l = m then fail "mv" (quoted file ++ " and " ++ quoted target ++ " are the same file")
      else
        match (← get).tree.get? m, e with
        | some (.file ..), .directory =>
          fail "mv" ("cannot overwrite non-directory " ++ quoted target ++ " with directory " ++
            quoted file)
        | _, _ =>
          modify fun s => { s with tree := relocate l m s.tree }
          return 0
    | .ok (.directory _) => return 0
    | .error f =>
      fail "mv" ("cannot move " ++ quoted file ++ " to " ++ quoted target ++ ": " ++ f.reason)

def mv (arguments : List String) : Act Nat :=
  sourcesAndTarget "mv" (flags arguments).2 moveOne

def rm (arguments : List String) : Act Nat := do
  let (fs, files) := flags arguments
  let recursive := fs.any ['r', 'R'].contains
  let force := fs.contains 'f'
  if files.isEmpty && !force then return ← misuse "rm" "missing operand"
  each files fun file => do
    let refuse (f : Fault) : Act Nat :=
      fail "rm" ("cannot remove " ++ quoted file ++ ": " ++ f.reason)
    match ← attempt (if recursive then Disk.remove ⟨file⟩ else Disk.removeFile ⟨file⟩) with
    | .ok _ => return 0
    | .error .missing => if force then return 0 else refuse .missing
    | .error f => refuse f

def mkdir (arguments : List String) : Act Nat := do
  let (fs, names) := flags arguments
  if names.isEmpty then return ← misuse "mkdir" "missing operand"
  each names fun name => do
    let make := if fs.contains 'p' then Disk.makeDirectories ⟨name⟩ else Disk.makeDirectory ⟨name⟩
    match ← attempt make with
    | .ok _ => return 0
    | .error f => fail "mkdir" ("cannot create directory " ++ quoted name ++ ": " ++ f.reason)

def names (t : Tree) (l : Location) : List String :=
  let below := t.entries.filterMap fun (m, _) =>
    if m.dropLast = l then m.getLast? else none
  below.mergeSort fun a b => !decide (b < a)

def rmdir (arguments : List String) : Act Nat :=
  each (flags arguments).2 fun name => do
    let act : Disk Unit := do
      match ← Disk.inspect (·.find ⟨name⟩) with
      | (_, .file ..) => Disk.refuse .notDirectory
      | (l, .directory) =>
        if (names (← get) l).isEmpty then modify (·.drop l) else Disk.refuse .notEmpty
    match ← attempt act with
    | .ok _ => return 0
    | .error f => fail "rmdir" ("failed to remove " ++ quoted name ++ ": " ++ f.reason)

def touch (arguments : List String) : Act Nat :=
  each (flags arguments).2 fun name => do
    if (← get).tree.has ⟨name⟩ then return 0
    match ← attempt (Disk.writeFile ⟨name⟩ .empty) with
    | .ok _ => return 0
    | .error f => fail "touch" ("cannot touch " ++ quoted name ++ ": " ++ f.reason)

def ls (arguments : List String) : Act Nat := do
  let (fs, paths) := flags arguments
  let paths := if paths.isEmpty then ["."] else paths
  let shown (ns : List String) : List String :=
    if fs.contains 'a' then "." :: ".." :: ns
    else if fs.contains 'A' then ns
    else ns.filter fun n => !n.startsWith "."
  let statuses ← paths.mapM fun p => do
    match ← attempt (Disk.inspect (·.find ⟨p⟩)) with
    | .error f =>
      complain ("ls: cannot access " ++ quoted p ++ ": " ++ f.reason)
      return 2
    | .ok (_, .file ..) =>
      printLine p
      return 0
    | .ok (l, .directory) =>
      if fs.contains 'd' then printLine p
      else
        if paths.length > 1 then printLine (p ++ ":")
        (shown (names (← get).tree l)).forM printLine
      return 0
  return statuses.foldl max 0

def duration? (s : String) : Option Nat :=
  let cs := s.toList
  let (unit, cs) := match cs.getLast? with
    | some 's' => (1, cs.dropLast)
    | some 'm' => (60, cs.dropLast)
    | some 'h' => (3600, cs.dropLast)
    | some 'd' => (86400, cs.dropLast)
    | _ => (1, cs)
  let whole := cs.takeWhile (· != '.')
  let places := ((cs.dropWhile (· != '.')).drop 1)
  if (whole ++ places).isEmpty || (whole ++ places).any (!·.isDigit) then none
  else
    let value (ds : List Char) : Nat := ds.foldl (fun n c => 10 * n + (c.toNat - 48)) 0
    some (unit * (1000 * value whole + value ((places ++ ['0', '0', '0']).take 3)))

def sleep (arguments : List String) : Act Nat := do
  if arguments.isEmpty then return ← misuse "sleep" "missing operand"
  match arguments.find? fun a => (duration? a).isNone with
  | some a => misuse "sleep" ("invalid time interval " ++ quoted a)
  | none =>
    pause ((arguments.filterMap duration?).foldl (· + ·) 0)
    return 0

structure Amount where
  count : Nat := 10
  bytes : Bool := false
  fromFront : Bool := false

def Amount.read (bytes : Bool) (cs : List Char) : Amount :=
  match cs with
  | '+' :: ds => ⟨((String.ofList ds).toNat?).getD 0, bytes, true⟩
  | cs => ⟨((String.ofList cs).toNat?).getD 0, bytes, false⟩

def amount : List String → Amount × List String
  | "-n" :: n :: rest => (.read false n.toList, rest)
  | "-c" :: n :: rest => (.read true n.toList, rest)
  | a :: rest =>
    match a.toList with
    | '-' :: 'n' :: ds => (.read false ds, rest)
    | '-' :: 'c' :: ds => (.read true ds, rest)
    | '-' :: d :: ds => if d.isDigit then (.read false (d :: ds), rest) else (Amount.mk 10 false false, a :: rest)
    | _ => (Amount.mk 10 false false, a :: rest)
  | [] => (Amount.mk 10 false false, [])

def linesOf (data : ByteArray) : List ByteArray :=
  let (lines, current) := data.toList.foldl
    (fun (lines, current) b =>
      if b == 10 then ((b :: current).reverse :: lines, []) else (lines, b :: current))
    (([], []) : List (List UInt8) × List UInt8)
  let lines := if current.isEmpty then lines else current.reverse :: lines
  lines.reverse.map fun bs => ⟨bs.toArray⟩

def concat (parts : List ByteArray) : ByteArray := parts.foldl (· ++ ·) .empty

def head (arguments : List String) : Act Nat :=
  let (n, files) := amount arguments
  onSources "head" files fun _ data =>
    emit 1 (if n.bytes then data.extract 0 n.count else concat ((linesOf data).take n.count))

def tail (arguments : List String) : Act Nat :=
  let (n, files) := amount arguments
  onSources "tail" files fun _ data =>
    let start (size : Nat) : Nat := if n.fromFront then n.count - 1 else size - n.count
    let ls := linesOf data
    emit 1 (if n.bytes then data.extract (start data.size) data.size
      else concat (ls.drop (start ls.length)))

def wordCount (data : ByteArray) : Nat :=
  let blank (b : UInt8) : Bool := b == 32 || (9 ≤ b && b ≤ 13)
  (data.toList.foldl
    (fun (n, inside) b => if blank b then (n, false) else (if inside then n else n + 1, true))
    (0, false)).1

def wc (arguments : List String) : Act Nat :=
  let (fs, files) := flags arguments
  let kinds := ['l', 'w', 'c'].filter fun c => fs.isEmpty || fs.contains c
  onSources "wc" files fun p data => do
    let counts := kinds.map fun c => match c with
      | 'l' => toString (data.toList.count 10)
      | 'w' => toString (wordCount data)
      | _ => toString data.size
    let counts := match counts, files with
      | [n], _ => n
      | ns, _ => String.intercalate " " (ns.map fun n =>
          String.ofList (List.replicate (toString data.size).length ' ' |>.drop n.length) ++ n)
    printLine (if files.isEmpty then counts else counts ++ " " ++ p)

def baseNameOf : List String → Act Nat
  | [] => misuse "basename" "missing operand"
  | s :: rest => do
    let name := baseName s
    let ending := rest.headD ""
    printLine (if name.endsWith ending && name != ending then
      String.ofList (name.toList.take (name.length - ending.length)) else name)
    return 0

def directoryNameOf (arguments : List String) : Act Nat := do
  arguments.forM fun s => printLine (directoryName s)
  return 0

def seq (arguments : List String) : Act Nat := do
  let numbers := arguments.filterMap String.toInt?
  let (first, step, last) := match numbers with
    | [last] => (1, 1, last)
    | [first, last] => (first, 1, last)
    | first :: step :: last :: _ => (first, step, last)
    | [] => (1, 1, 0)
  if step > 0 then
    (List.range ((last - first) / step + 1).toNat).forM fun i =>
      printLine (toString (first + step * Int.ofNat i))
  return 0

def echo (arguments : List String) : Act Nat := do
  match arguments with
  | "-n" :: rest => print (String.intercalate " " rest)
  | arguments => printLine (String.intercalate " " arguments)
  return 0

def printf : List String → Act Nat
  | [] => misuse "printf" "missing operand"
  | form :: arguments => do
    let printed := Format.apply form arguments
    emit 1 printed.bytes
    (printed.complaints ++ printed.mistake.toList).forM fun text => complain ("printf: " ++ text)
    return if printed.complaints.isEmpty && printed.mistake.isNone then 0 else 1

def directoryText (t : Tree) : String := "/" ++ String.intercalate "/" t.workdir

def pwd (_ : List String) : Act Nat := do
  printLine (directoryText (← get).tree)
  return 0

def printenv (arguments : List String) : Act Nat := do
  let env := (← get).environment
  if arguments.isEmpty then
    env.forM fun (k, v) => printLine (k ++ "=" ++ v)
    return 0
  else
    each arguments fun k => do
      match env.lookup k with
      | some v =>
        printLine v
        return 0
      | none => return 1

def integer (s : String) : Except String Int :=
  match Arithmetic.integer? s.toList with
  | some i => .ok i
  | none => .error ("Illegal number: " ++ s)

def comparisons : List (String × (Int → Int → Bool)) :=
  [("-eq", (· == ·)), ("-ne", (· != ·)), ("-lt", (· < ·)), ("-le", (· ≤ ·)), ("-gt", (· > ·)),
    ("-ge", (· ≥ ·))]

def compare? (a operator b : String) : Option (Except String Bool) :=
  match operator with
  | "=" | "==" => some (.ok (a == b))
  | "!=" => some (.ok (a != b))
  | "<" => some (.ok (decide (a < b)))
  | ">" => some (.ok (decide (b < a)))
  | _ =>
    (comparisons.lookup operator).map fun p => do
      let i ← integer a
      return p i (← integer b)

def examine? (t : Tree) (operator a : String) : Option Bool :=
  let p : Path := ⟨a⟩
  match operator with
  | "-n" => some (a != "")
  | "-z" => some (a == "")
  | "-e" | "-r" | "-w" => some (t.has p)
  | "-f" => some (t.hasFile p)
  | "-d" => some (t.hasDirectory p)
  | "-L" | "-h" | "-p" | "-S" | "-t" => some false
  | "-s" => some (match t.find p with
    | .ok (_, .file content _) => content.size? != some 0
    | .ok (_, .directory) => true
    | .error _ => false)
  | "-x" => some (match t.find p with
    | .ok (_, .file _ executable) => executable
    | .ok (_, .directory) => true
    | .error _ => false)
  | _ => none

def holds (t : Tree) : Nat → List String → Except String Bool
  | 0, _ => .error "argument expected"
  | _, [] => .ok false
  | _, [a] => .ok (a != "")
  | fuel + 1, [a, b] => do
    if a = "!" then return !(← holds t fuel [b])
    match examine? t a b with
    | some v => return v
    | none => throw (a ++ ": unexpected operator")
  | fuel + 1, a :: b :: c :: rest => do
    let arguments := a :: b :: c :: rest
    match rest, compare? a b c with
    | [], some v => v
    | _, _ =>
      if arguments.contains "-o" then
        let v ← holds t fuel (arguments.takeWhile (· != "-o"))
        let w ← holds t fuel ((arguments.dropWhile (· != "-o")).drop 1)
        return v || w
      else if arguments.contains "-a" then
        let v ← holds t fuel (arguments.takeWhile (· != "-a"))
        let w ← holds t fuel ((arguments.dropWhile (· != "-a")).drop 1)
        return v && w
      else if a = "!" then return !(← holds t fuel (b :: c :: rest))
      else throw (b ++ ": unexpected operator")

def judge (name : String) (arguments : List String) : Act Nat := do
  match holds (← get).tree (arguments.length + 1) arguments with
  | .ok true => return 0
  | .ok false => return 1
  | .error text =>
    report (name ++ ": " ++ text)
    return 2

def test (arguments : List String) : Act Nat := judge "test" arguments

def bracket (arguments : List String) : Act Nat := do
  if arguments.getLast? = some "]" then judge "[" arguments.dropLast
  else
    report "[: missing ]"
    return 2

def chmod : List String → Act Nat
  | [] => misuse "chmod" "missing operand"
  | mode :: files =>
    let on := if mode.toList.all Char.isDigit
      then mode.toList.any fun c => (c.toNat - 48) % 2 == 1
      else mode.toList.contains 'x' && !mode.toList.contains '-'
    each files fun file => do
      let act : Disk Unit := do
        match ← Disk.inspect (·.find ⟨file⟩) with
        | (l, .file content _) => modify (·.put l (.file content on))
        | (_, .directory) => return
      match ← attempt act with
      | .ok _ => return 0
      | .error f => fail "chmod" ("cannot access " ++ quoted file ++ ": " ++ f.reason)

def table : List (String × (List String → Act Nat)) :=
  [("true", fun _ => return 0), ("false", fun _ => return 1), ("cat", cat), ("cp", cp), ("mv", mv),
    ("rm", rm), ("mkdir", mkdir), ("rmdir", rmdir), ("touch", touch), ("chmod", chmod), ("ls", ls), ("sleep", sleep),
    ("head", head), ("tail", tail), ("wc", wc), ("basename", baseNameOf),
    ("dirname", directoryNameOf), ("seq", seq), ("echo", echo), ("printf", printf), ("pwd", pwd),
    ("printenv", printenv), ("test", test), ("[", bracket)]

end PuzzlePrep.Shell.Tool
