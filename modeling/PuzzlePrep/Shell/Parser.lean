import PuzzlePrep.Shell.Token

namespace PuzzlePrep.Shell

namespace Word

def assignment? : Word → Option (String × Word)
  | .text false cs :: rest =>
    let name := cs.takeWhile (· != '=')
    match cs.dropWhile (· != '=') with
    | _ :: value =>
      if isName name then
        some (String.ofList name, if value.isEmpty then rest else .text false value :: rest)
      else none
    | [] => none
  | _ => none

end Word

inductive Reason
  | unexpected
  | expecting (s : String)
  | badName (what : String)

structure Obstacle where
  rest : List Located
  reason : Reason

abbrev Parse := StateT (List Located) (Except Obstacle)

namespace Parse

def refuse {α : Type} (reason : Reason) : Parse α := do throw ⟨← get, reason⟩

def peek : Parse (Option String) := do
  match (← get).head?.map Located.token with
  | some (.operator s) => return some s
  | some (.word w) => return w.literal?
  | _ => return none

def skip : Parse Unit := modify List.tail

def accept (s : String) : Parse Bool := do
  if (← peek) = some s then
    skip
    return true
  else return false

def expect (s : String) : Parse Unit := do
  if ← accept s then return else refuse (.expecting ("\"" ++ s ++ "\""))

def atLineEnd : Parse Bool := do
  match (← get).head?.map Located.token with
  | some .newline => return true
  | _ => return false

def newlines : Parse Unit :=
  modify fun ts => ts.dropWhile fun t => match t.token with
    | .newline => true
    | _ => false

def word? : Parse (Option Word) := do
  match ← get with
  | ⟨_, .word w⟩ :: rest =>
    set rest
    return some w
  | _ => return none

def word (reason : Reason) : Parse Word := do
  match ← word? with
  | some w => return w
  | none => refuse reason

def words : Nat → Parse (List Word)
  | 0 => return []
  | fuel + 1 => do
    match ← word? with
    | some w => return w :: (← words fuel)
    | none => return []

def redirection? : Parse (Option Redirection) := do
  match ← get with
  | ⟨_, .document channel body⟩ :: rest =>
    set rest
    return some ⟨channel, .document, body⟩
  | ⟨_, .redirect channel direction⟩ :: rest =>
    set rest
    return some ⟨channel, direction, ← word .unexpected⟩
  | _ => return none

def redirections : Nat → Parse (List Redirection)
  | 0 => return []
  | fuel + 1 => do
    match ← redirection? with
    | some r => return r :: (← redirections fuel)
    | none => return []

def simple (fuel : Nat) (assignments : List (String × Word)) (ws : List Word)
    (rs : List Redirection) : Parse (List (String × Word) × List Word × List Redirection) :=
  match fuel with
  | 0 => refuse .unexpected
  | fuel + 1 => do
    match ← redirection? with
    | some r => simple fuel assignments ws (rs ++ [r])
    | none =>
      match ← word? with
      | some w =>
        match ws, w.assignment? with
        | [], some a => simple fuel (assignments ++ [a]) ws rs
        | ws, _ => simple fuel assignments (ws ++ [w]) rs
      | none => return (assignments, ws, rs)

def closers : List String :=
  ["then", "else", "elif", "fi", "do", "done", "esac", "\x7d", ")", ";;", ";", "&", "&&", "||", "|"]

def reserved : List String :=
  ["if", "then", "else", "elif", "fi", "while", "until", "for", "do", "done", "case", "esac", "!",
    "\x7b", "\x7d"]

def special : List String :=
  [".", ":", "break", "continue", "eval", "exec", "exit", "export", "readonly", "return", "set",
    "shift", "times", "trap", "unset"]

def redirect (c : Command) (rs : List Redirection) : Command :=
  if rs.isEmpty then c else .redirected c rs

mutual

def block (fuel : Nat) : Parse Command :=
  match fuel with
  | 0 => refuse .unexpected
  | fuel + 1 => do
    newlines
    if (← get).isEmpty then return .pass
    let first ← conjunction fuel
    more fuel first

def more (fuel : Nat) (first : Command) : Parse Command :=
  match fuel with
  | 0 => refuse .unexpected
  | fuel + 1 => do
    let separated ← accept ";"
    let aside ← if separated then pure false else accept "&"
    let first := if aside then .background first else first
    let ended ← atLineEnd
    newlines
    if !(separated || aside || ended) then return first
    match (← get).head?, (← peek).any closers.contains with
    | none, _ => return first
    | _, true => return first
    | _, false => return .sequence first (← block fuel)

def conjunction (fuel : Nat) : Parse Command :=
  match fuel with
  | 0 => refuse .unexpected
  | fuel + 1 => do
    let first ← pipeline fuel
    conjoined fuel first

def conjoined (fuel : Nat) (first : Command) : Parse Command :=
  match fuel with
  | 0 => refuse .unexpected
  | fuel + 1 => do
    if ← accept "&&" then
      newlines
      let second ← pipeline fuel
      conjoined fuel (.both first second)
    else if ← accept "||" then
      newlines
      let second ← pipeline fuel
      conjoined fuel (.either first second)
    else return first

def pipeline (fuel : Nat) : Parse Command :=
  match fuel with
  | 0 => refuse .unexpected
  | fuel + 1 => do
    if ← accept "!" then return .negated (← piped fuel) else piped fuel

def piped (fuel : Nat) : Parse Command :=
  match fuel with
  | 0 => refuse .unexpected
  | fuel + 1 => do
    if (← peek) = some "!" then refuse .unexpected
    let first ← command fuel
    if ← accept "|" then
      newlines
      return .pipe first (← piped fuel)
    else return first

def command (fuel : Nat) : Parse Command :=
  match fuel with
  | 0 => refuse .unexpected
  | fuel + 1 => do
    let c ← match ← peek with
      | some "(" => do
        skip
        let body ← block fuel
        expect ")"
        pure (some (.subshell body))
      | some "\x7b" => do
        skip
        let body ← block fuel
        expect "\x7d"
        pure (some body)
      | some "if" => do
        skip
        some <$> branches fuel
      | some "while" => do
        skip
        let condition ← block fuel
        some <$> repeated fuel (.loop false condition)
      | some "until" => do
        skip
        let condition ← block fuel
        some <$> repeated fuel (.loop true condition)
      | some "for" => do
        skip
        let bad := Reason.badName "Bad for loop variable"
        let some name := (← word bad).literal? | refuse bad
        if !isName name.toList then refuse bad
        newlines
        let given ← accept "in"
        let items ← if given then words fuel else pure [[.parameter true "@" .plain []]]
        let ended ← if ← accept ";" then pure true else atLineEnd
        if given && !ended then refuse .unexpected
        newlines
        some <$> repeated fuel (.each name items)
      | some "case" => do
        skip
        let subject ← word (.expecting "word")
        newlines
        expect "in"
        some <$> (.select subject <$> selections fuel)
      | some s => if closers.contains s then refuse .unexpected else pure none
      | none => pure none
    match c with
    | some c => return redirect c (← redirections fuel)
    | none =>
      match ← get with
      | ⟨_, .word w⟩ :: ⟨_, .operator "("⟩ :: rest =>
        if w.assignment?.isSome then
          skip
          refuse .unexpected
        set rest
        expect ")"
        let bad := Reason.badName "Bad function name"
        let some name := w.literal? | refuse bad
        if !isName name.toList || special.contains name then refuse bad
        newlines
        return .define name (← command fuel)
      | ts =>
        let line := (ts.head?.map Located.line).getD 0
        let (assignments, ws, rs) ← simple fuel [] [] []
        if assignments.isEmpty && ws.isEmpty && rs.isEmpty then refuse .unexpected
        else return redirect (.simple line assignments ws) rs

def repeated (fuel : Nat) (loop : Command → Command) : Parse Command :=
  match fuel with
  | 0 => refuse .unexpected
  | fuel + 1 => do
    expect "do"
    let body ← block fuel
    expect "done"
    return loop body

def branches (fuel : Nat) : Parse Command :=
  match fuel with
  | 0 => refuse .unexpected
  | fuel + 1 => do
    let condition ← block fuel
    expect "then"
    let yes ← block fuel
    if ← accept "elif" then return .choice condition yes (← branches fuel)
    else if ← accept "else" then
      let no ← block fuel
      expect "fi"
      return .choice condition yes no
    else
      expect "fi"
      return .choice condition yes .pass

def patterns (fuel : Nat) : Parse (List Word) :=
  match fuel with
  | 0 => refuse .unexpected
  | fuel + 1 => do
    match ← word? with
    | some w => if ← accept "|" then return w :: (← patterns fuel) else return [w]
    | none =>
      skip
      refuse (.expecting "\")\"")

def selections (fuel : Nat) : Parse (List (List Word × Command)) :=
  match fuel with
  | 0 => refuse .unexpected
  | fuel + 1 => do
    newlines
    if ← accept "esac" then return []
    let _ ← accept "("
    let ws ← patterns fuel
    expect ")"
    newlines
    let empty := [some ";;", some "esac"].contains (← peek)
    let body ← if empty then pure .pass else block fuel
    let first := (ws, body)
    if ← accept ";;" then return first :: (← selections fuel)
    else
      newlines
      if ← accept "esac" then return [first] else refuse (.expecting "\";;\"")

end

end Parse

def Token.title : Token → String
  | .newline => "newline"
  | .operator s => "\"" ++ s ++ "\""
  | .word w =>
    match w.literal? with
    | some s => if Parse.reserved.contains s then "\"" ++ s ++ "\"" else "word"
    | none => "word"
  | .redirect .. | .document .. => "redirection"

def Obstacle.mistake (lines : Nat) (o : Obstacle) : Mistake :=
  let (line, title) := match o.rest with
    | [] => (lines, "end of file")
    | t :: _ => (t.line, t.token.title)
  let text := match o.reason with
    | .unexpected => title ++ " unexpected"
    | .expecting s => title ++ " unexpected (expecting " ++ s ++ ")"
    | .badName what => what
  ⟨line, "Syntax error: " ++ text⟩

/-- The commands of a script as far as they can be read, and what stands in the way. Of a line that
cannot be read nothing is run; `pending` holds what has been read of the current one. -/
def readScript (fuel lines : Nat) (mistake : Option Mistake) (pending : List Command)
    (ts : List Located) : List Command × Option Mistake :=
  match fuel with
  | 0 => (pending, mistake)
  | fuel + 1 =>
    let continued (pending : List Command) (rest : List Located) :
        List Command × Option Mistake := readScript fuel lines mistake pending rest
    match ts with
    | [] => if mistake.isNone then (pending, none) else ([], mistake)
    | ⟨_, .newline⟩ :: rest =>
      let (cs, mistake) := continued [] rest
      (pending ++ cs, mistake)
    | ts =>
      match (Parse.conjunction (8 * ts.length + 8)).run ts with
      | .error o =>
        let own := o.mistake lines
        ([], some (if o.rest.isEmpty then mistake.getD own else own))
      | .ok (c, rest) =>
        match rest with
        | ⟨_, .operator ";"⟩ :: rest => continued (pending ++ [c]) rest
        | ⟨_, .operator "&"⟩ :: rest => continued (pending ++ [.background c]) rest
        | [] | ⟨_, .newline⟩ :: _ => continued (pending ++ [c]) rest
        | rest => ([], some ((⟨rest, .unexpected⟩ : Obstacle).mistake lines))

def Command.ofScript (script : List Char) : List Command × Option Mistake :=
  let (ts, mistake) := Token.scan script
  readScript (2 * ts.length + 2) (lineCount script) mistake [] ts

end PuzzlePrep.Shell
