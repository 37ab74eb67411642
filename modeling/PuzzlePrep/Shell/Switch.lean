namespace PuzzlePrep.Shell

inductive Switch
  | failFast
  | noPatterns
  | ignoreEnd
  | interactive
  | jobControl
  | checkOnly
  | fromInput
  | traced
  | verbose
  | vi
  | emacs
  | keepFiles
  | exportAll
  | notify
  | strict
  | privileged
  | noLog
  | debug
  deriving DecidableEq

namespace Switch

def all : List Switch :=
  [failFast, noPatterns, ignoreEnd, interactive, jobControl, checkOnly, fromInput, traced, verbose,
    vi, emacs, keepFiles, exportAll, notify, strict, privileged, noLog, debug]

def name : Switch → String
  | failFast => "errexit"
  | noPatterns => "noglob"
  | ignoreEnd => "ignoreeof"
  | interactive => "interactive"
  | jobControl => "monitor"
  | checkOnly => "noexec"
  | fromInput => "stdin"
  | traced => "xtrace"
  | verbose => "verbose"
  | vi => "vi"
  | emacs => "emacs"
  | keepFiles => "noclobber"
  | exportAll => "allexport"
  | notify => "notify"
  | strict => "nounset"
  | privileged => "privileged"
  | noLog => "nolog"
  | debug => "debug"

def letter? : Switch → Option Char
  | failFast => some 'e'
  | noPatterns => some 'f'
  | ignoreEnd => some 'I'
  | interactive => some 'i'
  | jobControl => some 'm'
  | checkOnly => some 'n'
  | fromInput => some 's'
  | traced => some 'x'
  | verbose => some 'v'
  | vi => some 'V'
  | emacs => some 'E'
  | keepFiles => some 'C'
  | exportAll => some 'a'
  | notify => some 'b'
  | strict => some 'u'
  | privileged => some 'p'
  | noLog | debug => none

def named? (text : String) : Option Switch := all.find? fun k => k.name == text

def lettered? (c : Char) : Option Switch := all.find? fun k => k.letter? == some c

/-- An option is found by its own name. -/
theorem named?_name (k : Switch) : named? k.name = some k := by cases k <;> decide

def letters (on : List Switch) : String :=
  String.ofList ((all.reverse.filter on.contains).filterMap letter?)

end Switch

end PuzzlePrep.Shell
