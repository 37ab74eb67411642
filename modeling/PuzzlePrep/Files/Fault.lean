namespace PuzzlePrep

inductive Fault
  | missing
  | notExecutableFormat
  | denied
  | occupied
  | exists
  | notDirectory
  | isDirectory
  | invalid
  | nameTooLong
  | notEmpty
  | nulInPath
  | notText
  | other (text : String)
  deriving DecidableEq, Repr, Inhabited

namespace Fault

def reason : Fault → String
  | .missing => "No such file or directory"
  | .notExecutableFormat => "Exec format error"
  | .denied => "Permission denied"
  | .occupied => "Device or resource busy"
  | .exists => "File exists"
  | .notDirectory => "Not a directory"
  | .isDirectory => "Is a directory"
  | .invalid => "Invalid argument"
  | .nameTooLong => "File name too long"
  | .notEmpty => "Directory not empty"
  | .nulInPath => "file name contained an unexpected NUL byte"
  | .notText => "stream did not contain valid UTF-8"
  | .other text => text

def number? : Fault → Option Nat
  | .missing => some 2
  | .notExecutableFormat => some 8
  | .denied => some 13
  | .occupied => some 16
  | .exists => some 17
  | .notDirectory => some 20
  | .isDirectory => some 21
  | .invalid => some 22
  | .nameTooLong => some 36
  | .notEmpty => some 39
  | .nulInPath | .notText | .other _ => none

def message (f : Fault) : String :=
  match f.number? with
  | some n => f.reason ++ " (os error " ++ toString n ++ ")"
  | none => f.reason

end Fault

end PuzzlePrep
