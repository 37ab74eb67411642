namespace PuzzlePrep.Signal

def table : List (Nat × String × String) :=
  [(1, "HUP", "Hangup"), (2, "INT", "Interrupt"), (3, "QUIT", "Quit"),
    (4, "ILL", "Illegal instruction"), (5, "TRAP", "Trace/breakpoint trap"), (6, "ABRT", "Aborted"),
    (7, "BUS", "Bus error"), (8, "FPE", "Floating point exception"), (9, "KILL", "Killed"),
    (10, "USR1", "User defined signal 1"), (11, "SEGV", "Segmentation fault"),
    (12, "USR2", "User defined signal 2"), (13, "PIPE", "Broken pipe"), (14, "ALRM", "Alarm clock"),
    (15, "TERM", "Terminated"), (16, "STKFLT", "Stack fault"), (17, "CHLD", "Child exited"),
    (18, "CONT", "Continued"), (19, "STOP", "Stopped (signal)"), (20, "TSTP", "Stopped"),
    (21, "TTIN", "Stopped (tty input)"), (22, "TTOU", "Stopped (tty output)"),
    (23, "URG", "Urgent I/O condition"), (24, "XCPU", "CPU time limit exceeded"),
    (25, "XFSZ", "File size limit exceeded"), (26, "VTALRM", "Virtual timer expired"),
    (27, "PROF", "Profiling timer expired"), (28, "WINCH", "Window changed"),
    (29, "IO", "I/O possible"), (30, "PWR", "Power failure"), (31, "SYS", "Bad system call")]

def name? (n : Nat) : Option String := (table.lookup n).map (·.1)

def firstRealTime : Nat := 34

def last : Nat := 64

def description (n : Nat) : String :=
  match table.lookup n with
  | some (_, text) => text
  | none =>
    if firstRealTime ≤ n && n ≤ last then "Real-time signal " ++ toString (n - firstRealTime)
    else "Unknown signal " ++ toString n

def isHarmless (n : Nat) : Bool := [17, 18, 23, 28].contains n

def isHalting (n : Nat) : Bool := 19 ≤ n && n ≤ 22

def isCatchable (n : Nat) : Bool := n != 9 && n != 19

end PuzzlePrep.Signal
