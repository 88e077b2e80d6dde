import UiScaffold.Shell.Integer

/-!
Signals, by their numbers and names. The number zero stands for the end of a shell.
-/

set_option autoImplicit false
set_option relaxedAutoImplicit false

namespace UiScaffold.Shell

/-- What a signal does to a process that does not handle it. -/
inductive SignalEffect where
  | ends
  | nothing
deriving DecidableEq, Repr

namespace Signal

/-- The names of the signals from the number one on; a few numbers have none. -/
def names : List String :=
  ["HUP", "INT", "QUIT", "ILL", "TRAP", "ABRT", "BUS", "FPE", "KILL", "USR1", "SEGV", "USR2",
    "PIPE",
    "ALRM", "TERM", "16", "CHLD", "CONT", "STOP", "TSTP", "TTIN", "TTOU", "URG", "XCPU", "XFSZ",
    "VTALRM", "PROF", "WINCH", "IO", "PWR", "SYS", "32", "33", "RTMIN", "RTMIN+1", "RTMIN+2",
    "RTMIN+3", "RTMIN+4", "RTMIN+5", "RTMIN+6", "RTMIN+7", "RTMIN+8", "RTMIN+9", "RTMIN+10",
    "RTMIN+11", "RTMIN+12", "RTMIN+13", "RTMIN+14", "RTMIN+15", "RTMAX-14", "RTMAX-13", "RTMAX-12",
    "RTMAX-11", "RTMAX-10", "RTMAX-9", "RTMAX-8", "RTMAX-7", "RTMAX-6", "RTMAX-5", "RTMAX-4",
    "RTMAX-3", "RTMAX-2", "RTMAX-1", "RTMAX"]

/-- The signal that ends a process at once, and the one that asks it to end. -/
def kill : Nat := 9
def terminate : Nat := 15

/-- What is said of a process that a signal ended, for the signals that say more than their name. -/
def descriptions : List (Nat × String) :=
  [(1, "Hangup"), (3, "Quit"), (4, "Illegal instruction"), (5, "Trace/breakpoint trap"),
    (6, "Aborted"), (7, "Bus error"), (8, "Floating point exception"), (9, "Killed"),
    (10, "User defined signal 1"), (11, "Segmentation fault"), (12, "User defined signal 2"),
    (14, "Alarm clock"), (15, "Terminated"), (24, "CPU time limit exceeded"),
    (25, "File size limit exceeded"), (26, "Virtual timer expired"),
    (27, "Profiling timer expired"),
    (29, "I/O possible"), (30, "Power failure"), (31, "Bad system call")]

/-- What a signal does where nothing else is set. Those that only stop a process count as
nothing. -/
def effect (signal : Nat) : SignalEffect :=
  if [0, 17, 18, 19, 20, 21, 22, 23, 28].contains signal then .nothing else .ends

def name (signal : Nat) : String :=
  if signal = 0 then "EXIT" else (names[signal - 1]?).getD signal.repr

/-- The signal of a number or name; the names may be in any case. -/
def ofText? (text : String) : Option Nat :=
  if text ≠ "" ∧ text.toList.all Char.isDigit then
    match count? text with
    | some number => if number ≤ names.length then some number else none
    | none => none
  else
    let upper := String.ofList (text.toList.map Char.toUpper)
    if upper = "EXIT" then some 0
    else (names.findIdx? (· == upper)).map (· + 1)

end Signal

end UiScaffold.Shell
