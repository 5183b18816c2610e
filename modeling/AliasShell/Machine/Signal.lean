/-
Signals: their names and numbers, and what they do to a program that does not expect them.
-/
import AliasShell.Number.Integer

namespace AliasShell.Signal

/-- The names of the signals, the first of which has number 1. -/
def names : List Text :=
  ["HUP", "INT", "QUIT", "ILL", "TRAP", "ABRT", "BUS", "FPE", "KILL", "USR1", "SEGV", "USR2",
    "PIPE", "ALRM", "TERM", "STKFLT", "CHLD", "CONT", "STOP", "TSTP", "TTIN", "TTOU", "URG", "XCPU",
    "XFSZ", "VTALRM", "PROF", "WINCH", "IO", "PWR", "SYS"].map String.toList

/-- What is said of a program that a signal has ended, by the number of the signal. -/
def endings : List Text :=
  ["Hangup", "Interrupt", "Quit", "Illegal instruction", "Trace/breakpoint trap", "Aborted",
    "Bus error", "Floating point exception", "Killed", "User defined signal 1",
    "Segmentation fault", "User defined signal 2", "Broken pipe", "Alarm clock", "Terminated",
    "Stack fault"].map String.toList

/-- The number of the end of a script, which is no signal. -/
def exit : Nat := 0

/-- The name of a signal. -/
def name (n : Nat) : Text := if n = exit then "EXIT" else (names[n - 1]?).getD (Integer.digits n)

/-- The names that a list of the signals shows, the first of which has number 1.  Some have only
their number, and those behind them are counted from the first or to the last of them. -/
def listed : List Text :=
  names.set 15 "16".toList ++
    ["32".toList, "33".toList, "RTMIN".toList] ++
    (List.range 15).map (fun n => "RTMIN+".toList ++ Integer.digits (n + 1)) ++
    (List.range 14).map (fun n => "RTMAX-".toList ++ Integer.digits (14 - n)) ++ ["RTMAX".toList]

/-- The number that a text gives, by name or as digits. -/
def ofText? (t : Text) : Option Nat :=
  if !t.isEmpty && t.all Char.isDigit then
    let n := Integer.ofDigits t
    if n ≤ 64 then some n else none
  else if t = "EXIT".toList then some exit
  else (names.findIdx? (· == t)).map (· + 1)

/-- What is said of a program that a signal has ended; of some nothing is said. -/
def epitaph (n : Nat) : Text :=
  if n = 2 ∨ n = 13 then [] else (endings[n - 1]?).getD ("Unknown signal " ++ Integer.digits n)

/-- The signal ends a program that does not expect it. -/
def ends (n : Nat) : Bool := n != 0 && n != 17 && n != 18 && n != 23 && n != 28

end AliasShell.Signal
