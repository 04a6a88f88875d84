import VerifiedBuild.Text.Integer
/-!
# How processes end

A process exits with a code or is ended by a signal.
-/

namespace VerifiedBuild

inductive Ending where
  | exited (code : Nat)
  | signaled (signal : Nat)
deriving DecidableEq, Repr, Inhabited

/-! ## Signals -/

/-- The signals of low numbers, from 1 on: the short name used to send one and the text that
describes it. -/
def signalTable : List (String × String) :=
  [("HUP", "Hangup"), ("INT", "Interrupt"), ("QUIT", "Quit"), ("ILL", "Illegal instruction"),
    ("TRAP", "Trace/breakpoint trap"), ("ABRT", "Aborted"), ("BUS", "Bus error"),
    ("FPE", "Floating point exception"), ("KILL", "Killed"), ("USR1", "User defined signal 1"),
    ("SEGV", "Segmentation fault"), ("USR2", "User defined signal 2"), ("PIPE", "Broken pipe"),
    ("ALRM", "Alarm clock"), ("TERM", "Terminated"), ("16", "Stack fault"),
    ("CHLD", "Child exited"), ("CONT", "Continued"), ("STOP", "Stopped (signal)"),
    ("TSTP", "Stopped"), ("TTIN", "Stopped (tty input)"), ("TTOU", "Stopped (tty output)"),
    ("URG", "Urgent I/O condition"), ("XCPU", "CPU time limit exceeded"),
    ("XFSZ", "File size limit exceeded"), ("VTALRM", "Virtual timer expired"),
    ("PROF", "Profiling timer expired"), ("WINCH", "Window changed"), ("IO", "I/O possible"),
    ("PWR", "Power failure"), ("SYS", "Bad system call")]

def firstRealtime : Nat := 34

def lastSignal : Nat := 64

/-- The last signal that is named by its distance from the first one. -/
def middleRealtime : Nat := 49

def signalDescription (signal : Nat) : String :=
  if signal = 0 then "Unknown signal 0"
  else match signalTable[signal - 1]? with
    | some (_, description) => description
    | none =>
        if firstRealtime ≤ signal ∧ signal ≤ lastSignal then
          "Real-time signal " ++ toString (signal - firstRealtime)
        else "Unknown signal " ++ toString signal

/-- The short name of a signal; 0 stands for the end of a script. -/
def signalName (signal : Nat) : String :=
  if signal = 0 then "EXIT"
  else match signalTable[signal - 1]? with
    | some (name, _) => name
    | none =>
        if signal < firstRealtime then toString signal
        else if signal = firstRealtime then "RTMIN"
        else if signal ≤ middleRealtime then "RTMIN+" ++ toString (signal - firstRealtime)
        else if signal < lastSignal then "RTMAX-" ++ toString (lastSignal - signal)
        else "RTMAX"

/-- The signal with the given number or, from `least` on, short name; letters of either case will
do. -/
def signal? (least : Nat) (name : String) : Option Nat :=
  match Text.natural? name.toList with
  | some number => if number ≤ lastSignal then some number else none
  | none => (List.range (lastSignal + 1)).find? fun number =>
      least ≤ number && signalName number = name.toUpper

/-- Whether a process goes on when it gets a signal that it does nothing about. -/
def isHarmless (signal : Nat) : Bool :=
  signal = 0 || signalName signal ∈ ["CHLD", "CONT", "URG", "WINCH"]

end VerifiedBuild
