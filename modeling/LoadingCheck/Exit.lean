/-!
# How programs end

A program ends by itself with an exit code, or a signal ends it.

## Main definitions

* `LoadingCheck.Exit` — the ways to end; `Exit.succeeded`, `Exit.display`.
-/

namespace LoadingCheck

/-- How a program ends. -/
inductive Exit where
  | code (n : Nat)
  /-- An end by a signal, which may leave an image of the memory behind. -/
  | signal (number : Nat) (dumped : Bool)
  deriving DecidableEq, Repr

namespace Exit

/-- A number stands for the end with this exit code. -/
instance : Coe Nat Exit := ⟨.code⟩

/-- Whether the program ended well. -/
def succeeded (e : Exit) : Bool :=
  e == .code 0

/-- The names of the signals, the first one being that of signal 1. -/
def signalNames : List String :=
  ["SIGHUP", "SIGINT", "SIGQUIT", "SIGILL", "SIGTRAP", "SIGABRT", "SIGBUS", "SIGFPE", "SIGKILL", "SIGUSR1",
    "SIGSEGV", "SIGUSR2", "SIGPIPE", "SIGALRM", "SIGTERM", "SIGSTKFLT", "SIGCHLD", "SIGCONT", "SIGSTOP",
    "SIGTSTP", "SIGTTIN", "SIGTTOU", "SIGURG", "SIGXCPU", "SIGXFSZ", "SIGVTALRM", "SIGPROF", "SIGWINCH",
    "SIGIO", "SIGPWR", "SIGSYS"]

/-- The name of a signal, if it has one. -/
def signalName? : Nat → Option String
  | 0 => none
  | n + 1 => signalNames[n]?

/-- The end in words. -/
def display : Exit → String
  | .code n => s!"exit status: {n}"
  | .signal number dumped =>
    s!"signal: {number}" ++ ((signalName? number).map fun name => " (" ++ name ++ ")").getD "" ++
      if dumped then " (core dumped)" else ""

end Exit

end LoadingCheck
