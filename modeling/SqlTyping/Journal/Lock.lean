import SqlTyping.Diagnostic

/-!
# Locks

A lock guards a state that several users change, such as the output of a log.
-/

namespace SqlTyping

/-- A lock for a state that several users change. -/
inductive Lock where
  | free
  | held
  deriving DecidableEq

namespace Lock

/-- Takes a free lock. -/
def acquire? : Lock → Option Lock
  | free => some held
  | held => none

/-- Gives back a lock that is held. -/
def release? : Lock → Option Lock
  | free => none
  | held => some free

/-- Checks that the lock is held. -/
def assertHeld : Lock → Except Crash Unit
  | free => .error (.misuse "mutex is not held")
  | held => .ok ()

end Lock

end SqlTyping
