import Lookahead.Log.Event

/-!
# Logs in memory

A log that keeps the latest events: when it is full, the oldest make room.
-/

namespace Lookahead

/-- The latest events, oldest first. -/
structure MemoryLog where
  events : Array LogEvent
deriving Repr

/-- Counts over the events of a log. -/
structure LogSummary where
  total : Nat
  errors : Nat
  warnings : Nat
  infos : Nat
  details : Nat
  /-- The errors that work must stop at. -/
  critical : Nat
deriving DecidableEq, Repr

namespace LogSummary

/-- There are errors. -/
def hasErrors (s : LogSummary) : Bool := s.errors > 0

/-- There are errors that work must stop at. -/
def hasCritical (s : LogSummary) : Bool := s.critical > 0

end LogSummary

namespace MemoryLog

/-- The most events a log keeps. -/
def capacity : Nat := 10000

/-- A log without events. -/
def empty : MemoryLog := ⟨#[]⟩

/-- Add an event; the oldest make room for it. -/
def log (L : MemoryLog) (e : LogEvent) : MemoryLog :=
  if L.events.size < capacity then ⟨L.events.push e⟩
  else ⟨(L.events.extract (L.events.size - capacity + 1)).push e⟩

/-- The number of events kept. -/
def size (L : MemoryLog) : Nat := L.events.size

/-- The errors. -/
def errors (L : MemoryLog) : List LogEvent := L.events.toList.filter LogEvent.isError

/-- The events with a code. -/
def withCode (L : MemoryLog) (code : String) : List LogEvent :=
  L.events.toList.filter (·.code == code)

/-- The events whose code is of a category. -/
def ofCategory (L : MemoryLog) (category : String) : List LogEvent :=
  L.events.toList.filter (·.codeInfo.category == category)

/-- An event of a level with a code is kept. -/
def has (L : MemoryLog) (level : LogLevel) (code : String) : Bool :=
  L.events.any fun e => e.level == level && e.code == code

/-- The number of events of a level. -/
def count (L : MemoryLog) (level : LogLevel) : Nat := L.events.countP (·.level == level)

/-- The number of errors that work must stop at. -/
def countCritical (L : MemoryLog) : Nat := L.events.countP fun e => e.isError && e.codeInfo.halts

/-- The counts over the events kept. -/
def summary (L : MemoryLog) : LogSummary where
  total := L.size
  errors := L.count .error
  warnings := L.count .warning
  infos := L.count .info
  details := L.count .debug
  critical := L.countCritical

end MemoryLog

end Lookahead
