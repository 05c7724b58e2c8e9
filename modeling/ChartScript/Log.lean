/-!
# The log

A run reports what happens as entries of four levels.  Entries go to a channel that keeps
the latest 256 of them.  A subscriber receives the entries logged after it subscribed; if
it falls behind, it is told once how many it has lost and goes on with the oldest entry
that is kept.
-/

namespace ChartScript

inductive LogLevel where
  | info
  | success
  | warning
  | error
  deriving DecidableEq, Repr

namespace LogLevel

def text : LogLevel → String
  | .info => "info"
  | .success => "success"
  | .warning => "warning"
  | .error => "error"

def ofText? (text : String) : Option LogLevel :=
  [info, success, warning, error].find? fun level => level.text == text

def mark : LogLevel → String
  | .info => "   "
  | .success => "   ✓"
  | .warning => "   ⚠️"
  | .error => "   ❌"

end LogLevel

structure LogEntry where
  level : LogLevel
  message : String
  indent : Nat
  deriving DecidableEq, Repr

/-- The entry as a line; every level of nesting moves it by three blanks. -/
def LogEntry.line (entry : LogEntry) : String :=
  let margin := String.ofList (List.replicate (3 * entry.indent) ' ')
  s!"{margin}{entry.level.mark} {entry.message}"

/-- The entries that are kept, the latest first, and the number of all entries so far. -/
structure LogChannel where
  kept : List LogEntry
  total : Nat
  deriving DecidableEq, Repr

/-- A subscriber is known by the number of entries that it has been through. -/
structure LogReader where
  passed : Nat
  deriving DecidableEq, Repr

inductive Reception where
  | entry (entry : LogEntry)
  | empty
  | lagged (lost : Nat)
  deriving DecidableEq, Repr

/-- All that waits for a subscriber: how many entries are lost, and the others in order. -/
structure Backlog where
  lost : Nat
  entries : List LogEntry
  deriving DecidableEq, Repr

namespace LogChannel

def capacity : Nat := 256

def empty : LogChannel := ⟨[], 0⟩

def log (channel : LogChannel) (entry : LogEntry) : LogChannel :=
  ⟨(entry :: channel.kept).take capacity, channel.total + 1⟩

def logAll (channel : LogChannel) (entries : List LogEntry) : LogChannel :=
  entries.foldl log channel

/-- A new subscriber receives only what is logged from now on. -/
def subscribe (channel : LogChannel) : LogReader := ⟨channel.total⟩

/-- The entries that a subscriber has not been through and that are kept, in order. -/
def waiting (channel : LogChannel) (reader : LogReader) : List LogEntry :=
  (channel.kept.take (channel.total - reader.passed)).reverse

/-- The number of entries that a subscriber can receive no more. -/
def lost (channel : LogChannel) (reader : LogReader) : Nat :=
  channel.total - reader.passed - channel.kept.length

/-- Receives one entry, or the news of lost entries. -/
def receive (channel : LogChannel) (reader : LogReader) : Reception × LogReader :=
  let lost := channel.lost reader
  if lost > 0 then (.lagged lost, ⟨reader.passed + lost⟩)
  else
    match channel.waiting reader with
    | [] => (.empty, reader)
    | entry :: _ => (.entry entry, ⟨reader.passed + 1⟩)

def drain (channel : LogChannel) (reader : LogReader) : Backlog × LogReader :=
  (⟨channel.lost reader, channel.waiting reader⟩, ⟨channel.total⟩)

end LogChannel

/-- What a subscriber from the start finds after the entries of a run. -/
def Backlog.ofEntries (entries : List LogEntry) : Backlog :=
  (LogChannel.empty.logAll entries |>.drain LogChannel.empty.subscribe).1

end ChartScript
