import PeerLink.Text.Decimal

/-!
# Levels of a log

How much a program tells about its work. A level is given by its name, in letters of either case,
or by its number.
-/

namespace PeerLink

/-- How much is told, the least first. -/
inductive LogLevel where
  /-- Failures. -/
  | error
  /-- What may become a failure, too. -/
  | warn
  /-- Each step, too. -/
  | info
  /-- What explains the steps, too. -/
  | debug
  /-- Everything. -/
  | trace
  deriving DecidableEq, Repr

namespace LogLevel

/-- All levels, in order. -/
def all : List LogLevel := [error, warn, info, debug, trace]

/-- The name of a level. -/
def name : LogLevel → String
  | error => "error"
  | warn => "warn"
  | info => "info"
  | debug => "debug"
  | trace => "trace"

/-- The number of a level, from one. -/
def number : LogLevel → Nat
  | error => 1
  | warn => 2
  | info => 3
  | debug => 4
  | trace => 5

/-- The level that a text is the number or the name of. -/
def ofText? (text : String) : Option LogLevel :=
  match Text.Decimal.readSigned? text.toList with
  | some n => all.find? (·.number = n)
  | none => all.find? (·.name.toList = text.toList.map Char.toLower)

end LogLevel

end PeerLink
