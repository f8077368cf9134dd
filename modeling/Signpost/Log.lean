import Signpost.Text.Blank
import Signpost.Text.Decimal
import Signpost.Error

/-
  This file defines log lines and the levels a logger can be
  set to.

  The lines that are left are those that warn or report an
  error.  Lines of a lower level, which only say what went
  as it should, are left out.

  Key definitions include:
    * `LogLine`
    * `LogLine.text`
    * `LogLevel`
    * `LogLevel.parse`
    * `Logger`
    * `Logger.install`
-/

namespace Signpost

------------------------------------------------------------
-- Log Lines
------------------------------------------------------------

/- How serious a log line is. -/
inductive Severity where
| warn
| error
deriving DecidableEq, Repr

/- A log line. -/
structure LogLine where
  severity : Severity
  message : String
deriving DecidableEq, Repr

namespace LogLine

/- A log line with its severity before its message. -/
def text (l : LogLine) : String :=
  match l.severity with
  | .warn => "WARN " ++ l.message
  | .error => "ERROR " ++ l.message

/- A line of the routing part that warns. -/
def routingWarn (message : String) : LogLine :=
  ⟨.warn, "[polaris][gateway] " ++ message⟩

/- A line of the routing part that reports an error. -/
def routingError (message : String) : LogLine :=
  ⟨.error, "[polaris][gateway] " ++ message⟩

/- A line of the discovery part that warns. -/
def discoveryWarn (message : String) : LogLine :=
  ⟨.warn, "[polaris][discovery] " ++ message⟩

end LogLine

------------------------------------------------------------
-- Levels
------------------------------------------------------------

/- The lines that a logger writes. -/
inductive LogLevel where
| off
| error
| warn
| info
| debug
| trace
deriving DecidableEq, Repr

namespace LogLevel

/- The name of a level. -/
def name : LogLevel → String
| .off => "off"
| .error => "error"
| .warn => "warn"
| .info => "info"
| .debug => "debug"
| .trace => "trace"

/- All levels, the quietest first. -/
def all : List LogLevel :=
  [.off, .error, .warn, .info, .debug, .trace]

/-
  The level that a text names: a number from zero for the
  quietest, a name in any letter case, or nothing at all for
  errors only.
-/
def ofText? (s : String) : Option LogLevel :=
  let numbered :=
    match Text.readNatUpTo (UInt64.size - 1) s with
    | .ok n => all[n]?
    | .error _ => none
  match numbered with
  | some l => some l
  | none =>
      if s.isEmpty then some .error
      else all.find? (fun l => l.name = s.toLower)

/- Read a level from a text with white space around it. -/
def parse (s : String) : Except GatewayError LogLevel :=
  match ofText? (Text.trimmed s) with
  | some l => .ok l
  | none =>
      .error (.invalidConfig ("unknown logger level " ++ s))

end LogLevel

------------------------------------------------------------
-- The Logger of a Process
------------------------------------------------------------

/- The logger of a process, installed at most once. -/
structure Logger where
  level : Option LogLevel
deriving DecidableEq, Repr

namespace Logger

/- Install a logger, unless there is one already. -/
def install
    (l : Logger)
    (level : LogLevel) : Except GatewayError Logger :=
  match l.level with
  | none => .ok ⟨some level⟩
  | some _ =>
      .error
        { code := .invalidState
          message :=
            "logger already initialized: a global " ++
            "default trace dispatcher has already been set" }

/- Install a logger whose level is given as a text. -/
def installNamed
    (l : Logger)
    (level : String) : Except GatewayError Logger := do
  l.install (← LogLevel.parse level)

end Logger

end Signpost
