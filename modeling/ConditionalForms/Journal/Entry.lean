import ConditionalForms.Json.Basic

/-!
# Journal entries

What an operation reports while it works: a level, the part of the system that speaks, a message,
and optional structured context.
-/

namespace ConditionalForms

namespace Level

/-- The level of details for finding faults. -/
def debug : Int := 10

/-- The level of ordinary progress. -/
def info : Int := 20

/-- The level of things that were skipped. -/
def warning : Int := 30

/-- The level of failed operations. -/
def error : Int := 40

/-- The level of failures of the whole program. -/
def critical : Int := 50

/-- The name of a level; a level without a name is named by its number. -/
def name (n : Int) : String :=
  if n = 0 then "NOTSET"
  else if n = debug then "DEBUG"
  else if n = info then "INFO"
  else if n = warning then "WARNING"
  else if n = error then "ERROR"
  else if n = critical then "CRITICAL"
  else s!"Level {n}"

/-- The level of a name in upper case; two levels have a second name. -/
def ofName? : String → Option Int
  | "NOTSET" => some 0
  | "DEBUG" => some debug
  | "INFO" => some info
  | "WARN" | "WARNING" => some warning
  | "ERROR" => some error
  | "FATAL" | "CRITICAL" => some critical
  | _ => none

end Level

/-- One message to the journal. -/
structure Entry where
  level : Int
  logger : String
  message : String
  context : Option Json := none
  deriving Repr, Inhabited

namespace Entry

/-- The entries that a logger of the given level lets through. -/
def atLeast (level : Int) (es : List Entry) : List Entry := es.filter (level ≤ ·.level)

end Entry

end ConditionalForms
