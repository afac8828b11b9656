import TapeMachine.LogLevel
import TapeMachine.Strategy
import TapeMachine.Text.Lines

/-! # The config file

A config file is read line by line. A header in square brackets starts a section, and only the
section `run` matters here. In it a line with an equals sign assigns a value to a key; the value may
stand in double quotes. All other lines are passed over. The last assignment to a key is the one
that counts, and if its value cannot be read the key has none.
-/

namespace TapeMachine

structure FileConfig where
  timeoutMs : Option UInt64
  maxSteps : Option UInt64
  resolver : Option Strategy
  logLevel : Option LogLevel
deriving DecidableEq, Repr

/-- What a line of a config file says. -/
inductive ConfigLine where
  /-- A blank line, a comment, or a line that says nothing. -/
  | noise
  | header (title : List Char)
  | assignment (key value : List Char)
deriving DecidableEq, Repr

namespace ConfigLine

/-- A value without the double quotes around it, if it has both. -/
def unquote (value : List Char) : List Char :=
  match value with
  | '"' :: inner => if inner.getLast? = some '"' then inner.dropLast else value
  | _ => value

/-- Read a line without blanks at its ends. -/
def ofTrimmed (line : List Char) : ConfigLine :=
  if line.head? = some '#' then .noise
  else if line.head? = some '[' ∧ line.getLast? = some ']' then
    .header (Text.trim line.tail.dropLast)
  else
    match Text.splitFirst? '=' line with
    | some (key, value) => .assignment (Text.trim key) (unquote (Text.trim value))
    | none => .noise

def ofLine (line : List Char) : ConfigLine := ofTrimmed (Text.trim line)

end ConfigLine

namespace FileConfig

def sectionName : List Char := "run".toList

/-- The assignments in sections that count, in order, with their keys; `counts` says whether the
first line is in such a section. -/
def assignments (counts : Bool) : List ConfigLine → List (List Char × List Char)
  | [] => []
  | .noise :: rest => assignments counts rest
  | .header title :: rest => assignments (title = sectionName) rest
  | .assignment key value :: rest =>
    if counts then (key, value) :: assignments counts rest else assignments counts rest

/-- The value of the last assignment to a key, whether or not it can be read. -/
def lastValue? (assigned : List (List Char × List Char)) (key : String) : Option (List Char) :=
  (assigned.findRev? fun (assignedKey, _) => assignedKey = key.toList).map (·.2)

def ofAssignments (assigned : List (List Char × List Char)) : FileConfig where
  timeoutMs := (lastValue? assigned "timeout_ms").bind Text.Decimal.read?
  maxSteps := (lastValue? assigned "max_steps").bind Text.Decimal.read?
  resolver := (lastValue? assigned "resolver").bind Strategy.ofText?
  logLevel := (lastValue? assigned "log_level").bind LogLevel.ofText?

def ofText (text : List Char) : FileConfig :=
  ofAssignments (assignments false ((Text.lines text).map ConfigLine.ofLine))

end FileConfig

end TapeMachine
