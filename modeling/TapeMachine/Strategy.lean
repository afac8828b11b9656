import TapeMachine.Text.Blank

/-! # Strategies

A session finds the partner of a bracket either by walking the script at every jump or by a look-up
in a table made beforehand. `Strategy.ofText` reads the name of a strategy, blanks around it and
the case of its letters aside.
-/

namespace TapeMachine

/-- How the partner of a bracket is found. -/
inductive Strategy where
  | scan
  | table
deriving DecidableEq, Repr

/-- A name that no strategy has, trimmed and in lower case. -/
structure UnknownStrategy where
  name : String
deriving DecidableEq, Repr

def UnknownStrategy.message (unknown : UnknownStrategy) : String :=
  s!"unknown resolver '{unknown.name}' (expected 'scan' or 'table')"

namespace Strategy

/-- The strategy of a session that asks for none. -/
def default : Strategy := .table

def name : Strategy → String
  | scan => "scan"
  | table => "table"

/-- Read the name of a strategy. Letters outside ASCII keep their case. -/
def ofText (text : List Char) : Except UnknownStrategy Strategy :=
  let lowered := String.ofList ((Text.trim text).map Char.toLower)
  if lowered = scan.name then .ok scan
  else if lowered = table.name then .ok table
  else .error ⟨lowered⟩

def ofText? (text : List Char) : Option Strategy := (ofText text).toOption

end Strategy

end TapeMachine
