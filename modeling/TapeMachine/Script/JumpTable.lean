import TapeMachine.Script.Partner

/-! # The table of partners

One pass over a script with a stack of open loops finds the partner of every bracket that has one.
A bracket without partner has no entry, so a look-up there answers as it does off the brackets.
-/

namespace TapeMachine

/-- The partner of each position of a script, where it has one. -/
structure JumpTable where
  partners : Array (Option Nat)
deriving DecidableEq, Repr

namespace JumpTable

/-- Enter two brackets as each other's partners. -/
def link (table : JumpTable) (opening closing : Nat) : JumpTable :=
  ⟨(table.partners.setIfInBounds opening (some closing)).setIfInBounds closing (some opening)⟩

/-- Enter the pairs that `characters` complete. The first of them stands at `position`, inside the
loops that start at the positions `opened`, innermost first. -/
def linkPairs (position : Nat) (opened : List Nat) (table : JumpTable) : List Char → JumpTable
  | [] => table
  | character :: rest =>
    if character = '[' then linkPairs (position + 1) (position :: opened) table rest
    else if character = ']' then
      match opened with
      | [] => linkPairs (position + 1) [] table rest
      | opening :: outer => linkPairs (position + 1) outer (table.link opening position) rest
    else linkPairs (position + 1) opened table rest

def ofScript (script : Script) : JumpTable :=
  linkPairs 0 [] ⟨Array.replicate script.size none⟩ script.toList

def partner (table : JumpTable) (position : Nat) : Except LoopFault Nat :=
  match table.partners[position]? with
  | some (some other) => .ok other
  | _ => .error (.notBound position)

end JumpTable

end TapeMachine
