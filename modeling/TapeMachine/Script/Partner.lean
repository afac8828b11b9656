import TapeMachine.Script.Balance

/-! # The partner of a bracket

`Script.partner` walks from a bracket to its partner, to the right from an opening bracket and to
the left from a closing one. On the way every bracket of the same kind opens a nested loop and every
bracket of the other kind closes one; the first that closes nothing nested is the partner. Both
walks recurse on the part of the script that lies ahead, so they end on every script.
-/

namespace TapeMachine

/-- Why a position has no partner. -/
inductive LoopFault where
  /-- The character at the position is no bracket, or the position is past the end. -/
  | notBound (position : Nat)
  /-- The walk left the script before it met a partner. -/
  | ranOffEnd (position : Nat)
deriving DecidableEq, Repr

namespace LoopFault

/-- The position that a partner was sought for. -/
def position : LoopFault → Nat
  | notBound position | ranOffEnd position => position

def message : LoopFault → String
  | notBound position =>
    s!"loop resolver called at instruction {position}, which is not a loop bound"
  | ranOffEnd position =>
    s!"loop resolver ran off the script looking for the partner of instruction {position}"

end LoopFault

namespace Script

/-- The closing bracket that leaves `depth` nested loops, among the last `ahead` characters. -/
def closingAhead? (script : Script) (depth : Nat) : (ahead : Nat) → Option Nat
  | 0 => none
  | ahead + 1 =>
    let position := script.size - (ahead + 1)
    if script[position]? = some '[' then script.closingAhead? (depth + 1) ahead
    else if script[position]? = some ']' then
      match depth with
      | 0 => some position
      | outer + 1 => script.closingAhead? outer ahead
    else script.closingAhead? depth ahead

/-- The opening bracket that leaves `depth` nested loops, among the first `behind` characters. -/
def openingBehind? (script : Script) (depth : Nat) : (behind : Nat) → Option Nat
  | 0 => none
  | position + 1 =>
    if script[position]? = some ']' then script.openingBehind? (depth + 1) position
    else if script[position]? = some '[' then
      match depth with
      | 0 => some position
      | outer + 1 => script.openingBehind? outer position
    else script.openingBehind? depth position

/-- The position of the partner of the bracket at `position`. -/
def partner (script : Script) (position : Nat) : Except LoopFault Nat :=
  if script[position]? = some '[' then
    match script.closingAhead? 0 (script.size - (position + 1)) with
    | some closing => .ok closing
    | none => .error (.ranOffEnd position)
  else if script[position]? = some ']' then
    match script.openingBehind? 0 position with
    | some opening => .ok opening
    | none => .error (.ranOffEnd position)
  else .error (.notBound position)

end Script

end TapeMachine
