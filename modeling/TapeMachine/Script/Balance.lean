import TapeMachine.Instruction

/-! # Bracket balance

A script is balanced when every opening bracket has a closing partner behind it and every closing
bracket an opening partner before it. `Script.isBalanced` counts depth. `Script.check` remembers
the positions of the loops still open, so that a refusal can name the bracket at fault: a closing
bracket with nothing to close, or else the innermost loop that is left open at the end.
-/

namespace TapeMachine

/-- The characters of a script in order; a position in the script counts characters. -/
abbrev Script := Array Char

/-- The two ends of a loop. -/
inductive Bracket where
  | opening
  | closing
deriving DecidableEq, Repr

def Bracket.symbol : Bracket → Char
  | opening => '['
  | closing => ']'

/-- A bracket without partner, for which a script is refused. -/
structure UnmatchedBracket where
  position : Nat
  bracket : Bracket
deriving DecidableEq, Repr

def UnmatchedBracket.message (unmatched : UnmatchedBracket) : String :=
  s!"Unbalanced script: unmatched bracket '{unmatched.bracket.symbol}' " ++
    s!"at instruction {unmatched.position}"

namespace Script

def ofString (text : String) : Script := text.toList.toArray

def text (script : Script) : String := String.ofList script.toList

/-- The loop depth behind `characters` when it is `depth` before them, or `none` if a closing
bracket has nothing to close. -/
def depthAfter? (depth : Nat) : List Char → Option Nat
  | [] => some depth
  | character :: rest =>
    if character = '[' then depthAfter? (depth + 1) rest
    else if character = ']' then
      match depth with
      | 0 => none
      | outer + 1 => depthAfter? outer rest
    else depthAfter? depth rest

theorem depthAfter?_append (depth : Nat) (front behind : List Char) :
    depthAfter? depth (front ++ behind) =
      (depthAfter? depth front).bind fun inner => depthAfter? inner behind := by
  induction front generalizing depth with
  | nil => rfl
  | cons character rest inner =>
    simp only [List.cons_append, depthAfter?]
    split
    · exact inner _
    · split
      · cases depth with
        | zero => rfl
        | succ outer => exact inner outer
      · exact inner _

/-- Whether the brackets of a script pair up, by counting depth. -/
def isBalanced (script : Script) : Bool := depthAfter? 0 script.toList == some 0

/-- The positions of the loops still open behind `characters`, innermost first. The first of the
characters stands at `position`, inside the loops that start at the positions `opened`. -/
def openLoops (position : Nat) (opened : List Nat) :
    List Char → Except UnmatchedBracket (List Nat)
  | [] => .ok opened
  | character :: rest =>
    if character = '[' then openLoops (position + 1) (position :: opened) rest
    else if character = ']' then
      match opened with
      | [] => .error ⟨position, .closing⟩
      | _ :: outer => openLoops (position + 1) outer rest
    else openLoops (position + 1) opened rest

theorem openLoops_append (position : Nat) (opened : List Nat) (front behind : List Char) :
    openLoops position opened (front ++ behind) =
      (openLoops position opened front).bind fun inner =>
        openLoops (position + front.length) inner behind := by
  induction front generalizing position opened with
  | nil => rfl
  | cons character rest inner =>
    simp only [List.cons_append, openLoops, List.length_cons, Nat.add_comm rest.length 1,
      ← Nat.add_assoc]
    split
    · exact inner _ _
    · split
      · cases opened with
        | nil => rfl
        | cons _ outer => exact inner _ outer
      · exact inner _ _

/-- Accept a script whose brackets pair up, or name the bracket at fault. -/
def check (script : Script) : Except UnmatchedBracket Unit :=
  match openLoops 0 [] script.toList with
  | .error unmatched => .error unmatched
  | .ok [] => .ok ()
  | .ok (innermost :: _) => .error ⟨innermost, .opening⟩

end Script

end TapeMachine
