import Mathlib.Data.List.DropRight
import Mathlib.Tactic.SplitIfs
import TapeMachine.Tape

/-! # The tape is a ring of counters

A tape wraps case by case, at its two ends and at the two ends of the numbers that a cell holds. Over
any sequence of operations these cases add up to arithmetic. The cursor is where the moves to the
right less the moves to the left lead modulo the number of cells, and each cell holds, modulo 256,
what was last written to it and counted up and down since, by the operations that found the cursor
there. So what a sequence does to a tape is its net effect, and nothing else.
-/

namespace TapeMachine

namespace Tape

inductive Operation where
  | increment
  | decrement
  | write (byte : UInt8)
  | moveRight
  | moveLeft
deriving DecidableEq, Repr

namespace Operation

/-- The byte that an operation writes, if it writes one. -/
def written? : Operation → Option UInt8
  | write byte => some byte
  | _ => none

/-- What an operation makes of the cell under the cursor. -/
def counted (byte : UInt8) : Operation → UInt8
  | increment => byte + 1
  | decrement => byte - 1
  | write other => other
  | moveRight | moveLeft => byte

/-- The moves to the right less the moves to the left. -/
def displacement (operations : List Operation) : Int :=
  operations.count .moveRight - operations.count .moveLeft

/-- The operations that find the cursor on `position` in a ring of `n` cells, if it was moved by
`moved` before the first of them. -/
def executedOn {n : Nat} (position : Fin n) (moved : Int) : List Operation → List Operation
  | [] => []
  | operation :: rest =>
    let others := executedOn position (moved + displacement [operation]) rest
    if moved % n = position.val then operation :: others else others

/-- The value last written, or `start` if there is none, and the increments less the decrements
behind that write. -/
def total (start : UInt8) (operations : List Operation) : Int :=
  let since := operations.rtakeWhile fun operation => operation.written?.isNone
  ((operations.filterMap written?).getLastD start).toNat + since.count .increment -
    since.count .decrement

theorem displacement_cons (operation : Operation) (rest : List Operation) :
    displacement (operation :: rest) = displacement [operation] + displacement rest := by
  simp only [displacement, List.count_cons, List.count_nil]
  omega

theorem total_write (start byte : UInt8) (operations : List Operation) :
    total start (operations ++ [write byte]) = byte.toNat := by
  simp [total, written?, List.getLastD_eq_getLast?]

/-- Behind an operation that writes nothing the count goes on. -/
theorem total_concat {operation : Operation} (silent : operation.written? = none) (start : UInt8)
    (operations : List Operation) :
    total start (operations ++ [operation]) =
      total start operations + [operation].count .increment - [operation].count .decrement := by
  simp only [total, List.rtakeWhile_concat, silent, Option.isNone_none, ↓reduceIte,
    List.filterMap_append, List.filterMap_cons, List.filterMap_nil, List.append_nil,
    List.count_append]
  omega

/-- An operation that writes nothing counts the cell on, modulo 256. -/
theorem toNat_counted {operation : Operation} (silent : operation.written? = none) (byte : UInt8) :
    ((counted byte operation).toNat : Int) =
      (byte.toNat + [operation].count .increment - [operation].count .decrement) % 256 := by
  have below : byte.toNat < 256 := byte.toNat_lt
  cases operation with
  | write other => cases silent
  | increment =>
    rw [counted, UInt8.toNat_add, UInt8.toNat_one]
    simp
  | decrement =>
    rw [counted, UInt8.toNat_sub, UInt8.toNat_one]
    simp
    omega
  | moveRight | moveLeft =>
    simp [counted]
    omega

/-- A cell that counts in a byte holds the total modulo 256. -/
theorem toNat_foldl_counted (start : UInt8) (operations : List Operation) :
    ((operations.foldl counted start).toNat : Int) = total start operations % 256 := by
  induction operations using List.reverseRecOn with
  | nil =>
    have below : start.toNat < 256 := start.toNat_lt
    simp only [List.foldl_nil, total, List.rtakeWhile_nil, List.filterMap_nil, List.getLastD_nil,
      List.count_nil]
    omega
  | append_singleton operations operation ih =>
    rw [List.foldl_concat]
    cases written : operation.written? with
    | none =>
      rw [total_concat written, toNat_counted written, ih]
      omega
    | some byte =>
      have below : byte.toNat < 256 := byte.toNat_lt
      obtain rfl : operation = .write byte := by
        cases operation <;> simp_all [written?]
      rw [total_write, counted]
      omega

end Operation

variable {n : Nat}

def apply (tape : Tape n) : Operation → Tape n
  | .increment => tape.increment
  | .decrement => tape.decrement
  | .write byte => tape.write byte
  | .moveRight => tape.moveRight
  | .moveLeft => tape.moveLeft

def applyAll (tape : Tape n) (operations : List Operation) : Tape n := operations.foldl apply tape

/-! ## The cursor -/

theorem val_rightOf (position : Fin n) :
    ((rightOf position).val : Int) = (position.val + 1) % n := by
  have bound := position.isLt
  unfold rightOf
  split_ifs with inside
  · exact (Int.emod_eq_of_lt (by omega) (by omega)).symm
  · rw [show (position.val : Int) + 1 = n by omega, Int.emod_self]
    rfl

theorem val_leftOf (position : Fin n) :
    ((leftOf position).val : Int) = (position.val - 1) % n := by
  have bound := position.isLt
  unfold leftOf
  split_ifs with first
  · rw [first, ← Int.add_emod_right, Int.emod_eq_of_lt (by omega) (by omega)]
    simp only
    omega
  · rw [Int.emod_eq_of_lt (by omega) (by omega)]
    simp only
    omega

/-- An operation moves the cursor by its displacement around the ring. -/
theorem cursor_apply (tape : Tape n) (operation : Operation) :
    ((tape.apply operation).cursor.val : Int) =
      (tape.cursor.val + Operation.displacement [operation]) % n := by
  have inside : (tape.cursor.val : Int) % n = tape.cursor.val :=
    Int.emod_eq_of_lt (by omega) (by exact_mod_cast tape.cursor.isLt)
  cases operation with
  | moveRight => exact val_rightOf tape.cursor
  | moveLeft => exact val_leftOf tape.cursor
  | increment | decrement | write byte =>
    simp only [apply, increment, decrement, cursor_write, Operation.displacement]
    simp [inside]

theorem cursor_applyAll (tape : Tape n) (operations : List Operation) :
    ((tape.applyAll operations).cursor.val : Int) =
      (tape.cursor.val + Operation.displacement operations) % n := by
  induction operations generalizing tape with
  | nil => exact (Int.emod_eq_of_lt (by simp) (by simp [applyAll])).symm
  | cons operation rest ih =>
    change ((applyAll (tape.apply operation) rest).cursor.val : Int) = _
    rw [ih, cursor_apply, Int.emod_add_emod, Operation.displacement_cons operation rest, Int.add_assoc]

/-! ## The cells -/

def cell (tape : Tape n) (position : Fin n) : UInt8 := tape.cells.get position

theorem cell_write (tape : Tape n) (byte : UInt8) (position : Fin n) :
    (tape.write byte).cell position =
      if tape.cursor = position then byte else tape.cell position :=
  getElem_cells_write tape byte position

theorem cell_blank [HasCell n] (position : Fin n) : (blank n).cell position = 0 := by
  change (Vector.replicate n (0 : UInt8))[position] = 0
  simp

/-- Two tapes with the same cells are the same if their cursors are. -/
theorem ext_cell {tape other : Tape n}
    (cells : ∀ position, tape.cell position = other.cell position)
    (cursor : tape.cursor = other.cursor) : tape = other := by
  have same : tape.cells = other.cells := Vector.ext fun index inside => cells ⟨index, inside⟩
  exact (Tape.mk.injEq ..).mpr ⟨same, cursor⟩

/-- An operation touches no cell but the one under the cursor. -/
theorem cell_apply (tape : Tape n) (operation : Operation) (position : Fin n) :
    (tape.apply operation).cell position =
      if tape.cursor = position then Operation.counted (tape.cell position) operation
      else tape.cell position := by
  cases operation with
  | increment | decrement | write byte =>
    simp only [apply, increment, decrement, cell_write]
    split_ifs with same
    · subst same
      rfl
    · rfl
  | moveRight | moveLeft => exact (ite_self _).symm

/-- A cell is changed by the operations that find the cursor on it, one after the other. -/
theorem cell_applyAll (tape : Tape n) (operations : List Operation) (position : Fin n)
    {moved : Int} (stands : moved % n = tape.cursor.val) :
    (tape.applyAll operations).cell position =
      (Operation.executedOn position moved operations).foldl Operation.counted
        (tape.cell position) := by
  induction operations generalizing tape moved with
  | nil => rfl
  | cons operation rest ih =>
    have next : (moved + Operation.displacement [operation]) % n =
        (tape.apply operation).cursor.val := by
      rw [cursor_apply, ← stands, Int.emod_add_emod]
    change (applyAll (tape.apply operation) rest).cell position = _
    rw [ih (tape.apply operation) next, cell_apply]
    simp only [Operation.executedOn, stands, Int.natCast_inj, ← Fin.ext_iff]
    split_ifs <;> rfl

/-- On a blank tape a cell holds what its own operations count. -/
theorem toNat_cell_applyAll_blank [HasCell n] (operations : List Operation) (position : Fin n) :
    ((((blank n).applyAll operations).cell position).toNat : Int) =
      Operation.total 0 (Operation.executedOn position 0 operations) % 256 := by
  rw [cell_applyAll _ operations position (Int.zero_emod _), cell_blank,
    Operation.toNat_foldl_counted]

/-- Moves around the whole ring lead back to where they started. -/
theorem applyAll_around {operation : Operation} {tape : Tape n}
    (move : ∀ other : Tape n, (other.apply operation).cells = other.cells)
    (around : Operation.displacement (.replicate n operation) % n = 0) :
    tape.applyAll (.replicate n operation) = tape := by
  have cells : ∀ count, (tape.applyAll (.replicate count operation)).cells = tape.cells := by
    intro count
    induction count with
    | zero => rfl
    | succ count ih =>
      rw [List.replicate_succ', applyAll, List.foldl_concat]
      exact (move _).trans ih
  have cursor : (tape.applyAll (.replicate n operation)).cursor = tape.cursor := by
    have bound := tape.cursor.isLt
    apply Fin.ext
    apply Int.natCast_inj.mp
    rw [cursor_applyAll, Int.add_emod, around, Int.add_zero, Int.emod_emod]
    exact Int.emod_eq_of_lt (by omega) (by omega)
  exact (Tape.mk.injEq ..).mpr ⟨cells n, cursor⟩

/-- The net effect of two sequences on a blank ring is the same. -/
structure Operation.SameNet (n : Nat) (first second : List Operation) : Prop where
  displacement : displacement first % n = displacement second % n
  total : ∀ position : Fin n, total 0 (executedOn position 0 first) % 256 =
    total 0 (executedOn position 0 second) % 256

/-- A tape is a ring of counters modulo 256. Behind any sequence of operations its cursor is the net
number of moves to the right modulo the number of cells, and each cell is what was last written to it
and counted since, by the operations that found the cursor there. An operation touches that cell
only, and the number of cells stays. So moves around the ring lead back, opposite operations undo
each other, and sequences give the same tape exactly if their net effect is the same. -/
theorem ring_of_counters (n : Nat) [HasCell n] :
    (∀ operations : List Operation,
      (((blank n).applyAll operations).cursor.val : Int) = Operation.displacement operations % n ∧
      (∀ position : Fin n, ((((blank n).applyAll operations).cell position).toNat : Int) =
        Operation.total 0 (Operation.executedOn position 0 operations) % 256) ∧
      ((blank n).applyAll operations).cells.toList.length = n) ∧
    (∀ (tape : Tape n) operation (position : Fin n), position ≠ tape.cursor →
      (tape.apply operation).cell position = tape.cell position) ∧
    (∀ tape : Tape n,
      tape.applyAll (.replicate n .moveRight) = tape ∧
      tape.applyAll (.replicate n .moveLeft) = tape ∧
      tape.applyAll [.moveRight, .moveLeft] = tape ∧ tape.applyAll [.moveLeft, .moveRight] = tape ∧
      tape.applyAll [.increment, .decrement] = tape ∧
      tape.applyAll [.decrement, .increment] = tape) ∧
    ∀ first second : List Operation,
      (blank n).applyAll first = (blank n).applyAll second ↔ Operation.SameNet n first second := by
  have cursor (operations : List Operation) :
      (((blank n).applyAll operations).cursor.val : Int) =
        Operation.displacement operations % n := by
    rw [cursor_applyAll]
    exact congrArg (· % (n : Int)) (Int.zero_add _)
  refine ⟨fun operations => ⟨cursor operations, toNat_cell_applyAll_blank operations,
    Vector.length_toList⟩, fun tape operation position other => ?_, fun tape => ⟨?_, ?_, ?_⟩,
    fun first second => ⟨fun same => ⟨?_, fun position => ?_⟩, fun same => ?_⟩⟩
  · rw [cell_apply, if_neg other.symm]
  · exact applyAll_around (fun _ => rfl) (by simp [Operation.displacement, List.count_replicate])
  · exact applyAll_around (fun _ => rfl) (by simp [Operation.displacement, List.count_replicate])
  · exact ⟨tape.moveLeft_moveRight, tape.moveRight_moveLeft, tape.decrement_increment,
      tape.increment_decrement⟩
  · rw [← cursor, ← cursor, same]
  · rw [← toNat_cell_applyAll_blank, ← toNat_cell_applyAll_blank, same]
  · have displacement := same.displacement
    rw [← cursor, ← cursor] at displacement
    refine ext_cell (fun position => ?_) (Fin.ext (Int.natCast_inj.mp displacement))
    have total := same.total position
    rw [← toNat_cell_applyAll_blank, ← toNat_cell_applyAll_blank] at total
    exact UInt8.toNat_inj.mp (Int.natCast_inj.mp total)

/-- In a ring of one cell the cursor is where it was, and all operations find it there. -/
theorem ring_of_counters_single :
    ((((blank 1).applyAll [.moveLeft, .decrement, .moveRight, .decrement]).cell 0).toNat : Int) =
        254 ∧
      ((2 : Fin 3) ≠ (blank 3).cursor ∧
        ((blank 3).apply (.write 7)).cell 2 = (blank 3).cell 2) ∧
      (blank 2).applyAll [.moveLeft, .increment] = (blank 2).applyAll [.moveRight, .write 1] := by
  refine ⟨((ring_of_counters 1).1 [.moveLeft, .decrement, .moveRight, .decrement]).2.1 0,
    ⟨by decide, (ring_of_counters 3).2.1 (blank 3) (.write 7) 2 (by decide)⟩, ?_⟩
  exact ((ring_of_counters 2).2.2.2 _ _).mpr ⟨rfl, by decide⟩

end Tape

end TapeMachine
