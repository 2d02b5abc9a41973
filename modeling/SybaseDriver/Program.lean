/-
This file defines imperative programs over a state, in the shape a C++ method
has: a program may return, may throw an error that a caller can catch, or may
stop the process for good. `iterate` is the loop with an explicit bound on the
number of iterations; a run that reaches the bound is halted, so a loop that
does not end is never mistaken for one that returned.

Nothing here knows what the state or the errors are.
-/

import Mathlib

/-- How a program ends: it returns, it throws an error, or it halts for good. -/
inductive Outcome (ε δ α : Type) where
  | ok (value : α)
  | throw (error : ε)
  | halt (reason : δ)

/-- Is an outcome a return of a value that passes a test? -/
def Outcome.returns {ε δ α : Type} (test : α → Bool) : Outcome ε δ α → Bool
  | .ok value => test value
  | _ => false

/-- A program over the state `σ`. The state after a throw or a halt is kept: nothing a
program did before it threw is undone. -/
def Program (σ ε δ α : Type) : Type := σ → Outcome ε δ α × σ

namespace Program

variable {σ ε δ α β γ : Type}

/-- Return a value. -/
protected def pure (value : α) : Program σ ε δ α := fun state => (.ok value, state)

/-- Run one program, then the next one on its value. -/
protected def bind (program : Program σ ε δ α) (next : α → Program σ ε δ β) : Program σ ε δ β :=
  fun state => match program state with
    | (.ok value, after) => next value after
    | (.throw error, after) => (.throw error, after)
    | (.halt reason, after) => (.halt reason, after)

instance : Monad (Program σ ε δ) where
  pure := Program.pure
  bind := Program.bind

/-- Throw an error. -/
def throw (error : ε) : Program σ ε δ α := fun state => (.throw error, state)

/-- Stop for good. -/
def halt (reason : δ) : Program σ ε δ α := fun state => (.halt reason, state)

/-- Read the state. -/
def get : Program σ ε δ σ := fun state => (.ok state, state)

/-- Change the state. -/
def modify (change : σ → σ) : Program σ ε δ Unit := fun state => (.ok (), change state)

/-- Run a handler on the error of a program that throws. -/
def tryCatch (program : Program σ ε δ α) (handler : ε → Program σ ε δ α) : Program σ ε δ α :=
  fun state => match program state with
    | (.ok value, after) => (.ok value, after)
    | (.throw error, after) => handler error after
    | (.halt reason, after) => (.halt reason, after)

/-- Run a program if a condition holds. -/
def when (condition : Prop) [Decidable condition] (program : Program σ ε δ Unit) :
    Program σ ε δ Unit :=
  if condition then program else Program.pure ()

/-- Run a cleanup if the program throws. -/
def onThrow (program : Program σ ε δ α) (cleanup : Program σ ε δ Unit) : Program σ ε δ α :=
  tryCatch program fun error => Program.bind cleanup fun _ => throw error

/-- Run a cleanup when the program leaves its scope, by a return or by a throw. -/
def ensure (program : Program σ ε δ α) (cleanup : Program σ ε δ Unit) : Program σ ε δ α :=
  fun state => match program state with
    | (.ok value, after) => (cleanup.bind fun _ => Program.pure value) after
    | (.throw error, after) => (cleanup.bind fun _ => throw error) after
    | (.halt reason, after) => (.halt reason, after)

/-- Repeat a body until it breaks out of the loop with a value. At the bound the program halts
with `exhausted`. -/
def iterate (exhausted : δ) (body : α → Program σ ε δ (α ⊕ β)) : Nat → α → Program σ ε δ β
  | 0, _ => halt exhausted
  | bound + 1, loop => Program.bind (body loop) fun
    | .inl again => iterate exhausted body bound again
    | .inr result => Program.pure result

end Program
