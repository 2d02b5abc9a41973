/-
This file defines protocols: automata that say, for each of many resources, which events about it
are accepted next. A trace follows a protocol if every event in it was accepted in the stage to
which the earlier events about the same resource had brought it. Events about other resources do
not matter to a resource, and a stage that no accepted event leaves is never left.

Nothing here knows what the resources and the events are.
-/

import Mathlib

namespace Protocols

/-- A protocol: the resource an event is about, the stage in which a resource begins, the events
that a stage accepts, and the stage to which an event leads. -/
structure Protocol (ρ ε : Type*) (Stage : Type*) where
  about : ε → Option ρ
  initial : Stage
  accepts : Stage → ε → Prop
  next : Stage → ε → Stage

namespace Protocol

variable {ρ ε Stage : Type*} [DecidableEq ρ] (protocol : Protocol ρ ε Stage)

/-- The stage of a resource after a trace, which has its newest event first. -/
def stage (resource : ρ) : List ε → Stage
  | [] => protocol.initial
  | event :: earlier =>
    if protocol.about event = some resource then protocol.next (stage resource earlier) event
    else stage resource earlier

/-- Every event was accepted when it happened. -/
def Follows : List ε → Prop
  | [] => True
  | event :: earlier =>
    (∀ resource, protocol.about event = some resource →
      protocol.accepts (protocol.stage resource earlier) event) ∧ Follows earlier

variable {protocol} {resource : ρ} {event : ε} {earlier later : List ε} {stage : Stage}

theorem stage_cons_self (about : protocol.about event = some resource) :
    protocol.stage resource (event :: earlier) =
      protocol.next (protocol.stage resource earlier) event := if_pos about

theorem stage_cons_of_ne (about : protocol.about event ≠ some resource) :
    protocol.stage resource (event :: earlier) = protocol.stage resource earlier := if_neg about

/-- A resource that no event is about is where it begins. -/
theorem stage_eq_initial (unused : ∀ event ∈ earlier, protocol.about event ≠ some resource) :
    protocol.stage resource earlier = protocol.initial := by
  induction earlier with
  | nil => rfl
  | cons event earlier inductionHypothesis =>
    obtain ⟨other, unused⟩ := List.forall_mem_cons.mp unused
    rw [stage_cons_of_ne other, inductionHypothesis unused]

namespace Follows

/-- An event that is about nothing. -/
theorem cons_of_none (follows : protocol.Follows earlier) (about : protocol.about event = none) :
    protocol.Follows (event :: earlier) :=
  ⟨fun _ same => absurd (about.symm.trans same) (by simp), follows⟩

/-- An event that is accepted. -/
theorem cons_of_accepts (follows : protocol.Follows earlier)
    (about : protocol.about event = some resource)
    (accepted : protocol.accepts (protocol.stage resource earlier) event) :
    protocol.Follows (event :: earlier) := by
  refine ⟨fun other same => ?_, follows⟩
  cases about.symm.trans same
  exact accepted

/-- What came before followed the protocol. -/
theorem suffix (follows : protocol.Follows (later ++ earlier)) : protocol.Follows earlier := by
  induction later with
  | nil => exact follows
  | cons event later inductionHypothesis => exact inductionHypothesis follows.2

/-- Every event was accepted after what came before it. -/
theorem accepted (follows : protocol.Follows (later ++ event :: earlier))
    (about : protocol.about event = some resource) :
    protocol.accepts (protocol.stage resource earlier) event := follows.suffix.1 resource about

/-- An event leaves no stage that accepted events do not leave. -/
theorem stage_cons (follows : protocol.Follows (event :: earlier))
    (absorbing : ∀ event, protocol.accepts stage event → protocol.next stage event = stage)
    (reached : protocol.stage resource earlier = stage) :
    protocol.stage resource (event :: earlier) = stage := by
  by_cases about : protocol.about event = some resource
  · have accepted := follows.1 resource about
    rw [reached] at accepted
    rw [stage_cons_self about, reached, absorbing event accepted]
  · rw [stage_cons_of_ne about, reached]

end Follows

end Protocol

end Protocols
