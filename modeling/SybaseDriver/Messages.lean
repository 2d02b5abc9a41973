/-
This file proves what the driver makes of the messages ct-lib has queued.
`purgeMessages` reports failure exactly where one of them is severe, and
`doCheckException` is silent exactly where the only server message is one that a
commit or rollback without a transaction causes. That is not the rule its comment
states, which ignores these messages among others: the two agree under a
condition on the queues.
-/

import SybaseDriver.WorldLogic

namespace Sybase

open Program Connection

variable {σ : Type} {world : World σ}

/-! ### Purging -/

/-- The exceptions for the severe ones of a list of messages, the newest first. -/
def severeExceptions {msg : Type} (severity : msg → Int) (err : String) (describe : msg → String)
    (messages : List msg) : List QoreException :=
  ((messages.filter (10 < severity ·)).map fun message => ⟨err, describe message⟩).reverse

/-- The exceptions for the queued messages. -/
def purgedExceptions (world : World σ) : List QoreException :=
  severeExceptions ServerMsg.severity "TDS-SERVER-ERROR" describeServer world.serverMsgs ++
    severeExceptions ClientMsg.severity "TDS-CLIENT-ERROR" describeClient world.clientMsgs

/-- The state after the messages were purged. -/
def World.purged (world : World σ) : World σ :=
  { world.discarded with xsink := purgedExceptions world ++ world.xsink }

/-- Whether a severe message is queued. -/
def hasSevere (world : World σ) : Bool :=
  world.clientMsgs.any (10 < ·.severity) || world.serverMsgs.any (10 < ·.severity)

section Rules

variable {onThrow : Error → World σ → Prop} {onHalt : Halt → World σ → Prop}

theorem wp_raiseSevere {msg : Type} (severity : msg → Int) (err : String)
    (describe : msg → String) (messages : List msg) {onBool : Bool → World σ → Prop} :
    wp (raiseSevere severity err describe messages) onBool onThrow onHalt world ↔
      onBool (messages.any (10 < severity ·)) { world with
        xsink := severeExceptions severity err describe messages ++ world.xsink } := by
  induction messages generalizing world onBool with
  | nil => rfl
  | cons message rest inductionHypothesis =>
    rw [raiseSevere]
    split
    · rename_i severe
      rw [wp_bind, wp_raiseException, wp_bind, inductionHypothesis, wp_pure, List.any_cons,
        decide_eq_true severe, Bool.true_or, severeExceptions, severeExceptions,
        List.filter_cons_of_pos (by simpa using severe), List.map_cons, List.reverse_cons,
        List.append_assoc]
      rfl
    · rename_i informational
      rw [inductionHypothesis, List.any_cons, decide_eq_false informational, Bool.false_or,
        severeExceptions, severeExceptions, List.filter_cons_of_neg (by simpa using informational)]

/-- `purge_messages` raises the severe messages and returns -1 if there are any; it leaves no
message queued. -/
theorem wp_purgeMessages {onInt : Int → World σ → Prop} :
    wp purgeMessages onInt onThrow onHalt world ↔
      onInt (if hasSevere world then -1 else 0) world.purged := by
  rw [purgeMessages, wp_bind, wp_get, wp_bind, wp_raiseSevere, wp_bind, wp_raiseSevere, wp_bind,
    wp_discardMessages, wp_pure, World.purged, purgedExceptions, List.append_assoc]
  rfl

/-- `purge_messages` raises an exception if and only if a severe message is queued. -/
theorem purgedExceptions_eq_nil : purgedExceptions world = [] ↔ hasSevere world = false := by
  simp [purgedExceptions, severeExceptions, hasSevere, List.filter_eq_nil_iff, and_comm]

end Rules

/-! ### Checking -/

/-- What `do_check_exception` tests: the only server message is one that may be ignored. -/
def onlyIgnorable (world : World σ) : Bool :=
  world.serverMsgs.any isIgnorable && world.serverMsgs.length = 1

theorem wp_doCheckException (err fmt : String) {onUnit : Unit → World σ → Prop}
    {onThrow : Error → World σ → Prop} {onHalt : Halt → World σ → Prop} :
    wp (doCheckException true err fmt) onUnit onThrow onHalt world ↔
      if onlyIgnorable world then onUnit () world.discarded
      else onThrow ⟨err, errorText fmt world⟩ world.discarded := by
  rw [doCheckException, wp_bind, wp_get, wp_bind, wp_discardMessages]
  simp only [Bool.not_true, Bool.false_or, Bool.true_and]
  show wp (if onlyIgnorable world = true then pure ()
    else Program.throw (Error.mk err (errorText fmt world)))
    _ _ _ world.discarded ↔ _
  by_cases only : onlyIgnorable world = true
  · rw [if_pos only, if_pos only]
    rfl
  · rw [if_neg only, if_neg only]
    rfl

/-- `do_check_exception` is silent if and only if a message that may be ignored is queued and every
severe message is one. -/
def IgnoresAlone (err fmt : String) (world : World σ) : Prop :=
  (∃ after, doCheckException true err fmt world = (.ok (), after)) ↔
    (∃ msg ∈ world.serverMsgs, isIgnorable msg = true) ∧
      (∀ msg ∈ world.clientMsgs, msg.severity ≤ 10) ∧
      ∀ msg ∈ world.serverMsgs, 10 < msg.severity → isIgnorable msg = true

theorem doCheckException_returns_iff (err fmt : String) :
    (∃ after, doCheckException true err fmt world = (.ok (), after)) ↔
    onlyIgnorable world = true := by
  have returns := @returns_iff_wp σ Unit (doCheckException true err fmt) world
  rw [wp_doCheckException] at returns
  constructor
  · rintro ⟨after, ran⟩
    simpa using returns.mp ⟨(), after, ran⟩
  · intro only
    obtain ⟨⟨⟩, after, ran⟩ := returns.mpr (by simpa using only)
    exact ⟨after, ran⟩

/-- `do_check_exception` keeps to its rule if and only if no message that may be ignored is queued,
or it is the only server message and no client message is severe, or there are other server messages
and one that may not be ignored is severe. -/
theorem ignoresAlone_iff (err fmt : String) (world : World σ) :
    IgnoresAlone err fmt world ↔
      (∀ msg ∈ world.serverMsgs, isIgnorable msg = false) ∨
      (world.serverMsgs.length = 1 ∧ ∀ msg ∈ world.clientMsgs, msg.severity ≤ 10) ∨
      1 < world.serverMsgs.length ∧ ((∃ msg ∈ world.clientMsgs, 10 < msg.severity) ∨
        ∃ msg ∈ world.serverMsgs, 10 < msg.severity ∧ isIgnorable msg = false) := by
  rw [IgnoresAlone, doCheckException_returns_iff, onlyIgnorable, Bool.and_eq_true,
    List.any_eq_true, decide_eq_true_eq]
  by_cases present : ∃ msg ∈ world.serverMsgs, isIgnorable msg = true
  · obtain ⟨ignorable, member, ignored⟩ := present
    have notAll : ¬ ∀ msg ∈ world.serverMsgs, isIgnorable msg = false := fun all =>
      Bool.false_ne_true ((all ignorable member).symm.trans ignored)
    rcases Nat.lt_or_eq_of_le (List.length_pos_of_mem member) with several | one
    · have notOne : world.serverMsgs.length ≠ 1 := Nat.ne_of_gt several
      simp only [notAll, notOne, several, false_or, and_false, false_and, true_and, false_iff,
        not_and_or, not_forall, not_le, Bool.not_eq_true, exists_prop]
      exact ⟨fun rule => rule.resolve_left (fun none => none ⟨ignorable, member, ignored⟩), .inr⟩
    · obtain ⟨single, isSingle⟩ := List.length_eq_one_iff.mp one.symm
      rw [isSingle, List.mem_singleton] at member
      subst member
      simp [isSingle, ignored]
  · have none : ∀ msg ∈ world.serverMsgs, isIgnorable msg = false := by simpa using present
    exact ⟨fun _ => .inl none, fun _ => ⟨fun both => absurd both.1 present,
      fun both => absurd both.1 present⟩⟩

/-- A commit without a transaction, which the server reports with one message. -/
def noTransaction : ServerMsg := ⟨3902, 16, 1, 1, "", "no transaction"⟩

/-- A severe client message is not reported where the server sent one that may be ignored. -/
theorem not_ignoresAlone_client :
    ¬ ∀ (err fmt : String) (world : World Unit), IgnoresAlone err fmt world := by
  intro ignores
  have silent := (ignores "" "" { World.opened () with
    clientMsgs := [⟨1, 16, "connection lost", 0, ""⟩]
    serverMsgs := [noTransaction] }).mp ((doCheckException_returns_iff _ _).mpr rfl)
  exact absurd (silent.2.1 _ List.mem_cons_self) (by decide)

end Sybase
