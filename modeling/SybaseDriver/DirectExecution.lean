/-
This file proves what a run of `direct_execute` can do, call by call: it is taken
apart once, and what is said of its errors and of the results it reads follows
from the cases. The set up is checked call by call, but the loop that drains the
results ends on any answer, so a run in which the results stop short is reported
as a success.
-/

import SybaseDriver.Connection
import SybaseDriver.Messages

namespace Sybase

open Program Connection

variable {σ : Type} {cfg : Config σ} {handle : Handle} {sqlText : Text}
  {world after : World σ} {calls : List CtCall}

/-! ### The calls of the set up -/

/-- Calls that all succeed. -/
inductive Succeeds (cfg : Config σ) : List CtCall → World σ → World σ → Prop where
  | nil {world : World σ} : Succeeds cfg [] world world
  | cons {call : CtCall} {calls : List CtCall} {world after : World σ}
      (succeeded : (cfg.lib.reply call world.env).1.code = .succeed)
      (later : Succeeds cfg calls (world.answered cfg.lib .directExecute call) after) :
      Succeeds cfg (call :: calls) world after

/-- Calls of which one fails; those after it are not made. -/
inductive Fails (cfg : Config σ) : List CtCall → World σ → World σ → Prop where
  | here {call : CtCall} {calls : List CtCall} {world : World σ}
      (failed : (cfg.lib.reply call world.env).1.code ≠ .succeed) :
      Fails cfg (call :: calls) world (world.answered cfg.lib .directExecute call)
  | later {call : CtCall} {calls : List CtCall} {world after : World σ}
      (succeeded : (cfg.lib.reply call world.env).1.code = .succeed)
      (later : Fails cfg calls (world.answered cfg.lib .directExecute call) after) :
      Fails cfg (call :: calls) world after

/-- Passes of the loop that drains the results. -/
inductive Drains (cfg : Config σ) (handle : Handle) : World σ → World σ → Prop where
  | refl {world : World σ} : Drains cfg handle world world
  | step {world after : World σ}
      (succeeded : (cfg.lib.reply (.results (some handle)) world.env).1.code = .succeed)
      (later : Drains cfg handle (world.answered cfg.lib .drain (.results (some handle))) after) :
      Drains cfg handle world after

/-- The drain ends on the first answer that is no success. -/
theorem wp_drain {onUnit : Unit → World σ → Prop} {onThrow : Error → World σ → Prop}
    {onHalt : Halt → World σ → Prop}
    (ends : ∀ middle, Drains cfg handle world middle →
      (cfg.lib.reply (.results (some handle)) middle.env).1.code ≠ .succeed →
      onUnit () (middle.answered cfg.lib .drain (.results (some handle))))
    (bounded : ∀ middle, Drains cfg handle world middle → onHalt .exhausted middle) :
    wp (drain cfg handle) onUnit onThrow onHalt world := by
  rw [drain]
  generalize cfg.fuel = bound
  induction bound generalizing world with
  | zero => exact bounded world .refl
  | succ bound inductionHypothesis =>
    rw [wp_iterate_succ, wp_bind, wp_ctCallAt]
    split
    · rename_i succeeded
      exact inductionHypothesis (fun middle later => ends middle (.step succeeded later))
        fun middle later => bounded middle (.step succeeded later)
    · rename_i failed
      exact ends world .refl failed

/-! ### A run -/

/-- The calls that `direct_execute` checks one by one. -/
def directCalls (handle : Handle) (sqlText : Text) : List CtCall :=
  [.command (some handle) sqlText, .send (some handle), .results (some handle)]

/-- The state after the command of a run is allocated. -/
def World.directAllocated (cfg : Config σ) (world : World σ) : World σ :=
  { world.answered cfg.lib .directExecute (.cmdAlloc world.nextHandle) with
    nextHandle := world.nextHandle + 1 }

/-- The state after the results of a run were announced and accepted. -/
def World.accepted (cfg : Config σ) (handle : Handle) (sent : World σ) : World σ :=
  let announced := sent.answered cfg.lib .directExecute (.results (some handle))
  if (cfg.lib.reply (.results (some handle)) sent.env).1.resultType = .cmdSucceed then announced
  else announced.discarded

/-- The state after a run is given up: the messages are thrown as an error, the command is canceled
and dropped. -/
def World.abandoned (cfg : Config σ) (handle : Handle) (failed : World σ) : World σ :=
  (failed.discarded.answered cfg.lib .directExecute (.cancel (some handle))).answered cfg.lib
    .directExecute (.cmdDrop (some handle))

/-- The results of a run are of the type that is expected, or the message the server sent for them
may be ignored. -/
def AcceptsResults (cfg : Config σ) (handle : Handle) (sent : World σ) : Prop :=
  (cfg.lib.reply (.results (some handle)) sent.env).1.code = .succeed ∧
    ((cfg.lib.reply (.results (some handle)) sent.env).1.resultType = .cmdSucceed ∨
      onlyIgnorable (sent.answered cfg.lib .directExecute (.results (some handle))) = true)

/-- A run that stops before its results are drained: a call fails, or the results are not
accepted. -/
inductive StopsShort (cfg : Config σ) (handle : Handle) (sqlText : Text) (world : World σ) :
    World σ → Prop where
  | failed {stopped : World σ} (fails : Fails cfg (directCalls handle sqlText) world stopped) :
      StopsShort cfg handle sqlText world stopped
  | refused {sent : World σ}
      (succeeds : Succeeds cfg [.command (some handle) sqlText, .send (some handle)] world sent)
      (announced : (cfg.lib.reply (.results (some handle)) sent.env).1.code = .succeed)
      (refuses : ¬ AcceptsResults cfg handle sent) :
      StopsShort cfg handle sqlText world
        (sent.answered cfg.lib .directExecute (.results (some handle)))

/-- A run whose results are accepted, up to a state in which the drain goes on. -/
def ReadsResults (cfg : Config σ) (handle : Handle) (sqlText : Text) (world middle : World σ) :
    Prop :=
  ∃ sent, Succeeds cfg [.command (some handle) sqlText, .send (some handle)] world sent ∧
    AcceptsResults cfg handle sent ∧ Drains cfg handle (sent.accepted cfg handle) middle

/-- The part of a run in which the canceller is armed. -/
theorem wp_directExecuteSend {onUnit : Unit → World σ → Prop} {onThrow : Error → World σ → Prop}
    {onHalt : Halt → World σ → Prop}
    (stops : ∀ stopped error, StopsShort cfg handle sqlText world stopped →
      onThrow error stopped.discarded)
    (ends : ∀ middle, ReadsResults cfg handle sqlText world middle →
      (cfg.lib.reply (.results (some handle)) middle.env).1.code ≠ .succeed →
      onUnit () (middle.answered cfg.lib .drain (.results (some handle))))
    (bounded : ∀ middle, ReadsResults cfg handle sqlText world middle → onHalt .exhausted middle) :
    wp (directExecuteSend cfg handle sqlText) onUnit onThrow onHalt world := by
  rw [directExecuteSend, wp_bind, wp_ctCallAt, wp_bind, wp_when]
  refine ⟨fun failed => wp_doException _ _ |>.mpr (stops _ _ (.failed (.here failed))),
    fun commanded => ?_⟩
  have commanded := not_not.mp commanded
  rw [wp_bind, wp_ctCallAt, wp_bind, wp_when]
  refine ⟨fun failed => wp_doException _ _ |>.mpr
    (stops _ _ (.failed (.later commanded (.here failed)))), fun sent => ?_⟩
  have sent := not_not.mp sent
  rw [wp_bind, wp_ctCallAt, wp_bind, wp_when]
  refine ⟨fun failed => wp_doException _ _ |>.mpr
    (stops _ _ (.failed (.later commanded (.later sent (.here failed))))), fun announced => ?_⟩
  have announced := not_not.mp announced
  have succeeds : Succeeds cfg [.command (some handle) sqlText, .send (some handle)] world _ :=
    .cons commanded (.cons sent .nil)
  have drained (accepts : AcceptsResults cfg handle _) :
      wp (drain cfg handle) onUnit onThrow onHalt (World.accepted cfg handle _) :=
    wp_drain (fun middle drains => ends middle ⟨_, succeeds, accepts, drains⟩)
      fun middle drains => bounded middle ⟨_, succeeds, accepts, drains⟩
  rw [World.accepted] at drained
  rw [wp_bind, wp_when]
  constructor
  · intro unexpected
    rw [if_neg unexpected] at drained
    rw [wp_doCheckException]
    split
    · rename_i ignorable
      exact drained ⟨announced, .inr ignorable⟩
    · rename_i refuses
      exact stops _ _ (.refused succeeds announced fun accepts =>
        accepts.2.elim unexpected refuses)
  · intro expected
    have expected := not_not.mp expected
    rw [if_pos expected] at drained
    exact drained ⟨announced, .inl expected⟩

/-- The runs of `direct_execute`, with their endings. -/
inductive DirectRun (cfg : Config σ) (sqlText : Text) (world : World σ) :
    Outcome Error Halt Int → World σ → Prop where
  | asserted (empty : sqlText.isEmpty = true) :
      DirectRun cfg sqlText world (.halt (.assertion .other)) world
  | unallocated {error : Error}
      (failed : (cfg.lib.reply (.cmdAlloc world.nextHandle) world.env).1.code ≠ .succeed) :
      DirectRun cfg sqlText world (.throw error) (world.directAllocated cfg).discarded
  | stopped {error : Error} {stopped : World σ}
      (allocated : (cfg.lib.reply (.cmdAlloc world.nextHandle) world.env).1.code = .succeed)
      (stops : StopsShort cfg world.nextHandle sqlText (world.directAllocated cfg) stopped) :
      DirectRun cfg sqlText world (.throw error) (stopped.abandoned cfg world.nextHandle)
  | exhausted {middle : World σ}
      (allocated : (cfg.lib.reply (.cmdAlloc world.nextHandle) world.env).1.code = .succeed)
      (reads : ReadsResults cfg world.nextHandle sqlText (world.directAllocated cfg) middle) :
      DirectRun cfg sqlText world (.halt .exhausted) middle
  | completed {middle : World σ}
      (allocated : (cfg.lib.reply (.cmdAlloc world.nextHandle) world.env).1.code = .succeed)
      (reads : ReadsResults cfg world.nextHandle sqlText (world.directAllocated cfg) middle)
      (ends : (cfg.lib.reply (.results (some world.nextHandle)) middle.env).1.code ≠ .succeed) :
      DirectRun cfg sqlText world
        (.ok (if hasSevere (middle.answered cfg.lib .drain
          (.results (some world.nextHandle))) then -1 else 0))
        ((middle.answered cfg.lib .drain (.results (some world.nextHandle))).purged.answered cfg.lib
          .directExecute (.cmdDrop (some world.nextHandle)))

/-- A run of `direct_execute` is one of these. -/
theorem directRun_of_run {outcome : Outcome Error Halt Int}
    (ran : directExecute cfg sqlText world = (outcome, after)) :
    DirectRun cfg sqlText world outcome after := by
  have run : wp (directExecute cfg sqlText)
      (fun value after => DirectRun cfg sqlText world (.ok value) after)
      (fun error after => DirectRun cfg sqlText world (.throw error) after)
      (fun halted after => DirectRun cfg sqlText world (.halt halted) after) world := by
    rw [directExecute, wp_bind, wp_assert]
    refine ⟨fun asserted => .asserted ?_, fun _ => ?_⟩
    · rw [Bool.and_eq_true, Bool.not_not] at asserted
      exact asserted.2
    rw [wp_bind, wp_get, wp_bind, wp_ctCallAt, wp_bind, wp_modify, wp_bind, wp_when]
    refine ⟨fun failed => wp_doException _ _ |>.mpr (.unallocated failed), fun allocated => ?_⟩
    have allocated := not_not.mp allocated
    rw [wp_ensure, wp_bind, wp_onThrow]
    refine wp_directExecuteSend (fun stopped error stops => ?_) (fun middle reads ends => ?_)
      fun middle reads => .exhausted allocated reads
    · rw [wp_bind, wp_ctCallAt, wp_pure, wp_bind, wp_ctCallAt, wp_pure]
      exact .stopped allocated stops
    · rw [wp_purgeMessages, wp_bind, wp_ctCallAt, wp_pure]
      exact .completed allocated reads ends
  rw [wp, ran] at run
  cases outcome <;> exact run

/-! ### Reading to the end -/

/-- An entry of the log that is a call with a certain answer. -/
def Entry.Makes (entry : Entry) (call : CtCall) (code : Retcode) : Prop :=
  ∃ reply, entry.event = .call call reply ∧ reply.code = code

/-- The calls by which a command is sent. -/
def CtCall.setsUp : CtCall → Bool
  | .cmdAlloc _ | .command _ _ | .send _ => true
  | _ => false

/-- A run of `direct_execute` with certain calls, the newest first, reads its results to the end: it
succeeds only if the command was sent and `CS_END_RESULTS` reached, and where `ct_results` answers
anything else but a success, an error is reported and the results are canceled before the command is
dropped. -/
structure ReadsToEnd (handle : Handle) (outcome : Outcome Error Halt Int) (new : List Entry) :
    Prop where
  succeeds : outcome = .ok 0 →
    (∀ entry ∈ new, ∀ call code, entry.Makes call code → call.setsUp = true → code = .succeed) ∧
    (∃ entry ∈ new, entry.Makes (.send (some handle)) .succeed) ∧
    ∃ entry ∈ new, entry.Makes (.results (some handle)) .endResults
  stops : ∀ entry ∈ new, ∀ code, entry.Makes (.results (some handle)) code → code ≠ .succeed →
    code ≠ .endResults → outcome ≠ .ok 0 ∧ ∃ dropped canceled dropCode cancelCode,
      dropped.Makes (.cmdDrop (some handle)) dropCode ∧
      canceled.Makes (.cancel (some handle)) cancelCode ∧ [dropped, canceled, entry].Sublist new

/-- The answers while the results are drained are successes, up to `CS_END_RESULTS`. -/
def DrainsToEnd (handle : Handle) (new : List Entry) : Prop :=
  ∀ entry ∈ new, entry.site = .drain → ∀ code, entry.Makes (.results (some handle)) code →
    code = .succeed ∨ code = .endResults

section Logs

/-- The entry that a call makes in the log. -/
def World.entry (world : World σ) (lib : CtLib σ) (site : Site) (call : CtCall) : Entry :=
  ⟨world.depth, site, .call call (lib.reply call world.env).1⟩

theorem answered_log_entry (site : Site) (call : CtCall) :
    (world.answered cfg.lib site call).log = world.entry cfg.lib site call :: world.log := rfl

theorem World.entry_makes (site : Site) (call : CtCall) :
    (world.entry cfg.lib site call).Makes call (cfg.lib.reply call world.env).1.code :=
  ⟨_, rfl, rfl⟩

/-- Entries of calls made by `direct_execute` itself that succeeded. -/
def AreSuccesses (calls : List CtCall) (new : List Entry) : Prop :=
  ∀ entry ∈ new, entry.site = .directExecute ∧ ∃ call ∈ calls, entry.Makes call .succeed

theorem Entry.Makes.unique {entry : Entry} {call call' : CtCall} {code code' : Retcode}
    (makes : entry.Makes call code) (makes' : entry.Makes call' code') :
    call = call' ∧ code = code' := by
  obtain ⟨reply, event, rfl⟩ := makes
  obtain ⟨reply', event', rfl⟩ := makes'
  cases event.symm.trans event'
  exact ⟨rfl, rfl⟩

theorem Succeeds.log (succeeds : Succeeds cfg calls world after) :
    ∃ new, after.log = new ++ world.log ∧ AreSuccesses calls new ∧
      ∀ call ∈ calls, ∃ entry ∈ new, entry.Makes call .succeed := by
  induction succeeds with
  | nil => exact ⟨[], rfl, by simp [AreSuccesses], by simp⟩
  | @cons call calls world after succeeded later inductionHypothesis =>
    obtain ⟨new, log, successes, all⟩ := inductionHypothesis
    refine ⟨new ++ [world.entry cfg.lib .directExecute call], ?_, ?_, ?_⟩
    · rw [log, answered_log_entry, List.append_assoc, List.singleton_append]
    · intro entry member
      rcases List.mem_append.mp member with inLater | isFirst
      · obtain ⟨site, call', member', makes⟩ := successes entry inLater
        exact ⟨site, call', List.mem_cons_of_mem _ member', makes⟩
      · obtain rfl := List.mem_singleton.mp isFirst
        exact ⟨rfl, call, List.mem_cons_self, _, rfl, succeeded⟩
    · intro call' member
      rcases List.mem_cons.mp member with rfl | inRest
      · exact ⟨_, List.mem_append_right _ List.mem_cons_self, _, rfl, succeeded⟩
      · obtain ⟨entry, member', makes⟩ := all call' inRest
        exact ⟨entry, List.mem_append_left _ member', makes⟩

theorem Fails.log (fails : Fails cfg calls world after) :
    ∃ entry new, after.log = entry :: new ++ world.log ∧ AreSuccesses calls new ∧
      entry.site = .directExecute ∧ ∃ call ∈ calls, ∃ code ≠ .succeed, entry.Makes call code := by
  induction fails with
  | @here call calls world failed =>
    exact ⟨_, [],
      rfl, by simp [AreSuccesses], rfl, call, List.mem_cons_self, _, failed, _, rfl, rfl⟩
  | @later call calls world after succeeded later inductionHypothesis =>
    obtain ⟨entry, new, log, successes, site, failing, member, code, failed, makes⟩ :=
      inductionHypothesis
    refine ⟨entry, new ++ [world.entry cfg.lib .directExecute call], ?_, ?_, site, failing,
      List.mem_cons_of_mem _ member, code, failed, makes⟩
    · rw [log, answered_log_entry, List.cons_append, List.cons_append, List.append_assoc,
        List.singleton_append]
    · intro other member
      rcases List.mem_append.mp member with inLater | isFirst
      · obtain ⟨site, call', member', makes⟩ := successes other inLater
        exact ⟨site, call', List.mem_cons_of_mem _ member', makes⟩
      · obtain rfl := List.mem_singleton.mp isFirst
        exact ⟨rfl, call, List.mem_cons_self, _, rfl, succeeded⟩

theorem Drains.log (drains : Drains cfg handle world after) :
    ∃ new, after.log = new ++ world.log ∧ ∀ entry ∈ new, entry.site = .drain ∧
      entry.Makes (.results (some handle)) .succeed := by
  induction drains with
  | refl => exact ⟨[], rfl, by simp⟩
  | @step world after succeeded later inductionHypothesis =>
    obtain ⟨new, log, successes⟩ := inductionHypothesis
    refine ⟨new ++ [world.entry cfg.lib .drain (.results (some handle))], ?_, ?_⟩
    · rw [log, answered_log_entry, List.append_assoc, List.singleton_append]
    · intro entry member
      rcases List.mem_append.mp member with inLater | isFirst
      · exact successes entry inLater
      · obtain rfl := List.mem_singleton.mp isFirst
        exact ⟨rfl, _, rfl, succeeded⟩

theorem StopsShort.log {stopped : World σ} (stops : StopsShort cfg handle sqlText world stopped) :
    ∃ entry new, stopped.log = entry :: new ++ world.log ∧
      AreSuccesses (directCalls handle sqlText) new ∧ entry.site = .directExecute ∧
      ∃ call ∈ directCalls handle sqlText, ∃ code, entry.Makes call code := by
  cases stops with
  | failed fails =>
    obtain ⟨entry, new, log, successes, site, call, member, code, -, makes⟩ := fails.log
    exact ⟨entry, new, log, successes, site, call, member, code, makes⟩
  | @refused sent succeeds announced refuses =>
    obtain ⟨new, log, successes, -⟩ := succeeds.log
    refine ⟨sent.entry cfg.lib .directExecute (.results (some handle)), new, ?_, ?_, rfl,
      .results (some handle), by simp [directCalls], _, World.entry_makes _ _⟩
    · rw [answered_log_entry, log, List.cons_append]
    · intro entry member
      obtain ⟨site, call, inCalls, makes⟩ := successes entry member
      exact ⟨site, call, List.mem_append_left [CtCall.results (some handle)] inCalls, makes⟩

theorem ReadsResults.log {middle : World σ} (reads : ReadsResults cfg handle sqlText world middle) :
    ∃ drained sent, middle.log = drained ++ sent ++ world.log ∧
      (∀ entry ∈ drained, entry.site = .drain ∧ entry.Makes (.results (some handle)) .succeed) ∧
      AreSuccesses (directCalls handle sqlText) sent ∧
      ∃ entry ∈ sent, entry.Makes (.send (some handle)) .succeed := by
  obtain ⟨sent, succeeds, accepts, drains⟩ := reads
  obtain ⟨new, log, successes, all⟩ := succeeds.log
  obtain ⟨drained, drainedLog, areDrained⟩ := drains.log
  have accepted : (sent.accepted cfg handle).log =
      sent.entry cfg.lib .directExecute (.results (some handle)) :: new ++ world.log := by
    rw [World.accepted, apply_ite World.log, World.discarded, ite_self, answered_log_entry, log,
      List.cons_append]
  refine ⟨drained, sent.entry cfg.lib .directExecute (.results (some handle)) :: new, ?_,
    areDrained, ?_, ?_⟩
  · rw [drainedLog, accepted, List.append_assoc]
  · intro entry member
    rcases List.mem_cons.mp member with rfl | inNew
    · exact ⟨rfl, .results (some handle), by simp [directCalls], _, rfl, accepts.1⟩
    · obtain ⟨site, call, inCalls, makes⟩ := successes entry inNew
      exact ⟨site, call, List.mem_append_left [CtCall.results (some handle)] inCalls, makes⟩
  · obtain ⟨entry, member, makes⟩ := all (.send (some handle)) (by simp)
    exact ⟨entry, List.mem_cons_of_mem _ member, makes⟩

/-- The calls of a run that stops. -/
theorem StopsShort.abandoned_log {stopped : World σ}
    (stops : StopsShort cfg handle sqlText (world.directAllocated cfg) stopped) :
    ∃ dropped canceled entry new, (stopped.abandoned cfg handle).log =
        dropped :: canceled :: entry :: new ++
          world.entry cfg.lib .directExecute (.cmdAlloc world.nextHandle) :: world.log ∧
      (∃ code, dropped.Makes (.cmdDrop (some handle)) code) ∧ dropped.site = .directExecute ∧
      (∃ code, canceled.Makes (.cancel (some handle)) code) ∧ canceled.site = .directExecute ∧
      entry.site = .directExecute ∧ AreSuccesses (directCalls handle sqlText) new := by
  obtain ⟨entry, new, log, successes, site, -⟩ := stops.log
  let canceling := stopped.discarded
  let dropping := canceling.answered cfg.lib .directExecute (.cancel (some handle))
  refine ⟨dropping.entry cfg.lib .directExecute (.cmdDrop (some handle)),
    canceling.entry cfg.lib .directExecute (.cancel (some handle)), entry, new, ?_,
    ⟨_, World.entry_makes _ _⟩, rfl, ⟨_, World.entry_makes _ _⟩, rfl, site, successes⟩
  show _ :: _ :: stopped.log = _
  rw [log]
  rfl

/-- The calls of a run whose results are drained. -/
theorem ReadsResults.completed_log {middle : World σ}
    (reads : ReadsResults cfg handle sqlText (world.directAllocated cfg) middle) :
    ∃ dropped drained sent,
      ((middle.answered cfg.lib .drain (.results (some handle))).purged.answered cfg.lib
          .directExecute (.cmdDrop (some handle))).log =
        dropped :: middle.entry cfg.lib .drain (.results (some handle)) :: drained ++ sent ++
          world.entry cfg.lib .directExecute (.cmdAlloc world.nextHandle) :: world.log ∧
      (∃ code, dropped.Makes (.cmdDrop (some handle)) code) ∧ dropped.site = .directExecute ∧
      (∀ entry ∈ drained, entry.site = .drain ∧ entry.Makes (.results (some handle)) .succeed) ∧
      AreSuccesses (directCalls handle sqlText) sent ∧
      ∃ entry ∈ sent, entry.Makes (.send (some handle)) .succeed := by
  obtain ⟨drained, sent, log, areDrained, successes, sends⟩ := reads.log
  let dropping := (middle.answered cfg.lib .drain (.results (some handle))).purged
  refine ⟨dropping.entry cfg.lib .directExecute (.cmdDrop (some handle)), drained, sent, ?_,
    ⟨_, World.entry_makes _ _⟩, rfl, areDrained, successes, sends⟩
  show _ :: _ :: middle.log = _
  rw [log]
  rfl

/-- A success of the set up is no answer with which a reading stops. -/
theorem AreSuccesses.code_eq {new : List Entry} (successes : AreSuccesses calls new) {entry : Entry}
    (member : entry ∈ new) {call : CtCall} {code : Retcode} (makes : entry.Makes call code) :
    code = .succeed := by
  obtain ⟨-, succeeded, -, succeeds⟩ := successes entry member
  exact (makes.unique succeeds).2

/-- A run that reports an error reads to the end, if each answer that stops a reading is followed by
a cancel and a drop. -/
theorem ReadsToEnd.of_ne {outcome : Outcome Error Halt Int} {new : List Entry}
    (failed : outcome ≠ .ok 0)
    (canceled : ∀ entry ∈ new, ∀ code, entry.Makes (.results (some handle)) code → code ≠ .succeed →
      code ≠ .endResults → ∃ dropped canceled dropCode cancelCode,
        dropped.Makes (.cmdDrop (some handle)) dropCode ∧
        canceled.Makes (.cancel (some handle)) cancelCode ∧
        [dropped, canceled, entry].Sublist new) :
    ReadsToEnd handle outcome new where
  succeeds isOk := absurd isOk failed
  stops entry member code makes unsuccessful unfinished :=
    ⟨failed, canceled entry member code makes unsuccessful unfinished⟩

/-- A run that stops before its results are drained reads to the end, and drains none. -/
theorem StopsShort.reads_iff {stopped : World σ} {outcome : Outcome Error Halt Int}
    {new : List Entry} (stops : StopsShort cfg handle sqlText (world.directAllocated cfg) stopped)
    (failed : outcome ≠ .ok 0) (isNew : (stopped.abandoned cfg handle).log = new ++ world.log) :
    ReadsToEnd handle outcome new ↔ DrainsToEnd handle new := by
  obtain ⟨dropped, canceled, entry, rest, log, ⟨dropCode, drops⟩, dropSite, ⟨cancelCode, cancels⟩,
    cancelSite, site, successes⟩ := stops.abandoned_log
  obtain rfl : new = dropped :: canceled :: entry :: (rest ++
      [world.entry cfg.lib .directExecute (.cmdAlloc world.nextHandle)]) :=
    List.append_cancel_right (isNew.symm.trans (by rw [log]; simp))
  refine iff_of_true ?_ ?_
  · refine .of_ne failed fun other member code makes unsuccessful _ => ?_
    simp only [List.mem_cons, List.mem_append, List.not_mem_nil, or_false] at member
    rcases member with rfl | rfl | rfl | inRest | rfl
    · exact absurd (makes.unique drops).1 (by simp)
    · exact absurd (makes.unique cancels).1 (by simp)
    · exact ⟨dropped, canceled, dropCode, cancelCode, drops, cancels, by simp⟩
    · exact absurd (successes.code_eq inRest makes) unsuccessful
    · exact absurd (makes.unique (World.entry_makes _ _)).1 (by simp)
  · intro other member drained
    simp only [List.mem_cons, List.mem_append, List.not_mem_nil, or_false] at member
    rcases member with rfl | rfl | rfl | inRest | rfl
    · exact absurd (drained.symm.trans dropSite) (by simp)
    · exact absurd (drained.symm.trans cancelSite) (by simp)
    · exact absurd (drained.symm.trans site) (by simp)
    · exact absurd (drained.symm.trans (successes other inRest).1) (by simp)
    · exact absurd drained (by simp [World.entry])

/-- A run whose drain goes on has only seen successes. -/
theorem ReadsResults.exhausted_iff {middle : World σ} {outcome : Outcome Error Halt Int}
    {new : List Entry} (reads : ReadsResults cfg handle sqlText (world.directAllocated cfg) middle)
    (failed : outcome ≠ .ok 0) (isNew : middle.log = new ++ world.log) :
    ReadsToEnd handle outcome new ↔ DrainsToEnd handle new := by
  obtain ⟨drained, sent, log, areDrained, successes, -⟩ := reads.log
  obtain rfl : new = drained ++ (sent ++
      [world.entry cfg.lib .directExecute (.cmdAlloc world.nextHandle)]) := by
    refine List.append_cancel_right (isNew.symm.trans ?_)
    rw [log, List.append_assoc, List.append_assoc, List.append_assoc, List.singleton_append]
    rfl
  have successful {entry : Entry} (member : entry ∈ drained ++ (sent ++
      [world.entry cfg.lib .directExecute (.cmdAlloc world.nextHandle)])) {code : Retcode}
      (makes : entry.Makes (.results (some handle)) code) : code = .succeed := by
    simp only [List.mem_cons, List.mem_append, List.not_mem_nil, or_false] at member
    rcases member with inDrained | inSent | rfl
    · exact (makes.unique (areDrained _ inDrained).2).2
    · exact successes.code_eq inSent makes
    · exact absurd (makes.unique (World.entry_makes _ _)).1 (by simp)
  refine iff_of_true ?_ fun entry member _ code makes => .inl (successful member makes)
  exact .of_ne failed fun entry member code makes unsuccessful _ =>
    absurd (successful member makes) unsuccessful

/-- A run whose results are drained reads to the end if and only if the drain does. -/
theorem ReadsResults.reads_iff {middle : World σ} {value : Int} {new : List Entry}
    (allocated : (cfg.lib.reply (.cmdAlloc world.nextHandle) world.env).1.code = .succeed)
    (reads : ReadsResults cfg handle sqlText (world.directAllocated cfg) middle)
    (ends : (cfg.lib.reply (.results (some handle)) middle.env).1.code ≠ .succeed)
    (isNew : ((middle.answered cfg.lib .drain (.results (some handle))).purged.answered cfg.lib
      .directExecute (.cmdDrop (some handle))).log = new ++ world.log) :
    ReadsToEnd handle (.ok value) new ↔ DrainsToEnd handle new := by
  obtain ⟨dropped, drained, sent, log, ⟨dropCode, drops⟩, dropSite, areDrained, successes, sends⟩ :=
    reads.completed_log
  obtain rfl : new = dropped :: middle.entry cfg.lib .drain (.results (some handle)) :: (drained ++
      (sent ++ [world.entry cfg.lib .directExecute (.cmdAlloc world.nextHandle)])) :=
    List.append_cancel_right (isNew.symm.trans (by rw [log]; simp))
  have last := @World.entry_makes _ cfg middle .drain (.results (some handle))
  constructor
  · intro toEnd entry member site code makes
    by_contra stops
    obtain ⟨unsuccessful, unfinished⟩ := not_or.mp stops
    obtain ⟨-, _, canceled, _, cancelCode, -, cancels, sublist⟩ :=
      toEnd.stops entry member code makes unsuccessful unfinished
    -- no entry of the run is a cancel
    have member : canceled ∈ _ := sublist.subset (by simp : canceled ∈ [_, canceled, entry])
    simp only [List.mem_cons, List.mem_append, List.not_mem_nil, or_false] at member
    rcases member with rfl | rfl | inDrained | inSent | rfl
    · exact absurd (cancels.unique drops).1 (by simp)
    · exact absurd (cancels.unique last).1 (by simp)
    · exact absurd (cancels.unique (areDrained _ inDrained).2).1 (by simp)
    · obtain ⟨-, call, inCalls, makes⟩ := successes _ inSent
      rw [← (cancels.unique makes).1] at inCalls
      simp [directCalls] at inCalls
    · exact absurd (cancels.unique (World.entry_makes _ _)).1 (by simp)
  · intro toEnd
    have ended := (toEnd _ (by simp) rfl _ last).resolve_left ends
    refine ⟨fun _ => ⟨?_, ?_, ?_⟩, ?_⟩
    · intro entry member call code makes setsUp
      simp only [List.mem_cons, List.mem_append, List.not_mem_nil, or_false] at member
      rcases member with rfl | rfl | inDrained | inSent | rfl
      · rw [(makes.unique drops).1] at setsUp
        exact absurd setsUp (by simp [CtCall.setsUp])
      · rw [(makes.unique last).1] at setsUp
        exact absurd setsUp (by simp [CtCall.setsUp])
      · exact (makes.unique (areDrained _ inDrained).2).2
      · exact successes.code_eq inSent makes
      · exact (makes.unique (World.entry_makes _ _)).2.trans allocated
    · obtain ⟨entry, member, makes⟩ := sends
      exact ⟨entry, by simp [member], makes⟩
    · exact ⟨_, by simp, ended ▸ last⟩
    · intro entry member code makes unsuccessful unfinished
      simp only [List.mem_cons, List.mem_append, List.not_mem_nil, or_false] at member
      rcases member with rfl | rfl | inDrained | inSent | rfl
      · exact absurd (makes.unique drops).1 (by simp)
      · exact absurd ((makes.unique last).2.trans ended) unfinished
      · exact absurd (makes.unique (areDrained _ inDrained).2).2 unsuccessful
      · exact absurd (successes.code_eq inSent makes) unsuccessful
      · exact absurd (makes.unique (World.entry_makes _ _)).1 (by simp)

end Logs

/-- `direct_execute` reads its results to the end if and only if the answers while it drains them
are successes, up to `CS_END_RESULTS`. -/
theorem readsToEnd_iff {outcome : Outcome Error Halt Int} {new : List Entry}
    (ran : directExecute cfg sqlText world = (outcome, after))
    (isNew : after.log = new ++ world.log) :
    ReadsToEnd world.nextHandle outcome new ↔ DrainsToEnd world.nextHandle new := by
  cases directRun_of_run ran with
  | asserted empty =>
    obtain rfl : new = [] := by simpa using isNew
    exact ⟨fun _ => by simp [DrainsToEnd], fun _ => .of_ne (by simp) (by simp)⟩
  | unallocated failed =>
    obtain rfl : new = [world.entry cfg.lib .directExecute (.cmdAlloc world.nextHandle)] :=
      List.append_cancel_right isNew.symm
    have isAlloc {code : Retcode} (makes : (world.entry cfg.lib .directExecute
        (.cmdAlloc world.nextHandle)).Makes (.results (some world.nextHandle)) code) : False :=
      absurd (makes.unique (World.entry_makes _ _)).1 (by simp)
    refine ⟨fun _ entry member _ code makes => ?_,
      fun _ => .of_ne (by simp) fun entry member code makes => ?_⟩
    · exact (isAlloc (List.mem_singleton.mp member ▸ makes)).elim
    · exact (isAlloc (List.mem_singleton.mp member ▸ makes)).elim
  | stopped allocated stops => exact stops.reads_iff (by simp) isNew
  | exhausted allocated reads => exact reads.exhausted_iff (by simp) isNew
  | completed allocated reads ends => exact reads.reads_iff allocated ends isNew

/-- The answers to a run whose results end after they were announced once. -/
def sampleDrained : List Reply :=
  [{}, {}, {}, { resultType := .cmdSucceed }, { code := .endResults }, {}]

/-- The answers to a run of which the server is lost after the results were announced once. -/
def sampleUndrained : List Reply :=
  [{}, {}, {}, { resultType := .cmdSucceed }, { code := .fail }, {}]

/-- A driver whose ct-lib gives certain answers. -/
def sampleDriver : Config (List Reply) := Config.sample (CtLib.scripted true) true 1

theorem readsToEnd_iff_drained : ∃ after,
    directExecute sampleDriver (text "commit") (World.opened sampleDrained) = (.ok 0, after) ∧
      (ReadsToEnd 0 (.ok 0) after.log ↔ DrainsToEnd 0 after.log) := by
  have ran : directExecute sampleDriver (text "commit") (World.opened sampleDrained) = (.ok 0, _) :=
    rfl
  exact ⟨_, ran, readsToEnd_iff ran (List.append_nil _).symm⟩

/-- A commit is reported as a success when the server is lost while its results are drained. -/
theorem not_readsToEnd_undrained : ∃ after,
    directExecute sampleDriver (text "commit") (World.opened sampleUndrained) = (.ok 0, after) ∧
      after.xsink = [] ∧ ¬ ReadsToEnd 0 (.ok 0) after.log := by
  refine ⟨_, rfl, rfl, fun toEnd => ?_⟩
  have stops := toEnd.stops ⟨0, .drain, .call (.results (some 0)) { code := .fail }⟩
    (List.mem_cons_of_mem _ List.mem_cons_self) .fail ⟨_, rfl, rfl⟩ (by decide) (by decide)
  exact stops.1 rfl

end Sybase
