/-
This file proves which methods of the driver return a code that agrees with the
exception sink. `exec` always does: it looks at the sink before it returns. Commit and
rollback do not where an error is thrown, since the wrapper that catches it returns 0,
and neither do the methods that prepare a statement where the text cannot be converted
or the statement registered before holds no command.
-/

import SybaseDriver.Boundary
import SybaseDriver.CommandLogic
import SybaseDriver.DirectExecution

namespace Sybase

open Program Connection

variable {σ : Type} {cfg : Config σ} {handle : Handle} {sqlText : Text} {statement : StatementId}
  {world after : World σ}

/-- The methods that return a code. -/
inductive CodeOp where
  | commit
  | rollback
  | prepare (statement : StatementId) (str : Text) (args : Option (List QoreValue))
  | prepareRaw (statement : StatementId) (str : Text)
  | bindPlaceholders (statement : StatementId) (l : List QoreValue)
  | exec (statement : StatementId)

/-- The program of a method that returns a code. -/
def CodeOp.run (cfg : Config σ) : CodeOp → Driver σ Int
  | commit => Datasource.sybaseCommit cfg
  | rollback => Datasource.sybaseRollback cfg
  | prepare statement str args => DBModuleWrap.prepare cfg statement str args
  | prepareRaw statement str => DBModuleWrap.prepareRaw cfg statement str
  | bindPlaceholders statement l => DBModuleWrap.bindPlaceholders cfg statement l
  | exec statement => DBModuleWrap.exec cfg statement

/-- A method returns 0 if and only if it leaves no exception in the sink. A method that throws does
not return 0. -/
def ReportsCode (method : Driver σ Int) (world : World σ) : Prop :=
  wp method (fun value after => value = 0 ↔ after.xsink = []) (fun _ after => after.xsink ≠ [])
    (fun _ _ => True) world

/-! ### Commit and rollback -/

/-- A direct execution is accepted: the calls up to the first `ct_results` succeed, and its results
are of the type that is expected or the message the server sent for them may be ignored. -/
def IsAccepted (cfg : Config σ) (sqlText : Text) (world : World σ) : Prop :=
  (cfg.lib.reply (.cmdAlloc world.nextHandle) world.env).1.code = .succeed ∧
    ∃ sent, Succeeds cfg [.command (some world.nextHandle) sqlText, .send (some world.nextHandle)]
      (world.directAllocated cfg) sent ∧ AcceptsResults cfg world.nextHandle sent

theorem Succeeds.xsink {calls : List CtCall} (succeeds : Succeeds cfg calls world after) :
    after.xsink = world.xsink := by
  induction succeeds with
  | nil => rfl
  | cons succeeded later inductionHypothesis => exact inductionHypothesis

theorem Drains.xsink (drains : Drains cfg handle world after) : after.xsink = world.xsink := by
  induction drains with
  | refl => rfl
  | step succeeded later inductionHypothesis => exact inductionHypothesis

theorem ReadsResults.xsink (reads : ReadsResults cfg handle sqlText world after) :
    after.xsink = world.xsink := by
  obtain ⟨sent, succeeds, -, drains⟩ := reads
  rw [drains.xsink, ← succeeds.xsink, World.accepted, apply_ite World.xsink, World.discarded,
    ite_self, answered_xsink]

/-- The states after calls that all succeed are the same. -/
theorem Succeeds.unique {calls : List CtCall} {after' : World σ}
    (succeeds : Succeeds cfg calls world after) (succeeds' : Succeeds cfg calls world after') :
    after = after' := by
  induction succeeds with
  | nil => cases succeeds'; rfl
  | cons succeeded later inductionHypothesis =>
    cases succeeds' with
    | cons succeeded' later' => exact inductionHypothesis later'

/-- Calls that all succeed do not fail. -/
theorem Fails.not_succeeds {calls : List CtCall} {failed : World σ}
    (fails : Fails cfg calls world failed) (succeeds : Succeeds cfg calls world after) : False := by
  induction fails with
  | here failed =>
    cases succeeds with
    | cons succeeded later => exact failed succeeded
  | later succeeded later inductionHypothesis =>
    cases succeeds with
    | cons succeeded' later' => exact inductionHypothesis later'

/-- A run that is accepted does not stop before its results are drained. -/
theorem StopsShort.not_accepted {stopped sent : World σ}
    (stops : StopsShort cfg handle sqlText world stopped)
    (succeeds : Succeeds cfg [.command (some handle) sqlText, .send (some handle)] world sent) :
    ¬ AcceptsResults cfg handle sent := by
  intro accepts
  cases stops with
  | failed fails =>
    cases succeeds with
    | cons commanded later =>
      cases later with
      | cons sends later =>
        cases later
        exact fails.not_succeeds (.cons commanded (.cons sends (.cons accepts.1 .nil)))
  | refused succeeds' announced refuses =>
    rw [succeeds'.unique succeeds] at refuses
    exact refuses accepts

/-- An error that is raised leaves an exception in the sink. -/
theorem wp_raise_pure {error : Error} {value : Int} {onInt : Int → World σ → Prop}
    {onThrow : Error → World σ → Prop} {onHalt : Halt → World σ → Prop} :
    wp (do
      error.raise
      pure value) onInt onThrow onHalt world ↔
      onInt value (if world.xsink = [] then { world with xsink := [⟨error.err, error.desc⟩] }
        else world) := by
  rw [wp_bind, Error.raise, wp_bind, wp_isException, wp_when, wp_raiseException]
  by_cases empty : world.xsink = []
  · simp [empty]
  · simp [empty]

/-- Where an error is caught and 0 returned, the code does not agree with the sink. -/
theorem not_reports_raised {error : Error} :
    ¬ wp (do
      error.raise
      pure 0) (fun (value : Int) after => value = 0 ↔ after.xsink = [])
      (fun _ after => after.xsink ≠ []) (fun _ _ => True) world := by
  rw [wp_raise_pure]
  split
  · simp
  · rename_i pending
    exact fun reports => pending (reports.mp rfl)

/-- A direct execution that is wrapped as a method reports its code if and only if it is
accepted. -/
theorem reportsCode_callback_iff (quiet : world.xsink = []) (nonempty : sqlText.isEmpty = false) :
    wp (Datasource.callback 0 (directExecute cfg sqlText))
      (fun value after => value = 0 ↔ after.xsink = []) (fun _ after => after.xsink ≠ [])
      (fun _ _ => True) world ↔ IsAccepted cfg sqlText world := by
  rcases ran : directExecute cfg sqlText world with ⟨outcome, after⟩
  rw [Datasource.callback, wp_tryCatch, wp, ran]
  cases directRun_of_run ran with
  | asserted empty => exact absurd empty (by simp [nonempty])
  | unallocated failed =>
    exact iff_of_false not_reports_raised fun accepted => failed accepted.1
  | stopped allocated stops =>
    refine iff_of_false not_reports_raised ?_
    rintro ⟨-, sent, succeeds, accepts⟩
    exact stops.not_accepted succeeds accepts
  | exhausted allocated reads =>
    obtain ⟨sent, succeeds, accepts, -⟩ := reads
    exact iff_of_true trivial ⟨allocated, sent, succeeds, accepts⟩
  | @completed middle allocated reads ends =>
    refine iff_of_true ?_ ?_
    · let drained := middle.answered cfg.lib .drain (.results (some world.nextHandle))
      have unraised : middle.xsink = [] := reads.xsink.trans quiet
      show (if hasSevere drained then (-1 : Int) else 0) = 0 ↔
        purgedExceptions drained ++ middle.xsink = []
      rw [unraised, List.append_nil, purgedExceptions_eq_nil]
      split
      · rename_i severe
        simp [severe]
      · rename_i harmless
        simpa using harmless
    · obtain ⟨sent, succeeds, accepts, -⟩ := reads
      exact ⟨allocated, sent, succeeds, accepts⟩

/-! ### The private data of a statement -/

/-- How `module_wrap` ends. -/
inductive Wrapping where
  | made
  | bare
  | stopped
  deriving DecidableEq

/-- How the statement that is registered is invalidated: one that holds no command cannot be. -/
def invalidating (cfg : Config σ) (world : World σ) (registered : StatementId) : Wrapping :=
  match world.statements registered with
  | none => .stopped
  | some wrap =>
    if cfg.build.debug && !wrap.m.valid then .stopped
    else match wrap.m.context with
      | none => .bare
      | some id => match world.commands id with
        | none => .stopped
        | some cmd => if cfg.build.debug && !cmd.mCmd.isSome then .stopped else .made

/-- How `module_wrap` ends in a state. -/
def wrapping (cfg : Config σ) (statement : StatementId) (world : World σ) : Wrapping :=
  if (world.statements statement).isSome then .made
  else if world.isOpen = false then .stopped
  else match world.connection.stmt with
    | none => .made
    | some registered => invalidating cfg (world.created statement) registered

theorem wp_invalidate {registered : StatementId} {onUnit : Unit → World σ → Prop}
    {onThrow : Error → World σ → Prop} {onHalt : Halt → World σ → Prop}
    (made : invalidating cfg world registered = .made → ∀ after, after.xsink = world.xsink →
      (∀ other, (after.statements other).isSome = (world.statements other).isSome) → onUnit
      () after)
    (bare : invalidating cfg world registered = .bare → ∀ error after, after.xsink = world.xsink →
      onThrow error after)
    (stopped : invalidating cfg world registered = .stopped → ∀ reason after, onHalt reason after) :
    wp (invalidate cfg registered) onUnit onThrow onHalt world := by
  rw [invalidating] at made bare stopped
  rw [invalidate, wp_bind, wp_modify, wp_bind, wp_getModuleWrap]
  refine ⟨fun wrap held => ?_, fun absent => ?_⟩
  · have held : world.statements registered = some wrap := held
    simp only [held] at made bare stopped
    rw [wp_bind, wp_assert]
    refine ⟨fun asserted => stopped (if_pos asserted) _ _, fun passed => ?_⟩
    rw [if_neg passed] at made bare stopped
    cases context : wrap.m.context with
    | none =>
      rw [context] at bare
      exact bare rfl _ _ rfl
    | some id =>
      simp only [context] at made stopped ⊢
      rw [wp_bind]
      cases present : world.commands id with
      | none =>
        rw [present] at stopped
        rw [Command.cancelDisconnect, wp_bind, wp_getCommand]
        exact ⟨fun cmd there => absurd (present.symm.trans there) (by simp),
          fun _ => stopped rfl _ _⟩
      | some cmd =>
        rw [present] at made stopped
        have recorded : (world.record .other (.invalidate registered)).commands id = some cmd :=
          present
        refine (wp_cancelDisconnect recorded).mpr
          ⟨fun asserted => stopped (if_pos asserted) _ _, fun passed => ?_⟩
        refine made (if_neg passed) _ rfl fun other => ?_
        show (Function.update world.statements registered _ other).isSome = _
        by_cases same : other = registered
        · rw [same, Function.update_self, Option.isSome_map]
          rfl
        · rw [Function.update_of_ne same]
  · have absent : world.statements registered = none := absent
    rw [absent] at stopped
    exact stopped rfl _ _

/-- `module_wrap` ends as the state tells, and leaves the sink as it was. -/
theorem wp_moduleWrap_wrapping {onUnit : Unit → World σ → Prop} {onThrow : Error → World σ → Prop}
    {onHalt : Halt → World σ → Prop}
    (made : wrapping cfg statement world = .made → ∀ after, after.xsink = world.xsink →
      (after.statements statement).isSome → onUnit () after)
    (bare : wrapping cfg statement world = .bare → ∀ error after, after.xsink = world.xsink →
      onThrow error after)
    (stopped : wrapping cfg statement world = .stopped → ∀ reason after, onHalt reason after) :
    wp (DBModuleWrap.moduleWrap cfg statement) onUnit onThrow onHalt world := by
  rw [wrapping] at made bare stopped
  rw [DBModuleWrap.moduleWrap, wp_bind, wp_get]
  cases held : world.statements statement with
  | some wrap => exact made (if_pos (by simp [held])) _ rfl (by simp [held])
  | none =>
    have absent : ¬ (world.statements statement).isSome = true := by simp [held]
    rw [if_neg absent] at made bare stopped
    rw [wp_bind, wp_modify, wp_bind, Statement.checkOpen, wp_bind, wp_get]
    cases isOpen : world.isOpen with
    | false =>
      rw [if_neg (by simp)]
      exact stopped (if_pos isOpen) _ _
    | true =>
      rw [if_neg (by simp [isOpen])] at made bare stopped
      rw [if_pos (by simp), wp_pure, registerStatement, wp_bind, wp_get]
      have present : ((world.created statement).statements statement).isSome := by
        simp [World.created]
      cases registered : world.connection.stmt with
      | none =>
        rw [registered] at made
        exact made rfl _ rfl present
      | some other =>
        simp only [registered] at made bare stopped ⊢
        rw [wp_bind]
        exact wp_invalidate (fun ends after same kept => made ends _ same ((kept _).trans present))
          (fun ends error after same => bare ends error after same)
          fun ends reason after => stopped ends reason after

/-- The ends of `module_wrap`. -/
theorem moduleWrap_ends (cfg : Config σ) (statement : StatementId) (world : World σ) :
    (wrapping cfg statement world = .made ∧ ∃ after,
      DBModuleWrap.moduleWrap cfg statement world = (.ok (), after) ∧ after.xsink = world.xsink ∧
        (after.statements statement).isSome) ∨
    (wrapping cfg statement world = .bare ∧ ∃ error after,
      DBModuleWrap.moduleWrap cfg statement world = (.throw error, after) ∧
        after.xsink = world.xsink) ∨
    (wrapping cfg statement world = .stopped ∧ ∃ reason after,
      DBModuleWrap.moduleWrap cfg statement world = (.halt reason, after)) := by
  have program : wp (DBModuleWrap.moduleWrap cfg statement)
      (fun _ after => wrapping cfg statement world = .made ∧ after.xsink = world.xsink ∧
        (after.statements statement).isSome)
      (fun _ after => wrapping cfg statement world = .bare ∧ after.xsink = world.xsink)
      (fun _ _ => wrapping cfg statement world = .stopped) world :=
    wp_moduleWrap_wrapping (fun made after same present => ⟨made, same, present⟩)
      (fun bare _ after same => ⟨bare, same⟩) fun stopped _ _ => stopped
  have ends := wp_iff_forall.mp program
  rcases run : DBModuleWrap.moduleWrap cfg statement world with ⟨⟨⟩ | error | reason, after⟩
  · obtain ⟨made, same, present⟩ := ends.1 _ _ run
    exact .inl ⟨made, after, rfl, same, present⟩
  · obtain ⟨bare, same⟩ := ends.2.1 _ _ run
    exact .inr (.inl ⟨bare, error, after, rfl, same⟩)
  · exact .inr (.inr ⟨ends.2.2 _ _ run, reason, after, rfl⟩)

/-! ### The methods of a statement -/

/-- A text can be converted to the encoding of Qore. -/
def IsConverted (cfg : Config σ) (str : Text) : Prop :=
  (cfg.qore.convertEncoding cfg.qoreEncoding str).isSome

theorem moduleWrap_present (present : (world.statements statement).isSome) :
    DBModuleWrap.moduleWrap cfg statement world = (.ok (), world) := by
  obtain ⟨wrap, held⟩ := Option.isSome_iff_exists.mp present
  have ends : wp (DBModuleWrap.moduleWrap cfg statement)
      (fun _ after => after = world) noThrow noHalt
      world := by
    rw [DBModuleWrap.moduleWrap, wp_bind, wp_get, held]
    rfl
  obtain ⟨_, _, ran, rfl⟩ := returns_of_wp ends
  exact ran

/-- `_prepare` on a statement with private data. -/
theorem reportsCode_prepareIntern_iff (present : (world.statements statement).isSome) (str : Text)
    (args : Option (List QoreValue)) (quiet : world.xsink = []) :
    ReportsCode (DBModuleWrap.prepareIntern cfg statement str args) world ↔
    IsConverted cfg str := by
  rw [ReportsCode, DBModuleWrap.prepareIntern, wp_bind, wp, moduleWrap_present present, IsConverted]
  show wp _ _ _ _ world ↔ _
  rw [wp_bind, DBModuleWrap.encodeSQL, Connection.convertEncoding]
  cases converted : cfg.qore.convertEncoding cfg.qoreEncoding str with
  | some query => exact iff_of_true (by simpa using quiet) rfl
  | none => exact iff_of_false (by simp) (by simp)

/-- `prepare` and `prepare_raw`. -/
theorem reportsCode_prepare_iff (raw : Bool) (str : Text) (args : Option (List QoreValue))
    (quiet : world.xsink = []) :
    ReportsCode (do
      DBModuleWrap.moduleWrap cfg statement
      modifyModuleWrap statement fun wrap => { wrap with raw := raw }
      DBModuleWrap.prepareIntern cfg statement str args) world ↔
      wrapping cfg statement world ≠ .bare ∧
        (wrapping cfg statement world = .made → IsConverted cfg str) := by
  rw [ReportsCode, wp_bind, wp]
  rcases moduleWrap_ends cfg statement world with ⟨made, after, run, same, present⟩ |
    ⟨bare, error, after, run, same⟩ | ⟨stopped, reason, after, run⟩
  · rw [run, made]
    show wp _ _ _ _ after ↔ _
    rw [wp_bind, wp_modifyModuleWrap]
    let marked : World σ := { after with
      statements := Function.update after.statements statement
        ((after.statements statement).map fun wrap => { wrap with raw := raw }) }
    have wrapped : (marked.statements statement).isSome := by simpa [marked] using present
    show ReportsCode (DBModuleWrap.prepareIntern cfg statement str args) marked ↔ _
    rw [reportsCode_prepareIntern_iff wrapped str args (same.trans quiet)]
    simp
  · rw [run, bare]
    exact iff_of_false (fun pending => pending (same.trans quiet)) (by simp)
  · rw [run, stopped]
    exact iff_of_true trivial (by simp)

/-- `bind_placeholders`. -/
theorem reportsCode_bindPlaceholders_iff (l : List QoreValue) (quiet : world.xsink = []) :
    ReportsCode (DBModuleWrap.bindPlaceholders cfg statement l) world ↔
      wrapping cfg statement world ≠ .bare := by
  rw [ReportsCode, DBModuleWrap.bindPlaceholders, DBModuleWrap.run, wp_tryCatch,
    DBModuleWrap.runBody, wp_bind, wp_isException, quiet, if_neg (by simp), wp_bind, wp]
  rcases moduleWrap_ends cfg statement world with ⟨made, after, run, same, present⟩ |
    ⟨bare, error, after, run, same⟩ | ⟨stopped, reason, after, run⟩
  · rw [run, made]
    refine iff_of_true ?_ (by simp)
    show wp (Statement.bindPlaceholders statement l) _ _ _ after
    obtain ⟨wrap, held⟩ := Option.isSome_iff_exists.mp present
    rw [Statement.bindPlaceholders, wp_bind, Statement.checkValid, wp_bind,
      wp_getModuleWrap_some held]
    split
    · rw [wp_pure, if_neg (by simp)]
      cases Statement.toPlaceholders l with
      | some placeholders => exact iff_of_true rfl (same.trans quiet)
      | none => trivial
    · simp
  · rw [run, bare]
    exact iff_of_false not_reports_raised (by simp)
  · rw [run, stopped]
    exact iff_of_true trivial (by simp)

/-- Where an error is caught and -1 returned, the code agrees with the sink. -/
theorem reports_raised {error : Error} :
    wp (do
      error.raise
      pure (-1)) (fun (value : Int) after => value = 0 ↔ after.xsink = [])
      (fun _ after => after.xsink ≠ []) (fun _ _ => True) world := by
  rw [wp_raise_pure]
  split
  · simp
  · rename_i pending
    simpa using pending

theorem reportsCode_exec : ReportsCode (DBModuleWrap.exec cfg statement) world := by
  rw [ReportsCode, DBModuleWrap.exec, wp_tryCatch]
  have body : wp (DBModuleWrap.execBody cfg statement) (fun value after => value = 0 ↔
      after.xsink = [])
      (fun _ _ => True) (fun _ _ => True) world :=
    wp_bind_any fun _ _ => wp_bind_any fun wrap after => wp_exec_value _ _ _ _ after
  exact wp_mono body (fun _ _ reports => reports) (fun _ _ _ => reports_raised) fun _ _ _ => trivial

/-! ### All methods -/

/-- When a method reports its code: commit and rollback, when their command is accepted after the
pending results were canceled; the methods of a statement, when the statement registered before does
not hold them up and, for those that prepare one, its text can be converted; `exec` always. -/
def CodeOp.Reports (cfg : Config σ) (op : CodeOp) (world : World σ) : Prop :=
  match op with
  | commit => IsAccepted cfg (text "commit") (world.answered cfg.lib .other .cancelAll)
  | rollback => IsAccepted cfg (text "rollback") (world.answered cfg.lib .other .cancelAll)
  | prepare statement str _ | prepareRaw statement str =>
    wrapping cfg statement world ≠ .bare ∧
      (wrapping cfg statement world = .made → IsConverted cfg str)
  | bindPlaceholders statement _ => wrapping cfg statement world ≠ .bare
  | exec _ => True

/-- A method that is called with an empty sink returns 0 if and only if it leaves no exception in
the sink, if and only if its condition is met. -/
theorem reportsCode_iff (op : CodeOp) (quiet : world.xsink = []) :
    ReportsCode (op.run cfg) world ↔ op.Reports cfg world := by
  cases op with
  | commit =>
    have canceled : (world.answered cfg.lib .other .cancelAll).xsink = [] := quiet
    exact reportsCode_callback_iff canceled rfl
  | rollback =>
    have canceled : (world.answered cfg.lib .other .cancelAll).xsink = [] := quiet
    exact reportsCode_callback_iff canceled rfl
  | prepare statement str args => exact reportsCode_prepare_iff false str args quiet
  | prepareRaw statement str => exact reportsCode_prepare_iff true str none quiet
  | bindPlaceholders statement l => exact reportsCode_bindPlaceholders_iff l quiet
  | exec statement => exact iff_of_true reportsCode_exec trivial

/-- An accepted commit reports its code. -/
theorem reportsCode_iff_commit :
    ReportsCode (CodeOp.commit.run sampleDriver) (World.opened ({} :: sampleDrained)) :=
  (reportsCode_iff .commit rfl).mpr ⟨rfl, _, .cons rfl (.cons rfl .nil), rfl, .inl rfl⟩

/-- A commit whose command cannot be allocated raises an exception and returns 0. -/
theorem not_reportsCode_unallocated :
    ¬ ∀ (op : CodeOp) (world : World (List Reply)), world.xsink = [] →
      ReportsCode (op.run sampleDriver) world := by
  intro reports
  have agrees : (0 : Int) = 0 ↔ _ = [] :=
    reports .commit (World.opened [{}, { code := .fail }]) rfl
  exact absurd (agrees.mp rfl) (List.cons_ne_nil _ _)

end Sybase
