/-
This file proves when `ct_results` is called on a command. While the functions that fetch
are used only on a result that is current, `lastRes` follows the phase of the command, so
that the next result is asked for only in a command that waits. A call of
`read_next_result` that throws leaves `lastRes` as it was, and one made while an exception
is pending overwrites it under a result that is still current; after either of them
results may be asked for in a command that has failed.
-/

import SybaseDriver.Phases

namespace Sybase

open Program Connection

variable {σ : Type}

/-! ### Sequences of calls -/

/-- The functions of `command` that read its results, and the cancel. -/
inductive CommandOp where
  | readNextResult
  | fetchRowIntoBuffers
  | readRows (ph : Option (List Text)) (singleRow : Bool)
  | readRowsOrCols (ph : Option (List Text)) (list cols singleRow : Bool)
  | readCols (ph : Option (List Text)) (cnt : Int) (cols : Bool)
  | fetchRow (ph : Option (List Text))
  | cancel

/-- The program of a function, with the result type that `read_next_result` returns. -/
def CommandOp.run (cfg : Config σ) (id : CommandId) : CommandOp → Driver σ (Option ResType)
  | readNextResult => do
    let (res, _) ← Command.readNextResult cfg id
    pure (some res)
  | fetchRowIntoBuffers => do
    let _ ← Command.fetchRowIntoBuffers cfg id
    pure none
  | readRows ph singleRow => do
    let _ ← Command.readRows cfg id ph singleRow
    pure none
  | readRowsOrCols ph list cols singleRow => do
    let _ ← Command.readRowsOrCols cfg id ph list cols singleRow
    pure none
  | readCols ph cnt cols => do
    let _ ← Command.readCols cfg id ph cnt cols
    pure none
  | fetchRow ph => do
    let _ ← Command.fetchRow cfg id ph
    pure none
  | cancel => do
    let _ ← Command.cancel cfg id
    pure none

/-- The functions that fetch. -/
def CommandOp.fetches : CommandOp → Bool
  | readNextResult | cancel => false
  | _ => true

/-- A call of one of the functions, with the exceptions pending in the sink. -/
structure CommandCall where
  xsink : List QoreException
  op : CommandOp

/-- How a call ends. -/
def CommandCall.run (cfg : Config σ) (id : CommandId) (call : CommandCall) (world : World σ) :
    Outcome Error Halt (Option ResType) × World σ :=
  call.op.run cfg id { world with xsink := call.xsink }

/-- What matters of the calls made so far: whether the last call of `read_next_result` threw and
`cancel` was not called since, and whether `read_next_result` has failed or `cancel` was called. -/
structure Past where
  threw : Bool
  finished : Bool
  deriving DecidableEq, Repr

/-- The past after a call that returned. -/
def Past.returned (past : Past) (op : CommandOp) (result : Option ResType) : Past :=
  match op with
  | .readNextResult => ⟨false, past.finished || result = some .resError⟩
  | .cancel => ⟨false, true⟩
  | _ => past

/-- The past after a call that threw. -/
def Past.thrown (past : Past) (op : CommandOp) : Past :=
  match op with
  | .readNextResult => ⟨true, true⟩
  | _ => past

/-- Calls on one command after it was sent. The functions that fetch are called only while a result
is current, and every call meets a condition. A call that throws may be followed by others. -/
inductive CommandRun (cfg : Config σ) (id : CommandId) (handle : Handle)
    (allowed : Past → World σ → CommandCall → Prop) : Past → World σ → Prop where
  | sent {world : World σ} (sent : InPhase id (some handle) .resNone .waiting world) :
      CommandRun cfg id handle allowed ⟨false, false⟩ world
  | returns {past : Past} {world after : World σ} {call : CommandCall} {result : Option ResType}
      (earlier : CommandRun cfg id handle allowed past world) (meets : allowed past world call)
      (fetches : call.op.fetches = true → phase (some handle) world.log = .current)
      (returns : call.run cfg id world = (.ok result, after)) :
      CommandRun cfg id handle allowed (past.returned call.op result) after
  | throws {past : Past} {world after : World σ} {call : CommandCall} {error : Error}
      (earlier : CommandRun cfg id handle allowed past world) (meets : allowed past world call)
      (fetches : call.op.fetches = true → phase (some handle) world.log = .current)
      (throws : call.run cfg id world = (.throw error, after)) :
      CommandRun cfg id handle allowed (past.thrown call.op) after

/-- `ct_results` is permitted on a command that waits: what was announced is read to its end, the
results have not ended, and `read_next_result` has not failed nor `cancel` been called. -/
def AnnounceRule (handle : Handle) (past : Past) (call : CtCall) (log : List Entry) : Prop :=
  call = .results (some handle) → phase (some handle) log = .waiting ∧ past.finished = false

/-- A call asks for results only where that is permitted, however it ends. -/
def AnnouncesInOrder (cfg : Config σ) (id : CommandId) (handle : Handle) (past : Past)
    (world : World σ) (call : CommandCall) : Prop :=
  Lawful (AnnounceRule handle past) world.log (call.run cfg id world).2.log

/-! ### `lastRes` and the phase -/

/-- `lastRes` agrees with the phase. Where the last call of `read_next_result` threw, it waits
although the command is over. -/
def Past.Agrees (past : Past) (res : ResType) (standing : Phase) : Prop :=
  (res.waits ∧ standing = .waiting ∧ past.finished = past.threw) ∨
    (res.isFetchable = true ∧ standing = .current ∧ past = ⟨false, false⟩) ∨
      (res = .resEnd ∨ res = .resError ∨ res = .resCanceled) ∧ standing ≠ .current ∧
        past.threw = false

/-- The command agrees with its phase. -/
def Agrees (id : CommandId) (handle : Handle) (past : Past) (world : World σ) : Prop :=
  ∃ res standing, past.Agrees res standing ∧ InPhase id (some handle) res standing world

/-- `read_next_result` is not called again after it threw, unless `cancel` was called or an
exception is pending, and it is not called with an exception pending while a result is current. -/
def Settled (handle : Handle) (past : Past) (world : World σ) (call : CommandCall) : Prop :=
  match call.op with
  | .readNextResult =>
    if call.xsink = [] then past.threw = false else phase (some handle) world.log ≠ .current
  | _ => True

section Calls

variable {cfg : Config σ} {id : CommandId} {handle : Handle} {past : Past} {world : World σ}

theorem permits_announceRule (handle : Handle) (past : Past) :
    Permits (AnnounceRule handle past) (some handle) where
  fetching call _ fetching _ _ same := by
    subst same
    cases fetching
  others _ _ _ other same := absurd same other

/-- Fetching agrees with the phase. -/
theorem Agrees.of_fetching {res : ResType} (fetchable : res.isFetchable = true)
    (fetching : Fetching id (some handle) res world) : Agrees id handle ⟨false, false⟩ world :=
  fetching.elim (fun current => ⟨res, .current, .inr (.inl ⟨fetchable, rfl, rfl⟩), current⟩)
    fun waiting => ⟨.resNone, .waiting, .inl ⟨.inr (.inl rfl), rfl, rfl⟩, waiting⟩

/-- The result that is current. -/
theorem Agrees.current (agrees : Agrees id handle past world)
    (current : phase (some handle) world.log = .current) :
    past = ⟨false, false⟩ ∧
      ∃ res : ResType, res.isFetchable = true ∧ InPhase id (some handle) res .current world := by
  obtain ⟨res, standing, agrees, holds⟩ := agrees
  have same : standing = .current := holds.now.symm.trans current
  subst same
  obtain ⟨-, absent, -⟩ | ⟨fetchable, -, rfl⟩ | ⟨-, other, -⟩ := agrees
  · cases absent
  · exact ⟨rfl, res, fetchable, holds⟩
  · exact absurd rfl other

/-- A function that fetches. -/
theorem reaches_fetching {α : Type} {program : Driver σ α} {res : ResType}
    (fetchable : res.isFetchable = true)
    (reaches : ReachesBy (AnnounceRule handle ⟨false, false⟩) program
      (fun _ after => Fetching id (some handle) res after) (Fetching id (some handle) res) world) :
    ReachesBy (AnnounceRule handle ⟨false, false⟩) (do
        let _ ← program
        pure none)
      (fun (_ : Option ResType) after => Agrees id handle ⟨false, false⟩ after)
      (Agrees id handle ⟨false, false⟩) world :=
  (reaches.mono (fun _ _ post => post) fun _ => .of_fetching fetchable).bind fun _ _ fetching =>
    .pure (.of_fetching fetchable fetching)

/-- The result that was returned, with what it leads to. -/
theorem Past.Agrees.announced {res : ResType} {standing : Phase} (kept : past.finished = false)
    (leads : Leads .waiting res standing) :
    (past.returned .readNextResult (some res)).Agrees res standing := by
  obtain ⟨fetchable, rfl⟩ | ⟨waits, rfl⟩ | ⟨ended, rfl⟩ := leads
  · refine .inr (.inl ⟨fetchable, rfl, ?_⟩)
    rw [returned, kept]
    cases res <;> first | rfl | cases fetchable
  · refine .inl ⟨waits, rfl, ?_⟩
    rw [returned, kept]
    rcases waits with rfl | rfl | rfl <;> rfl
  · exact .inr (.inr ⟨ended.elim .inl fun isError => .inr (.inl isError), nofun, rfl⟩)

/-- Nothing is announced to a command that does not wait. -/
theorem Past.Agrees.stays {res : ResType} {standing : Phase} (agrees : past.Agrees res standing)
    (stays : ¬res.waits) : (past.returned .readNextResult (some res)).Agrees res standing := by
  obtain ⟨waits, -, -⟩ | ⟨fetchable, current, rfl⟩ | ⟨isOver, ended, -⟩ := agrees
  · exact absurd waits stays
  · refine .inr (.inl ⟨fetchable, current, ?_⟩)
    cases res <;> first | rfl | cases fetchable
  · exact .inr (.inr ⟨isOver, ended, rfl⟩)

theorem reaches_readNextResultOp (agrees : Agrees id handle past world)
    (settled : if world.xsink = [] then past.threw = false
      else phase (some handle) world.log ≠ .current) :
    ReachesBy (AnnounceRule handle past) (CommandOp.readNextResult.run cfg id)
      (fun result after => Agrees id handle (past.returned .readNextResult result) after)
      (Agrees id handle (past.thrown .readNextResult)) world := by
  obtain ⟨res, standing, agrees, holds⟩ := agrees
  by_cases quiet : world.xsink = []
  · rw [if_pos quiet] at settled
    by_cases waits : res.waits
    · obtain ⟨-, rfl, isFinished⟩ | ⟨fetchable, -, -⟩ | ⟨isOver, -, -⟩ := agrees
      · have kept : past.finished = false := isFinished.trans settled
        refine ((reaches_readNextResult (permits_announceRule handle past)
          (fun _ now _ => ⟨now, kept⟩) ⟨res, waits, holds⟩ quiet).mono (fun _ _ post =>
            post) ?_).bind
          ?_
        · rintro _ ⟨res, waits, holds⟩
          exact ⟨res, .waiting, .inl ⟨waits, rfl, rfl⟩, holds⟩
        · rintro ⟨res, disconnect⟩ _ ⟨standing, leads, holds⟩
          exact .pure ⟨res, standing, .announced kept leads, holds⟩
      · rcases waits with rfl | rfl | rfl <;> cases fetchable
      · rcases waits with rfl | rfl | rfl <;> simp at isOver
    · refine (reaches_readNextResult_stays waits holds quiet).bind ?_
      rintro _ _ ⟨rfl, holds⟩
      exact .pure ⟨res, standing, agrees.stays waits, holds⟩
  · rw [if_neg quiet, holds.now] at settled
    refine (reaches_readNextResult_raised holds quiet).bind ?_
    rintro _ _ ⟨rfl, holds⟩
    exact .pure ⟨.resError, standing, .inr (.inr ⟨.inr (.inl rfl), settled, rfl⟩), holds⟩

/-- Every call keeps `lastRes` in agreement with the phase, and asks for results in order. -/
theorem reaches_call {call : CommandCall} (agrees : Agrees id handle past world)
    (fetches : call.op.fetches = true → phase (some handle) world.log = .current)
    (settled : Settled handle past world call) :
    ReachesBy (AnnounceRule handle past) (call.op.run cfg id)
      (fun result after => Agrees id handle (past.returned call.op result) after)
      (Agrees id handle (past.thrown call.op)) { world with xsink := call.xsink } := by
  have permits := permits_announceRule handle past
  obtain ⟨xsink, op⟩ := call
  have begun : ∀ {res standing}, InPhase id (some handle) res standing world →
      InPhase id (some handle) res standing { world with xsink := xsink } :=
    fun holds => holds.of_eq rfl rfl
  cases op with
  | readNextResult =>
    obtain ⟨res, standing, agrees, holds⟩ := agrees
    exact reaches_readNextResultOp ⟨res, standing, agrees, begun holds⟩ settled
  | cancel =>
    obtain ⟨res, standing, agrees, holds⟩ := agrees
    refine (reaches_cancel permits (begun holds)).bind fun _ _ canceled => .pure ?_
    split at canceled
    · rename_i isEnd
      subst isEnd
      refine ⟨.resEnd, standing, .inr (.inr ⟨.inl rfl, ?_, rfl⟩), canceled⟩
      obtain ⟨waits, -, -⟩ | ⟨fetchable, -, -⟩ | ⟨-, ended, -⟩ := agrees
      · rcases waits with isEnd | isEnd | isEnd <;> cases isEnd
      · cases fetchable
      · exact ended
    · exact ⟨.resCanceled, .ended, .inr (.inr ⟨.inr (.inr rfl), nofun, rfl⟩), canceled⟩
  | fetchRowIntoBuffers =>
    obtain ⟨rfl, res, fetchable, holds⟩ := agrees.current (fetches rfl)
    refine reaches_fetching fetchable ((reaches_fetchRowIntoBuffers permits (begun holds)).mono
      (fun more _ fetched => ?_) fun _ => .inl)
    cases more with
    | true => exact .inl fetched
    | false => exact .inr fetched
  | readRows ph singleRow =>
    obtain ⟨rfl, res, fetchable, holds⟩ := agrees.current (fetches rfl)
    exact reaches_fetching fetchable (reaches_readRows permits (begun holds) ph singleRow)
  | readRowsOrCols ph list cols singleRow =>
    obtain ⟨rfl, res, fetchable, holds⟩ := agrees.current (fetches rfl)
    exact reaches_fetching fetchable
      (reaches_readRowsOrCols permits (begun holds) ph list cols singleRow)
  | readCols ph cnt cols =>
    obtain ⟨rfl, res, fetchable, holds⟩ := agrees.current (fetches rfl)
    exact reaches_fetching fetchable (reaches_readCols permits (begun holds) ph cnt cols)
  | fetchRow ph =>
    obtain ⟨rfl, res, fetchable, holds⟩ := agrees.current (fetches rfl)
    exact reaches_fetching fetchable (reaches_fetchRow permits (begun holds) ph)

end Calls

/-! ### Runs -/

/-- In a run whose calls meet the condition, `lastRes` agrees with the phase. -/
theorem CommandRun.agrees {cfg : Config σ} {id : CommandId} {handle : Handle} {past : Past}
    {world : World σ} (run : CommandRun cfg id handle (Settled handle) past world) :
    Agrees id handle past world := by
  induction run with
  | sent sent => exact ⟨.resNone, .waiting, .inl ⟨.inr (.inl rfl), rfl, rfl⟩, sent⟩
  | returns _ meets fetches returns agrees =>
    exact ((wp_iff_forall.mp (reaches_call agrees fetches meets)).1 _ _ returns).2
  | throws _ meets fetches throws agrees =>
    exact ((wp_iff_forall.mp (reaches_call agrees fetches meets)).2.1 _ _ throws).2

/-- In a run whose calls meet the condition, every call asks for results in order. -/
theorem announces_in_order {cfg : Config σ} {id : CommandId} {handle : Handle} {past : Past}
    {world : World σ} (run : CommandRun cfg id handle (Settled handle) past world)
    {call : CommandCall} (settled : Settled handle past world call)
    (fetches : call.op.fetches = true → phase (some handle) world.log = .current) :
    AnnouncesInOrder cfg id handle past world call := by
  have reaches : ReachesBy _ (call.op.run cfg id) _ _ { world with xsink := call.xsink } :=
    reaches_call run.agrees fetches settled
  obtain ⟨returns, throws, halts⟩ := wp_iff_forall.mp reaches
  show Lawful _ world.log (call.op.run cfg id { world with xsink := call.xsink }).2.log
  rcases ends : call.op.run cfg id { world with xsink := call.xsink } with
    ⟨result | error | reason, after⟩
  · exact (returns result after ends).1
  · exact (throws error after ends).1
  · exact Obeys.of_halted (halts reason after ends)

/-- A command that was just sent. -/
def World.sampleSent (replies : List Reply) : World (List Reply) := { World.opened replies with
  commands := fun id => if id = 0 then some ⟨none, some 0, -1, .resNone, ⟨true, []⟩, []⟩ else none
  nextCommand := 1
  nextHandle := 1
  log := [⟨0, .other, .call (.send (some 0)) {}⟩] }

theorem sampleSent_sent (replies : List Reply) :
    InPhase 0 (some 0) .resNone .waiting (World.sampleSent replies) := ⟨_, rfl, rfl, rfl, rfl⟩

/-- A call of `read_next_result` with some exceptions pending. -/
def CommandCall.sampleRead (xsink : List QoreException) : CommandCall := ⟨xsink, .readNextResult⟩

theorem CommandCall.sampleRead_fetches {xsink : List QoreException} {goal : Prop}
    (fetches : (sampleRead xsink).op.fetches = true) : goal := absurd fetches Bool.false_ne_true

/-- The results are asked for again after the first one, which has no rows. -/
theorem announces_in_order_twice : AnnouncesInOrder
    (Config.sample (CtLib.scripted false) true 9) 0 0 ⟨false, false⟩
    ((CommandCall.sampleRead []).run (Config.sample (CtLib.scripted false) true 9) 0
      (World.sampleSent [{ resultType := .cmdDone }, {}])).2 (CommandCall.sampleRead []) := by
  have returns : (CommandCall.sampleRead []).run (Config.sample (CtLib.scripted false) true 9) 0
      (World.sampleSent [{ resultType := .cmdDone }, {}]) = (.ok (some .resDone), _) := rfl
  exact announces_in_order (.returns (.sent (sampleSent_sent _)) (by rfl)
    CommandCall.sampleRead_fetches returns) (by rfl)
    CommandCall.sampleRead_fetches

/-- The command fails, so that `read_next_result` throws, and then results are asked for again. -/
theorem not_announces_in_order : ∃ past world,
    CommandRun (Config.sample (CtLib.scripted false) true 9) 0 0 (fun _ _ _ => True) past world ∧
      ¬AnnouncesInOrder (Config.sample (CtLib.scripted false) true 9) 0 0 past world
        (CommandCall.sampleRead []) := by
  let cfg := Config.sample (CtLib.scripted false) true 9
  let start := World.sampleSent [{ resultType := .cmdFail }, { code := .endResults }]
  let failed := ((CommandCall.sampleRead []).run cfg 0 start).2
  obtain ⟨error, throws⟩ : ∃ error, (CommandCall.sampleRead []).run cfg 0 start =
      (.throw error, failed) := ⟨_, rfl⟩
  refine ⟨_, _, .throws (.sent (sampleSent_sent _)) trivial CommandCall.sampleRead_fetches throws,
    fun ordered => ?_⟩
  have asked : ((CommandCall.sampleRead []).run cfg 0 failed).2.log =
      ⟨0, .other, .call (.results (some 0)) { code := .endResults }⟩ :: failed.log := rfl
  have permitted : AnnounceRule 0 ⟨true, true⟩ (.results (some 0)) failed.log :=
    Lawful.newest ordered asked (Nat.le_refl _) rfl
  cases (permitted rfl).2

/-- With an exception pending `read_next_result` overwrites `lastRes` while a result is current.
Once that result is read to its end, results are asked for again. -/
theorem not_announces_in_order_pending : ∃ past world,
    CommandRun (Config.sample (CtLib.scripted false) true 9) 0 0 (fun _ _ _ => True) past world ∧
      ¬AnnouncesInOrder (Config.sample (CtLib.scripted false) true 9) 0 0 past world
        (CommandCall.sampleRead []) := by
  let cfg := Config.sample (CtLib.scripted false) true 9
  let fetch : CommandCall := ⟨[], .fetchRowIntoBuffers⟩
  let start :=
    World.sampleSent [{ resultType := .row }, { code := .endData }, { code := .endResults }]
  let current := ((CommandCall.sampleRead []).run cfg 0 start).2
  let pending := ((CommandCall.sampleRead [⟨"ERROR", "pending"⟩]).run cfg 0 current).2
  let read := (fetch.run cfg 0 pending).2
  have announced : (CommandCall.sampleRead []).run cfg 0 start = (.ok (some .resRow), current) :=
    rfl
  have failed : (CommandCall.sampleRead [⟨"ERROR", "pending"⟩]).run cfg 0 current =
      (.ok (some .resError), pending) := rfl
  have fetched : fetch.run cfg 0 pending = (.ok none, read) := rfl
  refine ⟨_, _,
    .returns
      (.returns (.returns (.sent (sampleSent_sent _)) trivial
        CommandCall.sampleRead_fetches announced)
    trivial CommandCall.sampleRead_fetches failed) trivial (fun _ => rfl) fetched,
      fun ordered => ?_⟩
  have asked : ((CommandCall.sampleRead []).run cfg 0 read).2.log =
      ⟨0, .other, .call (.results (some 0)) { code := .endResults }⟩ :: read.log := rfl
  have permitted : AnnounceRule 0 ⟨false, true⟩ (.results (some 0)) read.log :=
    Lawful.newest ordered asked (Nat.le_refl _) rfl
  cases (permitted rfl).2

end Sybase
