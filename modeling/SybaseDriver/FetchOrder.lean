/-
This file proves when the rows of a result are described, bound and fetched. While the
methods that fetch columns and output are called only where `lastRes` says that there is a
result to fetch, and no result is fetched from that a commit or rollback has canceled, only
results are fetched that are current.
-/

import SybaseDriver.Operations
import SybaseDriver.Sparing

namespace Program.Reaches

open Sybase

variable {σ : Type} {relation : World σ → World σ → Prop} {stops : Halt → World σ → World σ → Prop}
  {β : Type} {world : World σ} {onNext : β → World σ → Prop} {onThrow : World σ → Prop}

/-! ### The primitives of a statement -/

theorem getModuleWrap [Std.Refl relation] {statement : StatementId} {wrap : ModuleWrap}
    {next : ModuleWrap → Driver σ β} (held : world.statements statement = some wrap)
    (rest : Reaches relation stops (next wrap) onNext onThrow world) :
    Reaches relation stops (Sybase.getModuleWrap statement >>= next) onNext onThrow world := by
  rw [Reaches, wp_bind]
  exact (wp_getModuleWrap_some held).mpr rest

theorem checkOpen [Std.Refl relation] (base : BaseStable relation stops) {next : Unit → Driver σ β}
    (rest : Reaches relation stops (next ()) onNext onThrow world) :
    Reaches relation stops (Statement.checkOpen >>= next) onNext onThrow world := by
  rw [Reaches, wp_bind, Statement.checkOpen, wp_bind, wp_get]
  split
  · exact rest
  · exact ⟨world, refl_of relation world, base.halts world _ (by simp)⟩

end Program.Reaches

namespace Sybase

open Program Connection Statement

variable {σ : Type} {cfg : Config σ} {world after : World σ} {statement : StatementId}
  {kinds : ResType → Bool} {id : CommandId}

/-! ### Sequences of calls -/

/-- What `lastRes` says about the command of a statement that may be used. -/
def World.resultOf (world : World σ) (statement : StatementId) : Option ResType :=
  match world.statements statement with
  | none => none
  | some wrap =>
    if wrap.m.valid then (wrap.m.context.bind world.commands).map Command.lastRes else none

/-- The methods of a statement that read its results. -/
def StatementOp.readsResults : StatementOp → Bool
  | next | fetchRow | fetchRows _ | fetchColumns _ | getOutput => true
  | _ => false

/-- Commit and rollback, which cancel all commands of the connection. -/
def Op.cancels : Op → Bool
  | datasource .commit | datasource .rollback => true
  | _ => false

/-- The calls that follow the execution of a statement. -/
def Op.Follows (statement : StatementId) : Op → Prop
  | .statement other op => other = statement ∧ op.readsResults = true
  | op => op.cancels = true

/-- Whether a call cancels a result that is not read to its end. -/
def Call.Cancels (call : Call) (statement : StatementId) (world : World σ) : Bool :=
  call.op.cancels && (world.resultOf statement).any ResType.isFetchable

/-- The calls after a statement was executed, each of which meets a condition. It is known of the
current result whether it was canceled by a commit or rollback. The first state is the one in which
the statement is executed. -/
inductive ExecutedRun (cfg : Config σ) (statement : StatementId)
    (allowed : Bool → World σ → Call → Prop) (start : World σ) : Bool → World σ → Prop where
  | executed {after : World σ} {call : Call} (reached : Reachable cfg (fun _ _ => True) start)
      (executes : call.op = .statement statement .exec)
      (returns : call.run cfg start = (.ok (), after)) :
      ExecutedRun cfg statement allowed start false after
  | call {canceled : Bool} {world after : World σ} {call : Call}
      (earlier : ExecutedRun cfg statement allowed start canceled world)
      (follows : call.op.Follows statement) (meets : allowed canceled world call)
      (ends : call.run cfg world = (.ok (), after) ∨
        ∃ error, call.run cfg world = (.throw error, after)) :
      ExecutedRun cfg statement allowed start (canceled || call.Cancels statement world) after

/-- The columns and the output of a statement are fetched only where `lastRes` says that there is a
result to fetch, and after it was canceled no result is fetched from: `next` is called only where a
row is fetched ahead or the result has no rows, and `fetch_rows` only in the latter case. -/
def FetchesInOrder (statement : StatementId) (canceled : Bool) (world : World σ) (call : Call) :
    Prop :=
  call.xsink = [] → ∀ res, world.resultOf statement = some res →
    match call.op with
    | .statement _ (.fetchColumns _) | .statement _ .getOutput =>
      res.isFetchable = true ∧ canceled = false
    | .statement _ (.fetchRows _) => expectRow res = true → canceled = false
    | .statement _ .next => expectRow res = true →
      (∀ wrap, world.statements statement = some wrap → wrap.m.execRes = none) → canceled = false
    | _ => True

/-! ### Statements -/

/-- The results of the command a statement may use are tracked. -/
structure Standing (kinds : ResType → Bool) (statement : StatementId) (world : World σ) : Prop where
  present : (world.statements statement).isSome
  tracked : ∀ wrap, world.statements statement = some wrap → wrap.m.valid = true →
    ∀ id, wrap.m.context = some id → IsTracked kinds id world

/-- After steps that keep the command of a statement, its results are tracked if they are for the
command the statement used before. -/
theorem Standing.of_spares {n : CommandId} (spares : Spares n world after)
    (present : (world.statements statement).isSome)
    (tracked : ∀ wrap, world.statements statement = some wrap → wrap.m.valid = true →
      ∀ id, wrap.m.context = some id → IsTracked kinds id after) :
    Standing kinds statement after where
  present := (spares.present statement).trans present
  tracked wrap held valid id context := by
    obtain ⟨wrap', held', same, valid'⟩ := spares.statements statement wrap held
    exact tracked wrap' held' (valid' valid) id (same.symm.trans context)

theorem Tracks.weaken {weaker : ResType → Bool} (tracks : Tracks kinds id world)
    (less : ∀ res, weaker res = true → kinds res = true) : Tracks weaker id world :=
  fun cmd held kind => tracks cmd held (less _ kind)

theorem Standing.weaken {weaker : ResType → Bool} (standing : Standing kinds statement world)
    (less : ∀ res, weaker res = true → kinds res = true) : Standing weaker statement world where
  present := standing.present
  tracked wrap held valid id context :=
    have tracked := standing.tracked wrap held valid id context
    ⟨tracked.1, tracked.2.weaken less⟩

/-- The results that were fetched by `next` are fetchable. -/
theorem isFetchable_of_expectRow (res : ResType) (expected : expectRow res = true) :
    res.isFetchable = true := by
  cases res <;> first | rfl | cases expected

/-- A statement that holds a command whose results are tracked. -/
structure Using (kinds : ResType → Bool) (statement : StatementId) (id : CommandId)
    (world : World σ) : Prop where
  present : (world.statements statement).isSome
  holds : ∀ wrap, world.statements statement = some wrap → wrap.m.context = some id
  tracked : IsTracked kinds id world

namespace Using

theorem standing (uses : Using kinds statement id world) : Standing kinds statement world where
  present := uses.present
  tracked wrap held _ _ context := by
    cases (uses.holds wrap held).symm.trans context
    exact uses.tracked

theorem of_spares {n : CommandId} (uses : Using kinds statement id world)
    (spares : Spares n world after) (tracked : IsTracked kinds id after) :
    Using kinds statement id after where
  present := (spares.present statement).trans uses.present
  holds wrap held := by
    obtain ⟨wrap', held', same, -⟩ := spares.statements statement wrap held
    exact same.trans (uses.holds wrap' held')
  tracked := tracked

end Using

/-- A run of a method keeps the command of the statement, and its results tracked. -/
abbrev KeepsStanding {α : Type} (kinds : ResType → Bool) (statement : StatementId)
    (method : Driver σ α) (world : World σ) : Prop :=
  Reaches (Spares 0) (StopsObeying FetchRule) method (fun _ => Standing kinds statement)
    (Standing kinds statement) world

section Methods

/-- A method that tests first whether the statement may be used. -/
theorem reaches_ifValid {α : Type} {relation : World σ → World σ → Prop} [Std.Refl relation]
    [IsTrans (World σ) relation] {stops : Halt → World σ → World σ → Prop}
    (base : BaseStable relation stops) {failed : α} {method : Driver σ α}
    {onOk : α → World σ → Prop}
    {onThrow : World σ → Prop} (present : (world.statements statement).isSome)
    (invalid : ∀ wrap, world.statements statement = some wrap → wrap.m.valid = false →
      ∀ raised, onOk failed { world with xsink := raised :: world.xsink })
    (rest : ∀ wrap, world.statements statement = some wrap → wrap.m.valid = true →
      Reaches relation stops method onOk onThrow world) :
    Reaches relation stops (do
        if (← checkValid statement) ≠ 0 then pure failed else method) onOk onThrow world := by
  obtain ⟨wrap, held⟩ := Option.isSome_iff_exists.mp present
  cases valid : wrap.m.valid with
  | true =>
    have checked : Reaches relation stops (checkValid statement)
        (fun result after => result = 0 ∧ after = world) onThrow world := by
      refine .getModuleWrap held ?_
      rw [if_pos valid]
      exact .pure ⟨rfl, rfl⟩
    refine checked.bind ?_
    rintro _ _ ⟨rfl, rfl⟩
    exact rest wrap held valid
  | false =>
    have checked : Reaches relation stops (checkValid statement)
        (fun result after => result ≠ 0 ∧ onOk failed after) onThrow world := by
      refine .getModuleWrap held ?_
      rw [if_neg (by simp [valid])]
      exact .raiseException base.toRaiseStable (.pure ⟨by decide, invalid wrap held valid _⟩)
    refine checked.bind fun result _ ⟨isInvalid, post⟩ => ?_
    rw [if_pos isInvalid]
    exact .pure post

theorem reaches_checkValid {α : Type} {relation : World σ → World σ → Prop} [Std.Refl relation]
    [IsTrans (World σ) relation] (base : BaseStable relation (StopsObeying FetchRule)) {failed : α}
    {method : Driver σ α} (present : (world.statements statement).isSome)
    (rest : ∀ wrap, world.statements statement = some wrap → wrap.m.valid = true →
      Reaches relation (StopsObeying FetchRule) method (fun _ => Standing kinds statement)
        (Standing kinds statement) world) :
    Reaches relation (StopsObeying FetchRule) (do
        if (← checkValid statement) ≠ 0 then pure failed else method)
      (fun _ => Standing kinds statement) (Standing kinds statement) world := by
  refine reaches_ifValid base present (fun wrap held invalid _ => ⟨present, ?_⟩) rest
  intro wrap' held' valid'
  cases held.symm.trans held'
  exact absurd (valid'.symm.trans invalid) (by simp)

/-- A row that is fetched ahead. -/
theorem follows_fetchAhead {res : ResType} {handle : Option Handle}
    (fetched : ∀ res, kinds res = true → res.isFetchable = true)
    (uses : Using kinds statement id world) (current : InPhase id handle res .current world) :
    Reaches (Spares 0) (StopsObeying FetchRule) (fetchAhead cfg statement)
      (fun _ => Using kinds statement id) (Standing kinds statement) world := by
  obtain ⟨wrap, held⟩ := Option.isSome_iff_exists.mp uses.present
  refine .getModuleWrap held (.when (fun _ => ?_) fun _ => uses)
  have context : Reaches (Spares 0) (StopsObeying FetchRule) (getContext statement)
      (fun cmd after => id = cmd ∧ world = after) (Standing kinds statement) world := by
    refine .getModuleWrap held ?_
    rw [uses.holds wrap held]
    exact .pure ⟨rfl, rfl⟩
  refine context.bind ?_
  rintro _ _ ⟨rfl, rfl⟩
  have reads := (Spares.lifts (Nat.zero_le id) ((Reads.readingStable cfg id).keeps_fetchRow none)
    (reaches_fetchRow (permits_fetchRule handle) current none)).related
  have uses' : ∀ after, Spares 0 world after ∧ Reads id world after ∧ Fetching id handle res after →
      Using kinds statement id after := fun after ⟨spares, read, fetching⟩ =>
    uses.of_spares spares
      ⟨read.nextCommand ▸ uses.tracked.1, (Tracks.of_fetching fetching).weaken fetched⟩
  refine (reads.mono (fun _ => uses') fun after post => (uses' after post).standing).bind
    fun h middle uses => ?_
  have stored : Spares 0 middle { middle with
      statements := Function.update middle.statements statement
        ((middle.statements statement).map fun wrap =>
          { wrap with m := { wrap.m with execRes := h } }) } :=
    .of_statement fun _ => ⟨rfl, fun valid => valid⟩
  exact ⟨stored, uses.of_spares stored uses.tracked⟩

/-- `next` on a statement whose results are tracked, those with rows among them. -/
theorem follows_next {reconnect : Reconnect σ}
    (reconnects : ∀ n cmd tryReconnect,
      Keeps (Sparing n) (StopsObeying FetchRule) (reconnect cmd tryReconnect))
    (fetched : ∀ res, kinds res = true → res.isFetchable = true)
    (rows : ∀ res, expectRow res = true → kinds res = true)
    (standing : Standing kinds statement world) :
    KeepsStanding kinds statement (Statement.next cfg reconnect statement) world := by
  have base := Spares.baseStable (σ := σ) 0
  refine reaches_checkValid (Spares.baseStable 0) standing.present fun wrap held valid =>
    .checkOpen base (.getModuleWrap held ?_)
  cases context : wrap.m.context with
  | none =>
    have raised : Reaches (Spares 0) (StopsObeying FetchRule)
        (Statement.readNextResult cfg reconnect none)
        (fun _ after => world = after ∧ world.xsink.isEmpty = false) (Standing kinds statement)
        world := by
      refine .isException ?_
      split
      · rename_i raised
        exact .pure ⟨rfl, by simpa using raised⟩
      · exact .halt .refl
    refine raised.bind ?_
    rintro _ _ ⟨rfl, raised⟩
    refine .isException ?_
    rw [raised]
    exact .pure standing
  | some id =>
    have uses : Using kinds statement id world :=
      ⟨standing.present, fun wrap' held' => by rwa [← Option.some_inj.mp (held.symm.trans held')],
        standing.tracked wrap held valid id context⟩
    have reads : Reaches (Spares 0) (StopsObeying FetchRule)
        (Connection.readNextResult cfg reconnect id) _ _ world :=
      (reaches_connectionReadNextResult reconnects fetched (Nat.zero_le id) uses.tracked).related
    refine (reads.mono (fun _ _ post => post) fun _ ⟨spares, tracked⟩ =>
      (uses.of_spares spares tracked).standing).bind fun res middle ⟨spares, tracked, current⟩ => ?_
    have uses := uses.of_spares spares tracked
    refine .isException ?_
    split
    · exact .pure uses.standing
    · have ahead : Reaches (Spares 0) (StopsObeying FetchRule)
          (when (expectRow res) (fetchAhead cfg statement)) (fun _ => Using kinds statement id)
          (Standing kinds statement) middle := by
        refine .when (fun expected => ?_) fun _ => uses
        obtain ⟨handle, current⟩ := current (rows res expected)
        exact follows_fetchAhead fetched uses current
      refine ahead.bind fun _ after uses => ?_
      obtain ⟨wrap, held⟩ := Option.isSome_iff_exists.mp uses.present
      exact .getModuleWrap held (.pure uses.standing)

/-- `fetch_row` makes no call. -/
theorem follows_fetchRow (standing : Standing kinds statement world) :
    Reaches (Spares 0) (StopsObeying FetchRule) (Statement.fetchRow statement)
      (fun _ => Standing kinds statement) (Standing kinds statement) world := by
  obtain ⟨wrap, held⟩ := Option.isSome_iff_exists.mp standing.present
  have taken : Spares 0 world { world with
      statements := Function.update world.statements statement
        ((world.statements statement).map fun wrap =>
          { wrap with m := { wrap.m with execRes := none } }) } :=
    .of_statement fun _ => ⟨rfl, fun valid => valid⟩
  exact .getModuleWrap held (.modify taken
    (.pure (.of_spares taken standing.present standing.tracked)))

/-- `fetch_rows` on a statement whose results are tracked. -/
theorem follows_fetchRows {reconnect : Reconnect σ}
    (reconnects : ∀ n cmd tryReconnect,
      Keeps (Sparing n) (StopsObeying FetchRule) (reconnect cmd tryReconnect))
    (fetched : ∀ res, kinds res = true → res.isFetchable = true)
    (rows : ∀ res, expectRow res = true → kinds res = true)
    (standing : Standing kinds statement world) (count : Int) :
    KeepsStanding kinds statement (Statement.fetchRows cfg reconnect statement count) world := by
  refine reaches_checkValid (Spares.baseStable 0) standing.present fun _ _ _ =>
    .iterate (fun _ => Standing kinds statement)
    (fun _ => .refl) (fun ⟨left, reslist⟩ world standing => ?_) _ _ _ standing
  rw [fetchRowsOnce]
  split
  · exact .pure standing
  · refine .isException ?_
    split
    · exact .pure standing
    · refine (follows_fetchRow standing).bind fun h _ standing => ?_
      refine (follows_next reconnects fetched rows standing).bind fun more _ standing => ?_
      split
      · exact .pure standing
      · exact .pure standing

/-- Fetching columns from a command that has a result to fetch, or is not there. -/
theorem reaches_readCols_tracked (held : ∀ cmd, world.commands id = some cmd →
      cmd.lastRes.isFetchable = true) (tracked : IsTracked ResType.isFetchable id world)
    (ph : Option (List Text)) (cnt : Int) (cols : Bool) :
    Reaches (Spares 0) (StopsObeying FetchRule) (Command.readCols cfg id ph cnt cols)
      (fun _ => IsTracked ResType.isFetchable id) (IsTracked ResType.isFetchable id) world := by
  cases present : world.commands id with
  | none =>
    have described : Reaches (Spares 0) (StopsObeying FetchRule) (Command.ensureColinfo cfg id)
        (fun _ _ => False) (IsTracked ResType.isFetchable id) world :=
      .getCommand (Spares.baseStable 0) fun cmd held => absurd held (by simp [present])
    exact described.bind fun _ _ impossible => impossible.elim
  | some cmd =>
    have current : InPhase id cmd.mCmd cmd.lastRes .current world :=
      ⟨cmd, present, rfl, rfl, tracked.2 cmd present (held cmd present)⟩
    have kept : ∀ after : World σ, Reads id world after ∧ Fetching id cmd.mCmd cmd.lastRes after →
        IsTracked ResType.isFetchable id after := fun _ ⟨read, fetching⟩ =>
      ⟨read.nextCommand ▸ tracked.1, .of_fetching fetching⟩
    exact (Spares.lifts (Nat.zero_le id) ((Reads.readingStable cfg id).keeps_readCols ph cnt cols)
      (reaches_readCols (permits_fetchRule _) current ph cnt cols)).mono (fun _ => kept) kept

/-- `fetch_columns` and `get_output` on a statement that has a result to fetch. -/
theorem follows_readCols {method : CommandId → Driver σ (Option Hash)}
    (reads : ∀ id, IsTracked ResType.isFetchable id world →
      (∀ cmd, world.commands id = some cmd → cmd.lastRes.isFetchable = true) →
        Reaches (Spares 0) (StopsObeying FetchRule) (method id)
          (fun _ => IsTracked ResType.isFetchable id) (IsTracked ResType.isFetchable id) world)
    (standing : Standing ResType.isFetchable statement world)
    (fetchable : ∀ res, world.resultOf statement = some res → res.isFetchable = true) :
    KeepsStanding ResType.isFetchable statement (do
      if (← checkValid statement) ≠ 0 then pure none
      else do
        let cmd ← getContext statement
        method cmd) world := by
  refine reaches_checkValid (Spares.baseStable 0) standing.present fun wrap held valid => ?_
  cases context : wrap.m.context with
  | none =>
    have throws : Reaches (Spares 0) (StopsObeying FetchRule) (getContext statement)
        (fun _ _ => False) (Standing ResType.isFetchable statement) world := by
      refine .getModuleWrap held ?_
      rw [context]
      exact .throw standing
    exact throws.bind fun _ _ impossible => impossible.elim
  | some id =>
    have uses : Using ResType.isFetchable statement id world :=
      ⟨standing.present, fun wrap' held' => by rwa [← Option.some_inj.mp (held.symm.trans held')],
        standing.tracked wrap held valid id context⟩
    have found : Reaches (Spares 0) (StopsObeying FetchRule) (getContext statement)
        (fun cmd after => id = cmd ∧ world = after) (Standing ResType.isFetchable statement)
          world := by
      refine .getModuleWrap held ?_
      rw [context]
      exact .pure ⟨rfl, rfl⟩
    refine found.bind ?_
    rintro _ _ ⟨rfl, rfl⟩
    have kept : ∀ after, Spares 0 world after ∧ IsTracked ResType.isFetchable id after →
        Standing ResType.isFetchable statement after :=
      fun _ ⟨spares, tracked⟩ => (uses.of_spares spares tracked).standing
    refine (reads id uses.tracked fun cmd present => fetchable _ ?_).related.mono
      (fun _ => kept) kept
    rw [World.resultOf, held]
    simp [valid, context, present]

/-! ### Calls -/

/-- The kinds of results that are tracked: after the current one was canceled, there are none. -/
def trackedKinds (canceled : Bool) (res : ResType) : Bool := !canceled && res.isFetchable

theorem isFetchable_of_tracked {canceled : Bool} (res : ResType)
    (kind : trackedKinds canceled res = true) : res.isFetchable = true := by
  rw [trackedKinds, Bool.and_eq_true] at kind
  exact kind.2

theorem resultOf_eq {wrap : ModuleWrap} {cmd : Command}
    (held : world.statements statement = some wrap)
    (valid : wrap.m.valid = true) (context : wrap.m.context = some id)
    (present : world.commands id = some cmd) : world.resultOf statement = some cmd.lastRes := by
  rw [World.resultOf, held]
  simp [valid, context, present]

theorem exists_of_resultOf {res : ResType} (result : world.resultOf statement = some res) :
    ∃ wrap id cmd, world.statements statement = some wrap ∧ wrap.m.valid = true ∧
      wrap.m.context = some id ∧ world.commands id = some cmd ∧ cmd.lastRes = res := by
  rw [World.resultOf] at result
  split at result
  · cases result
  · rename_i wrap held
    split at result
    · rename_i valid
      obtain ⟨cmd, found, last⟩ := Option.map_eq_some_iff.mp result
      obtain ⟨id, context, present⟩ := Option.bind_eq_some_iff.mp found
      exact ⟨wrap, id, cmd, held, valid, context, present, last⟩
    · cases result

/-- Where the result is of no such kind, its results are tracked. -/
theorem Standing.of_result {other : ResType → Bool} (standing : Standing kinds statement world)
    (noKind : ∀ res, world.resultOf statement = some res → other res = false) :
    Standing other statement world where
  present := standing.present
  tracked wrap held valid id context :=
    ⟨(standing.tracked wrap held valid id context).1,
      .of_last fun _ present => noKind _ (resultOf_eq held valid context present)⟩

theorem KeepsStanding.weaken {α : Type} {weaker : ResType → Bool} {method : Driver σ α}
    (follows : KeepsStanding kinds statement method world)
    (less : ∀ res, weaker res = true → kinds res = true) :
    KeepsStanding weaker statement method world :=
  follows.mono (fun _ _ standing => standing.weaken less) fun _ standing => standing.weaken less

/-- `next` with a row that is fetched ahead, on a result with rows: no call is made. -/
theorem follows_next_ahead {reconnect : Reconnect σ} {wrap : ModuleWrap} {cmd : Command}
    (standing : Standing kinds statement world) (none : ∀ res, kinds res = false)
    (held : world.statements statement = some wrap) (valid : wrap.m.valid = true)
    (context : wrap.m.context = some id) (present : world.commands id = some cmd)
    (expected : expectRow cmd.lastRes = true) (ahead : wrap.m.execRes ≠ .none)
    (quiet : world.xsink = []) :
    KeepsStanding kinds statement (Statement.next cfg reconnect statement) world := by
  have base := Spares.baseStable (σ := σ) 0
  have uses : Using kinds statement id world :=
    ⟨standing.present, fun wrap' held' => by rwa [← Option.some_inj.mp (held.symm.trans held')],
      standing.tracked wrap held valid id context⟩
  refine reaches_checkValid base standing.present fun wrap' held' valid' =>
    .checkOpen base (.getModuleWrap held' ?_)
  obtain rfl := Option.some_inj.mp (held.symm.trans held')
  rw [context]
  have stays : ¬cmd.lastRes.waits := fun waits => by
    rcases waits with last | last | last <;> rw [last] at expected <;> cases expected
  have returned : ReachesBy FetchRule (Command.readNextResult cfg id) _ (fun _ => False) world :=
    reaches_readNextResult_stays stays ⟨cmd, present, rfl, rfl, rfl⟩ quiet
  have announced : Reaches (Spares 0) (StopsObeying FetchRule)
      (Connection.readNextResult cfg reconnect id) (fun _ after => Reads id world after)
      (Standing kinds statement) world := by
    refine .isException ?_
    rw [quiet, if_neg (by simp)]
    refine ((Spares.lifts (Nat.zero_le id) (Reads.readingStable cfg id).keeps_readNextResult
      returned).mono (fun _ _ post => post) fun _ ⟨_, impossible⟩ => impossible.elim).bind ?_
    rintro ⟨res, disconnect⟩ after ⟨read, same, -⟩
    cases same
    exact .pure read
  refine announced.bind fun res after read => .isException ?_
  have kept : Standing kinds statement after :=
    { present := read.statements ▸ standing.present
      tracked := fun wrap held valid id context =>
        ⟨read.nextCommand ▸ (standing.tracked wrap (read.statements ▸ held) valid id context).1,
          .of_last fun cmd _ => none cmd.lastRes⟩ }
  split
  · exact .pure kept
  · have skipped : Reaches (Spares 0) (StopsObeying FetchRule)
        (when (expectRow res) (fetchAhead cfg statement)) (fun _ => Standing kinds statement)
        (Standing kinds statement) after := by
      refine .when (fun _ => ?_) fun _ => kept
      refine .getModuleWrap (read.statements ▸ held) (.when (fun isNone => ?_) fun _ => kept)
      exact absurd (Option.isNone_iff_eq_none.mp isNone) ahead
    refine skipped.bind fun _ _ standing => ?_
    obtain ⟨wrap, held⟩ := Option.isSome_iff_exists.mp standing.present
    exact .getModuleWrap held (.pure standing)

/-- A call of `next` that fetches in order. -/
theorem follows_next_inOrder {reconnect : Reconnect σ} {canceled : Bool}
    (reconnects : ∀ n cmd tryReconnect,
      Keeps (Sparing n) (StopsObeying FetchRule) (reconnect cmd tryReconnect))
    (standing : Standing (trackedKinds canceled) statement world) (quiet : world.xsink = [])
    (inOrder : ∀ res, world.resultOf statement = some res → expectRow res = true →
      (∀ wrap, world.statements statement = some wrap → wrap.m.execRes = none) → canceled = false) :
    KeepsStanding (trackedKinds canceled) statement (Statement.next cfg reconnect statement)
      world := by
  cases canceled with
  | false => exact follows_next reconnects isFetchable_of_tracked isFetchable_of_expectRow standing
  | true =>
    by_cases noRows : ∀ res, world.resultOf statement = some res → expectRow res = false
    · exact (follows_next reconnects isFetchable_of_expectRow (fun _ expected => expected)
        (standing.of_result noRows)).weaken nofun
    · obtain ⟨res, rows⟩ := not_forall.mp noRows
      obtain ⟨result, expected⟩ := Classical.not_imp.mp rows
      obtain ⟨wrap, id, cmd, held, valid, context, present, rfl⟩ := exists_of_resultOf result
      refine follows_next_ahead standing (fun _ => rfl) held valid context present
        (by simpa using expected) (fun none => ?_) quiet
      exact nomatch inOrder _ result (by simpa using expected) fun wrap' held' => by
        rwa [← Option.some_inj.mp (held.symm.trans held')]

/-- A call of `fetch_rows` that fetches in order. -/
theorem follows_fetchRows_inOrder {reconnect : Reconnect σ} {canceled : Bool}
    (reconnects : ∀ n cmd tryReconnect,
      Keeps (Sparing n) (StopsObeying FetchRule) (reconnect cmd tryReconnect))
    (standing : Standing (trackedKinds canceled) statement world)
    (inOrder : ∀ res, world.resultOf statement = some res → expectRow res = true →
      canceled = false) (rows : Int) :
    KeepsStanding (trackedKinds canceled) statement
      (Statement.fetchRows cfg reconnect statement rows)
      world := by
  cases canceled with
  | false =>
    exact follows_fetchRows reconnects (@isFetchable_of_tracked false) isFetchable_of_expectRow
      standing rows
  | true =>
    refine (follows_fetchRows reconnects isFetchable_of_expectRow (fun _ expected => expected)
      (standing.of_result fun res result => ?_) rows).weaken nofun
    exact Bool.eq_false_iff.mpr fun expected => nomatch inOrder res result expected

/-- A call of `fetch_columns` or `get_output` that fetches in order. -/
theorem follows_readCols_inOrder {canceled : Bool} {method : CommandId → Driver σ (Option Hash)}
    (reads : ∀ id, IsTracked ResType.isFetchable id world →
      (∀ cmd, world.commands id = some cmd → cmd.lastRes.isFetchable = true) →
        Reaches (Spares 0) (StopsObeying FetchRule) (method id)
          (fun _ => IsTracked ResType.isFetchable id) (IsTracked ResType.isFetchable id) world)
    (standing : Standing (trackedKinds canceled) statement world)
    (inOrder : ∀ res, world.resultOf statement = some res →
      res.isFetchable = true ∧ canceled = false) :
    KeepsStanding (trackedKinds canceled) statement (do
      if (← checkValid statement) ≠ 0 then pure none
      else do
        let cmd ← getContext statement
        method cmd) world := by
  have tracked : Standing ResType.isFetchable statement world := by
    cases canceled with
    | false => exact standing.weaken fun _ fetchable => fetchable
    | true => exact standing.of_result fun res result => nomatch (inOrder res result).2
  exact (follows_readCols reads tracked fun res result => (inOrder res result).1).weaken
    isFetchable_of_tracked

/-- Commit and rollback leave the results tracked that are not canceled. -/
theorem follows_cancels {canceled : Bool} {method : Driver σ Int}
    (keeps : ∀ n, Keeps (Sparing n) (StopsObeying FetchRule) method)
    (standing : Standing (trackedKinds canceled) statement world) :
    KeepsStanding (trackedKinds (canceled || (world.resultOf statement).any ResType.isFetchable))
      statement
      method world := by
  have kept : ∀ after, world.nextCommand ≤ after.nextCommand ∧
      Spares world.nextCommand world after →
      Standing (trackedKinds (canceled || (world.resultOf statement).any ResType.isFetchable))
        statement after := by
    rintro after ⟨later, spares⟩
    refine .of_spares spares standing.present fun wrap held valid id context => ?_
    have below := (standing.tracked wrap held valid id context).1
    refine ⟨Nat.lt_of_lt_of_le below later, .of_last fun cmd present => ?_⟩
    obtain ⟨cmd', present', same⟩ := spares.commands id below cmd present
    rw [trackedKinds, resultOf_eq held valid context present', same, Option.any_some]
    cases canceled <;> cases cmd'.lastRes.isFetchable <;> rfl
  exact (reaches_sparing (keeps world.nextCommand) (Nat.zero_le _) (Nat.le_refl _)).mono
    (fun _ => kept) kept

theorem Sparing.directStable (cfg : Config σ) (n : CommandId) :
    DirectStable cfg (Sparing n) (StopsObeying FetchRule) where
  toBaseStable := Sparing.baseStable n
  call world site call _ direct := .of_spares rfl (.of_call _ _ (by
    cases call <;> first | rfl | cases direct))
  alloc _ := .of_spares rfl (.of_eq rfl rfl rfl)

/-- An error that is caught is raised. -/
theorem reaches_raised {α : Type} {relation : World σ → World σ → Prop} [Std.Refl relation]
    [IsTrans (World σ) relation] {stops : Halt → World σ → World σ → Prop}
    (base : BaseStable relation stops) {method : Driver σ α} {post : World σ → Prop} (failed : α)
    (raises : ∀ after raised, post after → post { after with xsink := raised :: after.xsink })
    (reaches : Reaches relation stops method (fun _ => post) post world) :
    Reaches relation stops (tryCatch method fun error => do
        error.raise
        pure failed) (fun _ => post) post world := by
  refine .tryCatch reaches fun error after holds => ?_
  have raised : Reaches relation stops (error.raise : Driver σ Unit) (fun _ => post)
      post after := by
    refine .isException (.when (fun _ => ?_) fun _ => holds)
    exact ⟨base.raise after error.err error.desc, raises after _ holds⟩
  exact raised.bind fun _ _ holds => .pure holds

theorem reaches_caught {α : Type} {relation : World σ → World σ → Prop} [Std.Refl relation]
    [IsTrans (World σ) relation] (base : BaseStable relation (StopsObeying FetchRule))
    {method : Driver σ α} (failed : α)
    (reaches : Reaches relation (StopsObeying FetchRule) method (fun _ => Standing kinds statement)
      (Standing kinds statement) world) :
    Reaches relation (StopsObeying FetchRule) (tryCatch method fun error => do
        error.raise
        pure failed)
      (fun _ => Standing kinds statement) (Standing kinds statement) world :=
  reaches_raised base failed (fun _ _ standing => ⟨standing.present, standing.tracked⟩) reaches

/-- A method of a statement that has private data is run. -/
theorem follows_run {α : Type} {method : Driver σ α} (failed : α)
    (standing : Standing kinds statement world)
    (follows : world.xsink = [] → KeepsStanding kinds statement method world) :
    KeepsStanding kinds statement (do
      let _ ← DBModuleWrap.run cfg statement failed method
      pure ()) world := by
  have returned : KeepsStanding kinds statement (DBModuleWrap.run cfg statement failed method)
      world := by
    refine reaches_caught (Spares.baseStable 0) failed (.isException ?_)
    split
    · exact .pure standing
    · rename_i quiet
      obtain ⟨wrap, held⟩ := Option.isSome_iff_exists.mp standing.present
      have opened : Reaches (Spares 0) (StopsObeying FetchRule)
          (DBModuleWrap.moduleWrap cfg statement)
          (fun _ after => world = after) (Standing kinds statement) world := by
        rw [Reaches, DBModuleWrap.moduleWrap, wp_bind, wp_get, held]
        exact ⟨.refl 0 world, rfl⟩
      refine opened.bind ?_
      rintro _ _ rfl
      exact follows (by simpa using quiet)
  exact returned.bind fun _ _ standing => .pure standing

/-- A call that follows the execution keeps the results tracked, and fetches only current ones. -/
theorem follows_call {canceled : Bool} {call : Call}
    (standing : Standing (trackedKinds canceled) statement world)
    (isCall : call.op.Follows statement) (inOrder : FetchesInOrder statement canceled world call) :
    KeepsStanding (trackedKinds (canceled || call.Cancels statement world)) statement
      (call.op.run cfg) (world.calling call) := by
  have reconnects : ∀ n cmd tryReconnect,
      Keeps (Sparing n) (StopsObeying FetchRule) (topReconnect cfg cmd tryReconnect) :=
    keeps_closeAndReconnect_sparing cfg cfg.fuel
  have called : Standing (trackedKinds canceled) statement (world.calling call) :=
    ⟨standing.present, standing.tracked⟩
  obtain ⟨xsink, op⟩ := call
  cases op with
  | statement other op =>
    obtain ⟨rfl, reads⟩ := isCall
    have same : (canceled || Call.Cancels ⟨xsink, .statement other op⟩ other world) = canceled :=
      Bool.or_false canceled
    rw [same]
    cases op with
    | next =>
      exact follows_run false called fun quiet =>
        follows_next_inOrder reconnects called quiet (inOrder quiet)
    | fetchRow => exact follows_run none called fun _ => follows_fetchRow called
    | fetchRows rows =>
      exact follows_run none called fun quiet =>
        follows_fetchRows_inOrder reconnects called (inOrder quiet) rows
    | fetchColumns rows =>
      exact follows_run none called fun quiet =>
        follows_readCols_inOrder (fun id tracked fetchable =>
          reaches_readCols_tracked fetchable tracked none rows false) called (inOrder quiet)
    | getOutput =>
      refine follows_run none called fun quiet => ?_
      refine follows_readCols_inOrder (fun id tracked fetchable => ?_) called (inOrder quiet)
      obtain ⟨wrap, held⟩ := Option.isSome_iff_exists.mp called.present
      exact .getModuleWrap held (reaches_readCols_tracked fetchable tracked _ (-1) false)
    | _ => cases reads
  | datasource op =>
    have stable := Sparing.directStable cfg
    have runs : ∀ {method : Driver σ Int},
        (∀ n, Keeps (Sparing n) (StopsObeying FetchRule) method) →
        KeepsStanding
          (trackedKinds (canceled || (world.resultOf statement).any ResType.isFetchable))
          statement (do
            let _ ← Datasource.callback 0 method
            pure ()) (world.calling ⟨xsink, .datasource op⟩) := fun keeps =>
      (reaches_caught (Spares.baseStable 0) 0 (follows_cancels keeps called)).bind
        fun _ _ standing => .pure standing
    rw [Op.run, KeepsStanding, Reaches, wp_bind, wp_get]
    split
    · cases op with
      | commit => exact runs fun n => (stable n).keeps_commit
      | rollback => exact runs fun n => (stable n).keeps_rollback
      | _ => cases isCall
    · exact ⟨_, .refl 0 _, .refl⟩

end Methods

/-! ### The execution -/

/-- A statement that holds no command with a result to fetch. -/
structure Idle (statement : StatementId) (world : World σ) : Prop where
  present : (world.statements statement).isSome
  idle : ∀ wrap, world.statements statement = some wrap → ∀ id, wrap.m.context = some id →
    id < world.nextCommand ∧
      ∀ cmd, world.commands id = some cmd → cmd.lastRes.isFetchable = false

namespace Idle

theorem standing (isIdle : Idle statement world) :
    Standing ResType.isFetchable statement world where
  present := isIdle.present
  tracked wrap held _ id context :=
    have ⟨below, fetched⟩ := isIdle.idle wrap held id context
    ⟨below, .of_last fetched⟩

end Idle

/-- A statement of whose command `lastRes` is of some kind. -/
structure Rests (kind : ResType → Prop) (statement : StatementId) (world : World σ) : Prop where
  present : (world.statements statement).isSome
  rests : ∀ wrap, world.statements statement = some wrap → ∀ id, wrap.m.context = some id →
    id < world.nextCommand ∧ ∀ cmd, world.commands id = some cmd → kind cmd.lastRes

/-- A request leaves `lastRes` as it was. -/
theorem Rests.of_spares {kind : ResType → Prop} (rests : Rests kind statement world)
    (spares : Spares world.nextCommand world after)
    (later : world.nextCommand ≤ after.nextCommand) :
    Rests kind statement after where
  present := (spares.present statement).trans rests.present
  rests wrap held id context := by
    obtain ⟨wrap', held', same, -⟩ := spares.statements statement wrap held
    obtain ⟨below, last⟩ := rests.rests wrap' held' id (same.symm.trans context)
    refine ⟨Nat.lt_of_lt_of_le below later, fun cmd present => ?_⟩
    obtain ⟨cmd', present', last'⟩ := spares.commands id below cmd present
    rw [last']
    exact last cmd' present'

/-- A statement that holds a command that was set up. -/
structure Renewed (statement : StatementId) (cmd : Option CommandId) (world : World σ) : Prop where
  present : (world.statements statement).isSome
  holds : ∀ wrap, world.statements statement = some wrap → wrap.m.context = cmd
  new : ∀ id ∈ cmd, IsNew id world

theorem Renewed.standing {cmd : Option CommandId} (renewed : Renewed statement cmd world) :
    Standing ResType.isFetchable statement world where
  present := renewed.present
  tracked wrap held _ id context := by
    have new := renewed.new id ((renewed.holds wrap held).symm.trans context)
    exact ⟨new.1, .of_isNew rfl new⟩

/-- Destroying another command leaves the one that was set up. -/
theorem Renewed.destroyStable (cfg : Config σ) (statement : StatementId) {cmd : Option CommandId}
    (other : ∀ new ∈ cmd, new ≠ id) :
    DestroyStable cfg id (Holding (Renewed statement cmd) (Obeys FetchRule))
      (StopsObeying FetchRule) where
  raise _ _ _ renewed := ⟨⟨renewed.present, renewed.holds, renewed.new⟩, .refl⟩
  discard _ renewed := ⟨⟨renewed.present, renewed.holds, renewed.new⟩, .refl⟩
  halts _ _ _ := .refl
  clear _ _ _ renewed :=
    ⟨⟨renewed.present, renewed.holds, renewed.new⟩, Obeys.of_call _ _ nofun⟩
  terminated _ _ _ := Obeys.of_call _ _ nofun
  drop _ _ renewed := ⟨⟨renewed.present, renewed.holds, renewed.new⟩, Obeys.of_call _ _ nofun⟩
  handle world renewed := ⟨⟨renewed.present, renewed.holds, fun new member =>
    have ⟨below, cmd, held, last⟩ := renewed.new new member
    ⟨below, cmd, by simpa [other new member] using held, last⟩⟩, .refl⟩
  remove world renewed := ⟨⟨renewed.present, renewed.holds, fun new member =>
    have ⟨below, cmd, held, last⟩ := renewed.new new member
    ⟨below, cmd, by simpa [other new member] using held, last⟩⟩, .refl⟩

/-- What is known of the log when commands are left as they were. -/
theorem reachesBy_of_spares {α : Type} {n : CommandId} {program : Driver σ α}
    {onOk : α → World σ → Prop} {onThrow : World σ → Prop}
    (reaches : Reaches (Spares n) (StopsObeying FetchRule) program onOk onThrow world) :
    ReachesBy FetchRule program onOk onThrow world :=
  wp_mono reaches (fun _ _ post => ⟨post.1.obeys, post.2⟩) (fun _ _ post => ⟨post.1.obeys, post.2⟩)
    fun _ _ ⟨last, spares, stopped⟩ => ⟨last, spares.obeys, stopped⟩

section Execution

/-- The command a statement holds is canceled, unless it has ended. -/
theorem reaches_cancelContext {kind : ResType → Prop} (isCanceled : kind .resCanceled)
    (isEnded : kind .resEnd) (numbered : Numbered world)
    (present : (world.statements statement).isSome) :
    ReachesBy FetchRule (cancelContext cfg statement)
      (fun _ after => Rests kind statement after ∧ after.nextCommand = world.nextCommand)
      (fun _ => False) world := by
  obtain ⟨wrap, held⟩ := Option.isSome_iff_exists.mp present
  refine .getModuleWrap held ?_
  split
  · rename_i id context
    cases there : world.commands id with
    | none =>
      have canceled : ReachesBy FetchRule (Command.cancel cfg id) (fun _ _ => False)
          (fun _ => False) world :=
        .getCommand (Obeys.baseStable FetchRule) fun cmd held => absurd held (by simp [there])
      exact canceled.bind fun _ _ impossible => impossible.elim
    | some cmd =>
      have canceled : ReachesBy FetchRule (Command.cancel cfg id) _ (fun _ => False) world :=
        reaches_cancel (permits_fetchRule _) ⟨cmd, there, rfl, rfl, rfl⟩
      refine ((reachesBy_of_spares (Spares.lifts (Nat.zero_le id)
        (Reads.readingStable cfg id).keeps_cancel canceled)).mono (fun _ _ post => post)
          fun _ ⟨_, impossible⟩ => impossible.elim).bind fun _ after ⟨read, ended⟩ => .pure ?_
      refine ⟨⟨read.statements ▸ present, fun wrap' held' id' context' => ?_⟩, read.nextCommand⟩
      cases held.symm.trans ((congrFun read.statements statement).symm.trans held')
      cases context.symm.trans context'
      refine ⟨read.nextCommand ▸ numbered id cmd there, fun cmd' held' => ?_⟩
      split at ended
      · rename_i isEnd
        obtain ⟨cmd'', held'', -, last, -⟩ := ended
        cases held'.symm.trans held''
        rwa [last, isEnd]
      · obtain ⟨cmd'', held'', -, last, -⟩ := ended
        cases held'.symm.trans held''
        rwa [last]
  · rename_i context
    refine .pure ⟨⟨present, fun wrap' held' id context' => ?_⟩, rfl⟩
    cases held.symm.trans held'
    cases context.symm.trans context'

/-- A statement takes the command that was set up, and destroys the one it held. -/
theorem reaches_resetContext {n : CommandId} {cmd : Option CommandId}
    (present : (world.statements statement).isSome)
    (below : ∀ wrap, world.statements statement = some wrap →
      ∀ id, wrap.m.context = some id → id < n)
    (set : SetsUp n cmd world) :
    ReachesBy FetchRule (resetContext cfg statement cmd) (fun _ => Renewed statement cmd)
      (Renewed statement cmd) world := by
  obtain ⟨wrap, held⟩ := Option.isSome_iff_exists.mp present
  have renewed : Renewed statement cmd { world with
      statements := Function.update world.statements statement
        ((world.statements statement).map fun wrap =>
          { wrap with m := { wrap.m with context := cmd } }) } :=
    { present := by simp [held]
      holds := fun wrap' held' => by
        simp only [held, Option.map_some, Function.update_self, Option.some_inj] at held'
        rw [← held']
      new := fun id member => (set.2 id member).2 }
  refine .getModuleWrap held (.modify (Obeys.of_eq rfl) ?_)
  cases context : wrap.m.context with
  | none => exact .pure renewed
  | some old =>
    have less := below wrap held old context
    exact .of_holding (Renewed.destroyStable cfg statement fun id member =>
      Nat.ne_of_gt (Nat.lt_of_lt_of_le less (set.2 id member).1)).keeps_destroy renewed

/-- What holds after a statement was executed: of a statement that may not be used, of one that
holds the command it held before, canceled or at its end, and of one that holds a new command. -/
theorem reaches_execTo {kind : ResType → Prop} {post : World σ → Prop} {reconnect : Reconnect σ}
    (reconnects : ∀ n cmd tryReconnect,
      Keeps (Sparing n) (StopsObeying FetchRule) (reconnect cmd tryReconnect))
    (isCanceled : kind .resCanceled) (isEnded : kind .resEnd) (numbered : Numbered world)
    (present : (world.statements statement).isSome)
    (invalid : ∀ wrap, world.statements statement = some wrap → wrap.m.valid = false →
      ∀ raised, post { world with xsink := raised :: world.xsink })
    (rests : ∀ after, Rests kind statement after → post after)
    (renewed : ∀ cmd after, (after.statements statement).isSome →
      (∀ wrap, after.statements statement = some wrap → wrap.m.context = cmd) →
      (∀ id ∈ cmd, world.nextCommand ≤ id ∧ IsTracked ResType.isFetchable id after) → post after)
    (query : Option Text) (args : Option (List QoreValue)) (raw : Bool) :
    ReachesBy FetchRule (Statement.exec cfg reconnect statement query args raw) (fun _ => post) post
      world := by
  have base := Obeys.baseStable (σ := σ) FetchRule
  refine reaches_ifValid base present invalid fun _ _ _ => ?_
  refine ((reaches_cancelContext isCanceled isEnded numbered present).mono (fun _ _ rests => rests)
    fun _ impossible => impossible.elim).bind fun _ middle ⟨resting, same⟩ => .checkOpen base ?_
  cases query with
  | none => exact .halt .refl
  | some query =>
    have setsUp : ReachesBy FetchRule (setupCommand cfg reconnect query args raw) _ _ middle :=
      reachesBy_of_spares
      (reaches_setupCommand reconnects (Nat.le_refl middle.nextCommand) query args raw).related
    refine (setsUp.mono (fun _ _ post => post) fun _ ⟨spares, later⟩ =>
      rests _ (resting.of_spares spares later)).bind fun cmd set ⟨spares, setUp⟩ => ?_
    have below : ∀ wrap, set.statements statement = some wrap → ∀ id, wrap.m.context = some id →
        id < middle.nextCommand := fun wrap held id context =>
      have ⟨wrap', held', same, _⟩ := spares.statements statement wrap held
      (resting.rests wrap' held' id (same.symm.trans context)).1
    have above : ∀ id ∈ cmd, world.nextCommand ≤ id := fun id member =>
      same ▸ (setUp.2 id member).1
    have isNew : ∀ after, Renewed statement cmd after → post after := fun after isRenewed =>
      renewed cmd after isRenewed.present isRenewed.holds fun id member =>
        have new := isRenewed.new id member
        ⟨above id member, new.1, .of_isNew rfl new⟩
    refine ((reaches_resetContext (resting.of_spares spares setUp.1).present below setUp).mono
      (fun _ _ renewed => renewed) isNew).bind fun _ renewal isRenewed => .isException ?_
    split
    · exact .pure (isNew _ isRenewed)
    · have reads : ReachesBy FetchRule (Statement.readNextResult cfg reconnect cmd)
          (fun _ => post) post
          renewal := by
        cases cmd with
        | none =>
          refine .isException ?_
          split
          · exact .pure (isNew _ isRenewed)
          · exact .halt .refl
        | some id =>
          have new := isRenewed.new id rfl
          have uses : Using ResType.isFetchable statement id renewal :=
            ⟨isRenewed.present, isRenewed.holds, new.1, .of_isNew rfl new⟩
          have read : ∀ after, Spares 0 renewal after → IsTracked ResType.isFetchable id after →
              post after := fun after spares tracked =>
            have uses := uses.of_spares spares tracked
            renewed (some id) after uses.present uses.holds fun other member => by
              cases member
              exact ⟨above id rfl, uses.tracked⟩
          have reads : Reaches (Spares 0) (StopsObeying FetchRule)
              (Connection.readNextResult cfg reconnect id) _ _ renewal :=
            (reaches_connectionReadNextResult reconnects (fun _ kind => kind) (Nat.zero_le id)
              uses.tracked).related
          exact (reachesBy_of_spares reads).mono
            (fun _ _ ⟨spares, tracked, _⟩ => read _ spares tracked)
            fun _ ⟨spares, tracked⟩ => read _ spares tracked
      refine reads.bind fun _ _ post => .isException ?_
      split
      · exact .pure post
      · exact .pure post

/-- A statement gets its private data where it has none. -/
theorem reaches_moduleWrap (numbered : Numbered world) :
    ReachesBy FetchRule (DBModuleWrap.moduleWrap cfg statement)
      (fun _ after => Numbered after ∧ (after.statements statement).isSome ∧
        world.nextCommand ≤ after.nextCommand)
      (fun after => (after.statements statement).isSome ∧
        ∀ wrap, after.statements statement = some wrap → wrap.m.context = none) world := by
  cases held : world.statements statement with
  | some wrap =>
    rw [ReachesBy, Reaches, DBModuleWrap.moduleWrap, wp_bind, wp_get, held]
    exact ⟨.refl, numbered, by simp [held], Nat.le_refl _⟩
  | none =>
    let created : World σ := { world with
      statements := Function.update world.statements statement (some DBModuleWrap.create) }
    have spared := reaches_sparing (keeps_registerStatement
      (Sparing.closeStable cfg created.nextCommand) statement fun _ =>
        .of_spares rfl (.of_eq rfl rfl rfl))
        (Nat.zero_le _) (Nat.le_refl _)
    have numbers := keeps_registerStatement (Numbered.stable cfg).closeStable statement
      (fun _ numbered => numbered) created
    have registers : ReachesBy FetchRule (registerStatement cfg statement)
        (fun _ after => Numbered after ∧ (after.statements statement).isSome ∧
          world.nextCommand ≤ after.nextCommand)
        (fun after => (after.statements statement).isSome ∧
          ∀ wrap, after.statements statement = some wrap → wrap.m.context = none) created := by
      refine reachesBy_of_spares (n := 0) (wp_mono (Program.wp_and spared numbers) ?_ ?_
        fun _ _ halted => halted.1)
      · rintro _ after ⟨⟨spares, later, -⟩, preserves⟩
        refine ⟨spares, preserves numbered, ?_, later⟩
        rw [spares.present]
        simp [created]
      · rintro _ after ⟨⟨spares, -⟩, -⟩
        refine ⟨spares, ?_, fun wrap held => ?_⟩
        · rw [spares.present]
          simp [created]
        · obtain ⟨wrap', held', context, -⟩ := spares.statements statement wrap held
          simp only [created, Function.update_self, Option.some_inj] at held'
          rw [context, ← held']
          rfl
    rw [ReachesBy, Reaches, DBModuleWrap.moduleWrap, wp_bind, wp_get, held]
    exact Reaches.modify (Obeys.of_eq rfl) (.checkOpen (Obeys.baseStable FetchRule) registers)

/-- What holds after a call of `exec`. -/
theorem reaches_execOpTo {kind : ResType → Prop} {post : World σ → Prop}
    (isCanceled : kind .resCanceled) (isEnded : kind .resEnd) (numbered : Numbered world)
    (raises : ∀ after raised, post after → post { after with xsink := raised :: after.xsink })
    (bare : ∀ after, (after.statements statement).isSome →
      (∀ wrap, after.statements statement = some wrap → wrap.m.context = none) → post after)
    (invalid : ∀ after, (after.statements statement).isSome →
      (∀ wrap, after.statements statement = some wrap → wrap.m.valid = false) → post after)
    (rests : ∀ after, Rests kind statement after → post after)
    (renewed : ∀ cmd after, (after.statements statement).isSome →
      (∀ wrap, after.statements statement = some wrap → wrap.m.context = cmd) →
      (∀ id ∈ cmd, world.nextCommand ≤ id ∧ IsTracked ResType.isFetchable id after) → post after) :
    ReachesBy FetchRule (StatementOp.exec.run cfg statement) (fun _ => post) post world := by
  have executed : ReachesBy FetchRule (DBModuleWrap.execBody cfg statement) (fun _ => post) post
      world := by
    refine ((reaches_moduleWrap numbered).mono (fun _ _ made => made) fun after unmade =>
      bare after unmade.1 unmade.2).bind fun _ middle ⟨numbered, present, later⟩ => ?_
    obtain ⟨wrap, held⟩ := Option.isSome_iff_exists.mp present
    refine .getModuleWrap held (reaches_execTo (keeps_closeAndReconnect_sparing cfg cfg.fuel)
      isCanceled isEnded numbered present (fun wrap held isInvalid raised => ?_) rests
      (fun cmd after present holds new => ?_) _ _ _)
    · refine invalid _ present fun wrap' held' => ?_
      cases held.symm.trans held'
      exact isInvalid
    · exact renewed cmd after present holds fun id member =>
        ⟨Nat.le_trans later (new id member).1, (new id member).2⟩
  exact (reaches_raised (Obeys.baseStable FetchRule) (-1) raises executed).bind
    fun _ _ holds => .pure holds

/-- Executing a statement. -/
theorem reaches_execOp (numbered : Numbered world) :
    ReachesBy FetchRule (StatementOp.exec.run cfg statement)
      (fun _ => Standing ResType.isFetchable statement) (Standing ResType.isFetchable statement)
      world := by
  let kind (res : ResType) : Prop := res.isFetchable = false
  have isCanceled : kind .resCanceled := rfl
  have isEnded : kind .resEnd := rfl
  refine reaches_execOpTo isCanceled isEnded numbered
    (fun _ _ standing => ⟨standing.present, standing.tracked⟩) ?_ ?_ ?_ ?_
  · intro after present unbound
    exact ⟨present, fun wrap held _ id context => nomatch (unbound wrap held).symm.trans context⟩
  · intro after present isInvalid
    exact ⟨present, fun wrap held valid => absurd (valid.symm.trans (isInvalid wrap held))
      (by simp)⟩
  · exact fun _ resting => Idle.standing ⟨resting.present, resting.rests⟩
  · intro cmd after present holds new
    exact ⟨present, fun wrap held _ id context =>
      (new id ((holds wrap held).symm.trans context)).2⟩

end Execution

/-! ### Runs -/

/-- In a run whose calls meet the condition, the results of the statement are tracked. -/
theorem ExecutedRun.standing {start : World σ} {canceled : Bool}
    (run : ExecutedRun cfg statement (FetchesInOrder statement) start canceled world) :
    Standing (trackedKinds canceled) statement world ∧ Obeys FetchRule start world := by
  induction run with
  | @executed after call reached executes returns =>
    have reaches : ReachesBy FetchRule (StatementOp.exec.run cfg statement) _ _
        (start.calling call) := reaches_execOp reached.numbered
    rw [Call.run, executes] at returns
    have ⟨obeys, standing⟩ := (wp_iff_forall.mp reaches).1 _ _ returns
    exact ⟨standing.weaken fun _ fetchable => fetchable, obeys⟩
  | @call canceled world after call _ follows meets ends inductionHypothesis =>
    obtain ⟨standing, obeys⟩ := inductionHypothesis
    have called : KeepsStanding _ statement (call.op.run cfg) (world.calling call) :=
      follows_call standing follows meets
    have ⟨returned, threw, _⟩ := wp_iff_forall.mp called
    rcases ends with returns | ⟨error, throws⟩
    · have ⟨spares, standing⟩ := returned _ _ returns
      exact ⟨standing, Lawful.trans obeys spares.obeys⟩
    · have ⟨spares, standing⟩ := threw _ _ throws
      exact ⟨standing, Lawful.trans obeys spares.obeys⟩

/-- In a run whose calls meet the condition, every call fetches from current results only. -/
theorem fetches_current {start : World σ} {canceled : Bool}
    (run : ExecutedRun cfg statement (FetchesInOrder statement) start canceled world) {call : Call}
    (follows : call.op.Follows statement) (inOrder : FetchesInOrder statement canceled world call) :
    Lawful FetchRule start.log (call.run cfg world).2.log := by
  obtain ⟨standing, obeys⟩ := run.standing
  have called : KeepsStanding _ statement (call.op.run cfg) (world.calling call) :=
    follows_call standing follows inOrder
  have ⟨returned, threw, stopped⟩ := wp_iff_forall.mp called
  refine Lawful.trans obeys ?_
  rcases ends : call.run cfg world with ⟨value | error | reason, after⟩
  · exact (returned _ _ ends).1.obeys
  · exact (threw _ _ ends).1.obeys
  · obtain ⟨last, spares, stopped⟩ := stopped _ _ ends
    exact Lawful.trans spares.obeys stopped

/-- The configuration of the samples. -/
abbrev fetchConfig : Config (List Reply) := Config.sample (CtLib.scripted false) true 9

/-- A call of a method of the sample statement. -/
def sampleCall (op : StatementOp) : Call := ⟨[], .statement 0 op⟩

/-- A Datasource with a statement that is prepared. -/
def samplePrepared (replies : List Reply) : World (List Reply) :=
  ((sampleCall (.prepare (text "select 1") none)).run fetchConfig (World.opened replies)).2

theorem samplePrepared_reachable (replies : List Reply) :
    Reachable fetchConfig (fun _ _ => True) (samplePrepared replies) := by
  have start : (World.opened replies).IsStart := ⟨rfl, rfl, rfl, rfl⟩
  have prepared : (sampleCall (.prepare (text "select 1") none)).run fetchConfig
      (World.opened replies) = (.ok (), samplePrepared replies) := rfl
  exact .call (.start start) trivial (.inl prepared)

/-- The state after the execution of the sample statement. -/
def sampleExecuted (replies : List Reply) : World (List Reply) :=
  ((sampleCall .exec).run fetchConfig (samplePrepared replies)).2

/-- A result with rows, and then a commit. -/
def rowThenCommit : List Reply := [{}, {}, {}, { resultType := .row }, {}, {}, {}, {},
  { resultType := .cmdSucceed }, { code := .endResults }, {}]

/-- A command that is done without rows. -/
def doneWithoutRows : List Reply := [{}, {}, {}, { resultType := .cmdDone }, {}]

theorem sampleExecuted_run : (sampleCall .exec).run fetchConfig (samplePrepared rowThenCommit) =
    (.ok (), sampleExecuted rowThenCommit) := rfl

/-- The columns of a result with rows are fetched. -/
theorem fetches_current_columns : Lawful FetchRule (samplePrepared rowThenCommit).log
    ((sampleCall (.fetchColumns 1)).run fetchConfig (sampleExecuted rowThenCommit)).2.log := by
  refine fetches_current (.executed (samplePrepared_reachable _) rfl sampleExecuted_run)
    ⟨rfl, rfl⟩ fun _ res result => ?_
  have row : (sampleExecuted rowThenCommit).resultOf 0 = some .resRow := rfl
  cases row.symm.trans result
  exact ⟨rfl, rfl⟩

/-- The columns are asked for of a result that has none. -/
theorem not_fetches_current : ∃ (start world : World (List Reply)) (canceled : Bool) (call : Call),
    ExecutedRun fetchConfig 0 (fun _ _ _ => True) start canceled world ∧ call.op.Follows 0 ∧
      ¬Lawful FetchRule start.log (call.run fetchConfig world).2.log := by
  have returns : (sampleCall .exec).run fetchConfig (samplePrepared doneWithoutRows) =
      (.ok (), sampleExecuted doneWithoutRows) := rfl
  refine ⟨_, _, _, sampleCall (.fetchColumns 1),
    .executed (samplePrepared_reachable _) rfl returns, ⟨rfl, rfl⟩, fun lawful => ?_⟩
  have asked : ((sampleCall (.fetchColumns 1)).run fetchConfig
        (sampleExecuted doneWithoutRows)).2.log =
      ⟨0, .other, .call (.numData (some 0)) { code := .fail, connected := false }⟩ ::
        (sampleExecuted doneWithoutRows).log := rfl
  have permitted : FetchRule (.numData (some 0)) (sampleExecuted doneWithoutRows).log :=
    lawful.newest asked (by decide +kernel) rfl
  obtain ⟨cmd, about, current⟩ := permitted rfl
  cases about
  cases current

/-- The state after the commit. -/
def sampleCommitted : World (List Reply) :=
  (Call.run fetchConfig ⟨[], .datasource .commit⟩ (sampleExecuted rowThenCommit)).2

/-- The columns are asked for of a result that a commit has canceled. -/
theorem not_fetches_current_canceled : ∃ (start world : World (List Reply)) (canceled : Bool)
    (call : Call), ExecutedRun fetchConfig 0 (fun _ _ _ => True) start canceled world ∧
      call.op.Follows 0 ∧ ¬Lawful FetchRule start.log (call.run fetchConfig world).2.log := by
  have commits : Call.run fetchConfig ⟨[], .datasource .commit⟩ (sampleExecuted rowThenCommit) =
      (.ok (), sampleCommitted) := rfl
  have follows : Op.Follows 0 (.datasource .commit) := rfl
  refine ⟨_, _, _, sampleCall (.fetchColumns 1), .call
    (.executed (samplePrepared_reachable _) rfl sampleExecuted_run) follows trivial (.inl commits),
    ⟨rfl, rfl⟩, fun lawful => ?_⟩
  have asked : ((sampleCall (.fetchColumns 1)).run fetchConfig sampleCommitted).2.log =
      ⟨0, .other, .call (.numData (some 0)) { code := .fail, connected := false }⟩ ::
        sampleCommitted.log := rfl
  have permitted : FetchRule (.numData (some 0)) sampleCommitted.log :=
    lawful.newest asked (by decide +kernel) rfl
  obtain ⟨cmd, about, current⟩ := permitted rfl
  cases about
  cases current

end Sybase
