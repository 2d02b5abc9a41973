/-
This file proves that a request, and a reconnect with the requests it makes, leaves the
commands made before it as they were: they may be disconnected, but no result of theirs is
announced or fetched. Of the commands made in it only results that are current are fetched.
-/

import SybaseDriver.Growth
import SybaseDriver.Phases
import SybaseDriver.CommandLogic

namespace Sybase

open Program Connection Command

variable {σ : Type} {cfg : Config σ} {n id : CommandId} {world middle after : World σ}

/-! ### What is left as it was -/

/-- Fetching is permitted on a result that is current. -/
def FetchRule (call : CtCall) (log : List Entry) : Prop :=
  call.isFetching = true → ∃ cmd, call.command? = some cmd ∧ phase cmd log = .current

theorem permits_fetchRule (cmd : Option Handle) : Permits FetchRule cmd where
  fetching _ _ _ about current _ := ⟨cmd, about, current⟩
  others _ _ quiet _ fetching := by simp [quiet] at fetching

/-- Only current results are fetched. The commands below a number keep their `lastRes`, where they
are still there, and the statements the commands they hold. -/
structure Spares (n : CommandId) (world after : World σ) : Prop where
  obeys : Obeys FetchRule world after
  commands : ∀ id < n, ∀ cmd, after.commands id = some cmd →
    ∃ cmd', world.commands id = some cmd' ∧ cmd.lastRes = cmd'.lastRes
  statements : ∀ statement wrap, after.statements statement = some wrap →
    ∃ wrap', world.statements statement = some wrap' ∧ wrap.m.context = wrap'.m.context ∧
      (wrap.m.valid = true → wrap'.m.valid = true)
  present : ∀ statement,
    (after.statements statement).isSome = (world.statements statement).isSome

namespace Spares

theorem refl (n : CommandId) (world : World σ) : Spares n world world where
  obeys := .refl
  commands _ _ cmd held := ⟨cmd, held, rfl⟩
  statements _ wrap held := ⟨wrap, held, rfl, fun valid => valid⟩
  present _ := rfl

theorem trans (first : Spares n world middle) (second : Spares n middle after) :
    Spares n world after where
  obeys := first.obeys.trans second.obeys
  commands id below cmd held := by
    obtain ⟨cmd', held', same⟩ := second.commands id below cmd held
    obtain ⟨cmd'', held'', same'⟩ := first.commands id below cmd' held'
    exact ⟨cmd'', held'', same.trans same'⟩
  statements statement wrap held := by
    obtain ⟨wrap', held', context, valid⟩ := second.statements statement wrap held
    obtain ⟨wrap'', held'', context', valid'⟩ := first.statements statement wrap' held'
    exact ⟨wrap'', held'', context.trans context', fun isValid => valid' (valid isValid)⟩
  present statement := (second.present statement).trans (first.present statement)

instance (n : CommandId) : Std.Refl (Spares (σ := σ) n) := ⟨refl n⟩

instance (n : CommandId) : IsTrans (World σ) (Spares n) := ⟨fun _ _ _ => trans⟩

/-- A change of the log alone. -/
theorem of_log (obeys : Obeys FetchRule world after) (commands : after.commands = world.commands)
    (statements : after.statements = world.statements) : Spares n world after where
  obeys := obeys
  commands _ _ cmd held := ⟨cmd, commands ▸ held, rfl⟩
  statements _ wrap held := ⟨wrap, statements ▸ held, rfl, fun valid => valid⟩
  present _ := by rw [statements]

theorem of_eq (log : after.log = world.log) (commands : after.commands = world.commands)
    (statements : after.statements = world.statements) : Spares n world after :=
  of_log (Obeys.of_eq log) commands statements

/-- A call that does not fetch. -/
theorem of_call (lib : CtLib σ) (site : Site) {call : CtCall} (quiet : call.isFetching = false) :
    Spares n world (world.answered lib site call) :=
  of_log (Obeys.of_call lib site fun fetching => absurd fetching (by simp [quiet])) rfl rfl

/-- A change of a command that keeps its `lastRes`. -/
theorem of_change {change : Command → Command} (kept : ∀ cmd, (change cmd).lastRes = cmd.lastRes) :
    Spares n world { world with
      commands := Function.update world.commands id ((world.commands id).map change) } where
  obeys := .refl
  commands other _ cmd held := by
    by_cases same : other = id
    · subst same
      simp only [Function.update_self, Option.map_eq_some_iff] at held
      obtain ⟨cmd', held', rfl⟩ := held
      exact ⟨cmd', held', kept cmd'⟩
    · exact ⟨cmd, by simpa [same] using held, rfl⟩
  statements _ wrap held := ⟨wrap, held, rfl, fun valid => valid⟩
  present _ := rfl

/-- A command is removed. -/
theorem of_remove (id : CommandId) : Spares n world { world with
    commands := Function.update world.commands id none } where
  obeys := .refl
  commands other _ cmd held := by
    by_cases same : other = id
    · subst same
      simp at held
    · exact ⟨cmd, by simpa [same] using held, rfl⟩
  statements _ wrap held := ⟨wrap, held, rfl, fun valid => valid⟩
  present _ := rfl

/-- A change of a statement that keeps the command it holds. -/
theorem of_statement {statement : StatementId} {change : ModuleWrap → ModuleWrap}
    (kept : ∀ wrap, (change wrap).m.context = wrap.m.context ∧
      ((change wrap).m.valid = true → wrap.m.valid = true)) :
    Spares n world { world with
      statements := Function.update world.statements statement
        ((world.statements statement).map change) } where
  obeys := .refl
  commands _ _ cmd held := ⟨cmd, held, rfl⟩
  statements other wrap held := by
    by_cases same : other = statement
    · subst same
      simp only [Function.update_self, Option.map_eq_some_iff] at held
      obtain ⟨wrap', held', rfl⟩ := held
      exact ⟨wrap', held', kept wrap'⟩
    · exact ⟨wrap, by simpa [same] using held, rfl, fun valid => valid⟩
  present other := by
    by_cases same : other = statement
    · subst same
      simp
    · simp [same]

/-- A change of a command that is not below the number. -/
theorem of_reads (obeys : Obeys FetchRule world after) (reads : Reads id world after)
    (above : n ≤ id) : Spares n world after where
  obeys := obeys
  commands other below cmd held :=
    ⟨cmd, (reads.others other (Nat.ne_of_lt (Nat.lt_of_lt_of_le below above))) ▸ held, rfl⟩
  statements _ wrap held := ⟨wrap, reads.statements ▸ held, rfl, fun valid => valid⟩
  present _ := by rw [reads.statements]

end Spares

/-- From a state in which the commands below a number have been made, they are left as they were. -/
abbrev Sparing (n : CommandId) : World σ → World σ → Prop :=
  Holding (fun world => n ≤ world.nextCommand) (Spares n)

/-! ### Steps -/

section Steps

theorem Sparing.of_spares (same : after.nextCommand = world.nextCommand)
    (spares : Spares n world after) : Sparing n world after :=
  fun below => ⟨Nat.le_trans below (Nat.le_of_eq same.symm), spares⟩

theorem Spares.baseStable (n : CommandId) :
    BaseStable (Spares (σ := σ) n) (StopsObeying FetchRule) where
  raise _ _ _ := of_eq rfl rfl rfl
  discard _ := of_eq rfl rfl rfl
  halts _ _ _ := .refl

theorem Sparing.baseStable (n : CommandId) :
    BaseStable (Sparing (σ := σ) n) (StopsObeying FetchRule) where
  raise world err desc := .of_spares rfl ((Spares.baseStable n).raise world err desc)
  discard world := .of_spares rfl ((Spares.baseStable n).discard world)
  halts _ _ _ := .refl

theorem Sparing.connectStable (cfg : Config σ) (n : CommandId) :
    ConnectStable cfg (Sparing n) where
  toRaiseStable := (baseStable n).toRaiseStable
  call world call isInit := .of_spares rfl (.of_call _ _ (by
    cases call <;> first | rfl | cases isInit))
  connection _ _ _ _ _ := .of_spares rfl (.of_eq rfl rfl rfl)

theorem Sparing.destroyStable (cfg : Config σ) (n id : CommandId) :
    DestroyStable cfg id (Sparing n) (StopsObeying FetchRule) where
  toBaseStable := baseStable n
  clear _ _ _ := .of_spares rfl (.of_call _ _ rfl)
  terminated _ _ _ := Obeys.of_call _ _ nofun
  drop _ _ := .of_spares rfl (.of_call _ _ rfl)
  handle _ := .of_spares rfl (.of_change fun _ => rfl)
  remove _ := .of_spares rfl (.of_remove id)

theorem Sparing.closeStable (cfg : Config σ) (n : CommandId) :
    CloseStable cfg (Sparing n) (StopsObeying FetchRule) where
  toBaseStable := baseStable n
  close world site call _ closing := .of_spares rfl (.of_call _ _ (by
    cases call <;> first | rfl | cases closing))
  noted world statement := .of_spares rfl (.of_log (Obeys.of_record .other (by simp)) rfl rfl)
  disconnect _ _ := .of_spares rfl (.of_change fun _ => rfl)
  invalid _ _ := .of_spares rfl (.of_statement fun _ => ⟨rfl, fun valid => nomatch valid⟩)
  unregister _ := .of_spares rfl (.of_eq rfl rfl rfl)
  reset _ _ _ := .of_spares rfl (.of_eq rfl rfl rfl)

end Steps

/-! ### Setting up a command -/

/-- A command that has been made and has no results yet. -/
def IsNew (id : CommandId) (world : World σ) : Prop :=
  id < world.nextCommand ∧ ∃ cmd, world.commands id = some cmd ∧ cmd.lastRes = .resNone

/-- A change of a new command that keeps its `lastRes`. -/
theorem IsNew.change (new : IsNew id world) {change : Command → Command}
    (kept : ∀ cmd, (change cmd).lastRes = cmd.lastRes) : IsNew id { world with
      commands := Function.update world.commands id ((world.commands id).map change) } := by
  obtain ⟨below, cmd, held, last⟩ := new
  exact ⟨below, change cmd, by simp [held], (kept cmd).trans last⟩

/-- Binding a query leaves a command new. -/
theorem IsNew.bindStable (cfg : Config σ) (n id : CommandId) :
    BindStable cfg id (Holding (IsNew id) (Spares n)) (StopsObeying FetchRule) where
  raise _ _ _ new := ⟨new, .of_eq rfl rfl rfl⟩
  discard _ new := ⟨new, .of_eq rfl rfl rfl⟩
  halts _ _ _ := .refl
  bind world call binding new := ⟨new, .of_call _ _ (by
    cases call <;> first | rfl | cases binding)⟩
  query _ _ new := ⟨new.change fun _ => rfl, .of_change fun _ => rfl⟩

/-- A command that was set up, if there is one, is not below the number and is new. -/
def SetsUp (n : CommandId) (cmd : Option CommandId) (world : World σ) : Prop :=
  n ≤ world.nextCommand ∧ ∀ id ∈ cmd, n ≤ id ∧ IsNew id world

theorem reaches_create (below : n ≤ world.nextCommand) {onThrow : World σ → Prop} :
    Reaches (Spares n) (StopsObeying FetchRule) (create cfg)
      (fun id after => n ≤ id ∧ IsNew id after) onThrow world := by
  rw [Reaches, wp_create]
  refine ⟨{ Spares.refl n world with obeys := ?_, commands := fun id less cmd held => ?_ },
    below, Nat.lt_succ_self _, _, Function.update_self _ _ _, rfl⟩
  · exact Obeys.of_call cfg.lib .other (by simp [FetchRule, CtCall.isFetching])
  · have different : id ≠ world.nextCommand := Nat.ne_of_lt (Nat.lt_of_lt_of_le less below)
    exact ⟨cmd, by simpa [World.allocated, different] using held, rfl⟩

section Requests

variable {reconnect : Reconnect σ}
  (reconnects : ∀ n cmd tryReconnect,
    Keeps (Sparing n) (StopsObeying FetchRule) (reconnect cmd tryReconnect))
include reconnects

theorem reaches_sendOrReconnect (above : n ≤ id) (new : IsNew id world) :
    Reaches (Spares n) (StopsObeying FetchRule) (sendOrReconnect cfg reconnect id)
      (fun sent after => n ≤ after.nextCommand ∧ (sent = true → IsNew id after))
      (fun after => n ≤ after.nextCommand) world := by
  have base := Spares.baseStable (σ := σ) n
  have below : n ≤ world.nextCommand := Nat.le_trans above (Nat.le_of_lt new.1)
  have sends : Reaches (Spares n) (StopsObeying FetchRule) (send cfg id)
      (fun _ after => IsNew id after) (fun after => n ≤ after.nextCommand) world :=
    .getCommand base fun cmd held => .call (.of_call _ _ rfl)
      (.when (fun _ => .doException base.toRaiseStable below) fun _ => new)
  refine .tryCatch (sends.bind fun _ sent new => .pure
    ⟨Nat.le_trans above (Nat.le_of_lt new.1), fun _ => new⟩) fun error failed below => ?_
  have pings : Reaches (Spares n) (StopsObeying FetchRule) (ping cfg)
      (fun _ after => n ≤ after.nextCommand) (fun after => n ≤ after.nextCommand) failed :=
    .call (.of_call _ _ rfl) (.pure below)
  refine pings.bind fun up asked below => ?_
  split
  · exact .throw below
  · refine (Reaches.of_holding (reconnects n id true) below).bind fun result tried below => ?_
    split
    · exact .throw below
    · exact .pure ⟨below, nofun⟩

theorem reaches_setupCommandOnce (below : n ≤ world.nextCommand) (cmdText : Text)
    (args : Option (List QoreValue)) (raw : Bool) :
    Reaches (Spares n) (StopsObeying FetchRule) (setupCommandOnce cfg reconnect cmdText args raw)
      (Sum.elim (fun _ after => n ≤ after.nextCommand) (SetsUp n))
      (fun after => n ≤ after.nextCommand) world := by
  have destroys : ∀ id middle, n ≤ middle.nextCommand →
      Reaches (Spares n) (StopsObeying FetchRule) (Command.destroy cfg id)
        (fun _ after => n ≤ after.nextCommand) (fun after => n ≤ after.nextCommand) middle :=
    fun id _ below => .of_holding (Sparing.destroyStable cfg n id).keeps_destroy below
  refine (Reaches.of_holding ((Sparing.baseStable n).keeps_initQuery cmdText args raw) below).bind
    fun result middle below => ?_
  split
  · exact .pure ⟨below, nofun⟩
  · rename_i query
    refine (reaches_create below).bind fun id made ⟨above, new⟩ => ?_
    have binds := (Reaches.of_holding
      ((IsNew.bindStable cfg n id).keeps_bindQuery query args) new).mono
      (fun _ _ new => new) fun _ new => Nat.le_trans above (Nat.le_of_lt new.1)
    have sends : Reaches (Spares n) (StopsObeying FetchRule) (do
        bindQuery cfg id query args
        sendOrReconnect cfg reconnect id)
        (fun sent after => n ≤ after.nextCommand ∧ (sent = true → IsNew id after))
        (fun after => n ≤ after.nextCommand) made :=
      binds.bind fun _ _ new => reaches_sendOrReconnect reconnects above new
    refine (Reaches.cleanedUp sends fun _ below => destroys id _ below).bind
      fun sent middle ⟨below, stays⟩ => ?_
    split
    · rename_i isSent
      exact .pure ⟨below, fun other same => by
        cases same
        exact ⟨above, stays isSent⟩⟩
    · exact (destroys id _ below).bind fun _ _ below => .pure below

theorem reaches_setupCommand (below : n ≤ world.nextCommand) (cmdText : Text)
    (args : Option (List QoreValue)) (raw : Bool) :
    Reaches (Spares n) (StopsObeying FetchRule) (setupCommand cfg reconnect cmdText args raw)
      (SetsUp n) (fun after => n ≤ after.nextCommand) world :=
  .iterate (fun _ after => n ≤ after.nextCommand) (fun _ => .refl)
    (fun _ _ below => reaches_setupCommandOnce reconnects below cmdText args raw) _ _ _ below

end Requests

/-! ### Reading -/

/-- A command whose `lastRes` is of some kinds has a result that is current. -/
def Tracks (kinds : ResType → Bool) (id : CommandId) (world : World σ) : Prop :=
  ∀ cmd, world.commands id = some cmd → kinds cmd.lastRes = true →
    phase cmd.mCmd world.log = .current

/-- What a command is known by after the next result was read: its `lastRes`, and that the result is
current where it is of some kinds. -/
structure HasRead (kinds : ResType → Bool) (id : CommandId) (res : ResType) (world : World σ) :
    Prop where
  last : ∀ cmd, world.commands id = some cmd → cmd.lastRes = res
  current : kinds res = true → ∃ handle, InPhase id handle res .current world

section Reading

variable {kinds : ResType → Bool} {res : ResType}

namespace Tracks

theorem of_inPhase {cmd : Option Handle} {standing : Phase}
    (holds : InPhase id cmd res standing world)
    (current : kinds res = true → standing = .current) : Tracks kinds id world := by
  obtain ⟨command, held, rfl, rfl, now⟩ := holds
  intro other held' fetchable
  obtain rfl := Option.some_inj.mp (held.symm.trans held')
  exact now.trans (current fetchable)

/-- The results of the command are of no such kind. -/
theorem of_last (last : ∀ cmd, world.commands id = some cmd → kinds cmd.lastRes = false) :
    Tracks kinds id world := by
  intro cmd held fetchable
  rw [last cmd held] at fetchable
  cases fetchable

theorem of_isNew (none : kinds .resNone = false) (new : IsNew id world) :
    Tracks kinds id world := by
  obtain ⟨-, cmd, held, last⟩ := new
  refine of_last fun other held' => ?_
  obtain rfl := Option.some_inj.mp (held.symm.trans held')
  rw [last, none]

end Tracks

theorem HasRead.of_inPhase {handle : Option Handle} {standing : Phase}
    (holds : InPhase id handle res standing world)
    (current : kinds res = true → standing = .current) : HasRead kinds id res world where
  last cmd held := by
    obtain ⟨command, held', -, last, -⟩ := holds
    obtain rfl := Option.some_inj.mp (held.symm.trans held')
    exact last
  current fetchable := ⟨handle, current fetchable ▸ holds⟩

theorem HasRead.tracks (read : HasRead kinds id res world) : Tracks kinds id world := by
  intro cmd held fetchable
  rw [read.last cmd held] at fetchable
  obtain ⟨handle, other, held', rfl, -, now⟩ := read.current fetchable
  obtain rfl := Option.some_inj.mp (held.symm.trans held')
  exact now

theorem Leads.current {old standing : Phase} (leads : Leads old res standing)
    (fetchable : res.isFetchable = true) : standing = .current := by
  obtain ⟨-, now⟩ | ⟨rfl | rfl | rfl, -⟩ | ⟨rfl | rfl, -⟩ := leads
  · exact now
  all_goals cases fetchable

variable (fetched : ∀ res, kinds res = true → res.isFetchable = true)
include fetched

/-- `read_next_result` on a command that is not there makes no call. -/
theorem reaches_readNextResult_absent (absent : world.commands id = none) :
    ReachesBy FetchRule (Command.readNextResult cfg id)
      (fun result after => HasRead kinds id result.1 after) (Tracks kinds id) world := by
  refine Reaches.iterate (fun _ world => world.commands id = none) (fun _ => .refl)
    (fun disconnect world absent => ?_) _ _ _ absent
  have returned : ReachesBy FetchRule (readNextResult1 cfg id disconnect)
      (fun result after => result.1 = .resError ∧ after.commands id = none) (Tracks kinds id)
      world := by
    refine .isException ?_
    split
    · exact .pure ⟨rfl, absent⟩
    · exact .getCommand (Obeys.baseStable _) fun cmd held => absurd held (by simp [absent])
  refine returned.bind fun result _ ⟨error, absent⟩ => .modify (Obeys.of_eq rfl) ?_
  rw [error, if_neg (by simp)]
  exact .pure ⟨fun cmd held => absurd held (by simp [absent]), fun kind => nomatch fetched _ kind⟩

/-- After `read_next_result`, a result is current where `lastRes` says so. -/
theorem reaches_readNextResult_tracks (tracks : Tracks kinds id world) :
    ReachesBy FetchRule (Command.readNextResult cfg id)
      (fun result after => HasRead kinds id result.1 after) (Tracks kinds id) world := by
  cases held : world.commands id with
  | none => exact reaches_readNextResult_absent fetched held
  | some cmd =>
    have holds : InPhase id cmd.mCmd cmd.lastRes (phase cmd.mCmd world.log) world :=
      ⟨cmd, held, rfl, rfl, rfl⟩
    by_cases quiet : world.xsink = []
    · by_cases waits : cmd.lastRes.waits
      · refine (reaches_readNextResult (permits_fetchRule _) (fun _ _ fetching => nomatch fetching)
          ⟨_, waits, holds⟩ quiet).mono (fun result _ ⟨standing, leads, holds⟩ => ?_)
          fun _ ⟨res, waits, holds⟩ => ?_
        · exact .of_inPhase holds fun kind => leads.current (fetched _ kind)
        · exact .of_inPhase holds fun kind => by
            rcases waits with rfl | rfl | rfl <;> cases fetched _ kind
      · refine (reaches_readNextResult_stays waits holds quiet).mono
          (fun result _ ⟨same, holds⟩ => ?_) fun _ post => post
        subst same
        exact .of_inPhase holds (tracks cmd held)
    · refine (reaches_readNextResult_raised holds quiet).mono
        (fun result _ ⟨same, holds⟩ => ?_) fun _ post => post
      subst same
      exact .of_inPhase holds fun kind => nomatch fetched _ kind

end Reading

/-- The results that are fetched are tracked. -/
theorem Tracks.of_fetching {cmd : Option Handle} {res : ResType}
    (holds : Fetching id cmd res world) :
    Tracks ResType.isFetchable id world := by
  rcases holds with current | ended
  · exact of_inPhase current fun _ => rfl
  · exact of_inPhase ended nofun

/-- What is done with a result. -/
theorem reaches_readOutputResult (list cols singleRow : Bool) (rf : ResultFactory) {rt : ResType}
    (tracks : Tracks ResType.isFetchable id world)
    (current : rt.isFetchable = true → ∃ handle, InPhase id handle rt .current world) :
    ReachesBy FetchRule (readOutputResult cfg id list cols singleRow rf rt)
      (fun _ after => Tracks ResType.isFetchable id after) (Tracks ResType.isFetchable id)
      world := by
  have base := Obeys.baseStable (σ := σ) FetchRule
  cases rt with
  | resError => exact .pure tracks
  | resEnd => exact .pure tracks
  | resDone => exact .getCommand base fun _ _ => .pure tracks
  | resParam =>
    obtain ⟨handle, holds⟩ := current rfl
    have permits := permits_fetchRule handle
    refine ((reaches_retrColinfo permits holds).mono (fun _ _ holds => holds)
      fun _ holds => .of_inPhase holds fun _ => rfl).bind fun failed _ holds => ?_
    split
    · exact .pure (.of_inPhase holds fun _ => rfl)
    · refine holds.getCommand fun command _ _ => ?_
      split
      · exact .throw (.of_inPhase holds fun _ => rfl)
      · refine ((reaches_readRows permits holds _ false).mono (fun _ _ => Tracks.of_fetching)
          fun _ => .of_fetching).bind fun qresult _ tracks => .isException ?_
        split
        · exact .pure tracks
        · exact .pure tracks
  | resRow =>
    obtain ⟨handle, holds⟩ := current rfl
    refine ((reaches_readRowsOrCols (permits_fetchRule handle) holds none list cols singleRow).mono
      (fun _ _ => Tracks.of_fetching) fun _ => Tracks.of_fetching).bind
        fun qresult _ tracks => .isException ?_
    split
    · exact .pure tracks
    · exact .pure tracks
  | resStatus =>
    obtain ⟨handle, holds⟩ := current rfl
    have permits := permits_fetchRule handle
    refine ((reaches_retrColinfo permits holds).mono (fun _ _ holds => holds)
      fun _ holds => .of_inPhase holds fun _ => rfl).bind fun failed _ holds => ?_
    split
    · exact .pure (.of_inPhase holds fun _ => rfl)
    · refine ((reaches_readRowsOrCols permits holds none list false false).mono
        (fun _ _ read => read) fun _ => .of_fetching).bind fun _ _ read =>
          .modify (Obeys.of_eq rfl) (.pure ?_)
      rcases read with holds | holds
      · exact .of_inPhase (holds.change _ (fun _ => rfl) fun _ last => last) fun _ => rfl
      · exact .of_inPhase (holds.change _ (fun _ => rfl) fun _ last => last) nofun
  | _ => exact .thrown base.toRaiseStable tracks

/-! ### Reading with a reconnect -/

/-- Reading a command that is not below the number. -/
theorem Spares.lifts {α : Type} {program : Driver σ α} {onOk : α → World σ → Prop}
    {onThrow : World σ → Prop} {stops : Halt → World σ → World σ → Prop} (above : n ≤ id)
    (reads : Keeps (Reads id) stops program)
    (reaches : ReachesBy FetchRule program onOk onThrow world) :
    Reaches (Spares n) (StopsObeying FetchRule) program
      (fun value after => Reads id world after ∧ onOk value after)
      (fun after => Reads id world after ∧ onThrow after) world :=
  wp_mono (Program.wp_and (reads world) reaches)
    (fun _ _ ⟨read, obeys, post⟩ => ⟨.of_reads obeys read above, read, post⟩)
    (fun _ _ ⟨read, obeys, post⟩ => ⟨.of_reads obeys read above, read, post⟩)
    fun _ _ ⟨_, halted⟩ => ⟨world, .refl n world, Obeys.of_halted halted⟩

theorem Spares.mono {n' : CommandId} (spares : Spares n world after) (less : n' ≤ n) :
    Spares n' world after :=
  { spares with commands := fun id below => spares.commands id (Nat.lt_of_lt_of_le below less) }

/-- A reconnect leaves the command as it is that was read. -/
theorem reaches_sparing {α : Type} {program : Driver σ α} {n' : CommandId}
    (keeps : Keeps (Sparing n) (StopsObeying FetchRule) program) (less : n' ≤ n)
    (below : n ≤ world.nextCommand) : Reaches (Spares n') (StopsObeying FetchRule) program
      (fun _ after => n ≤ after.nextCommand ∧ Spares n world after)
      (fun after => n ≤ after.nextCommand ∧ Spares n world after) world :=
  wp_mono (keeps world)
    (fun _ _ kept => ⟨(kept below).2.mono less, kept below⟩)
    (fun _ _ kept => ⟨(kept below).2.mono less, kept below⟩)
    fun _ _ ⟨last, kept, stopped⟩ => ⟨last, (kept below).2.mono less, stopped⟩

/-- A connection is found lost only where reading fails. -/
theorem wp_readNextResult_lost (id : CommandId) (world : World σ) :
    wp (Command.readNextResult cfg id) (fun result _ => result.2 = true → result.1 = .resError)
      (fun _ _ => True) (fun _ _ => True) world := by
  refine wp_iterate (fun disconnect _ => disconnect = false) (fun _ _ _ => trivial)
    (fun disconnect world same => ?_) _ _ _ rfl
  subst same
  rw [wp_bind]
  have once : wp (readNextResult1 cfg id false)
      (fun result _ => result.2 = true → result.1 = .resError)
      (fun _ _ => True) (fun _ _ => True) world := by
    rw [readNextResult1, wp_bind, wp_isException]
    split
    · exact nofun
    · rw [wp_bind, wp_getCommand]
      refine ⟨fun cmd _ => ?_, fun _ => trivial⟩
      split
      · exact nofun
      · rw [wp_bind, wp_ctCall]
        split
        · exact nofun
        · exact wp_bind_any fun _ _ => wp_bind_any fun _ _ _ => rfl
        · exact wp_bind_any fun _ _ => nofun
        · exact wp_bind_any fun _ _ => nofun
  refine wp_mono_ok once fun result _ lost => ?_
  rw [wp_bind, wp_modifyCommand]
  split
  · rename_i retry
    rw [retry] at lost
    simpa using lost
  · exact lost

/-- A command that has been made, whose results are tracked. -/
def IsTracked (kinds : ResType → Bool) (id : CommandId) (world : World σ) : Prop :=
  id < world.nextCommand ∧ Tracks kinds id world

section Reconnecting

variable {reconnect : Reconnect σ}
  (reconnects : ∀ n cmd tryReconnect,
    Keeps (Sparing n) (StopsObeying FetchRule) (reconnect cmd tryReconnect))
include reconnects

theorem reaches_connectionReadNextResult {kinds : ResType → Bool}
    (fetched : ∀ res, kinds res = true → res.isFetchable = true) (above : n ≤ id)
    (tracked : IsTracked kinds id world) :
    Reaches (Spares n) (StopsObeying FetchRule) (readNextResult cfg reconnect id)
      (fun res after => IsTracked kinds id after ∧
        (kinds res = true → ∃ handle, InPhase id handle res .current after))
      (IsTracked kinds id) world := by
  obtain ⟨below, tracks⟩ := tracked
  refine .isException ?_
  split
  · exact .pure ⟨⟨below, tracks⟩, fun kind => nomatch fetched _ kind⟩
  · have reads := Spares.lifts above (Reads.readingStable cfg id).keeps_readNextResult
      (reaches_readNextResult_tracks fetched tracks)
    have lost : Reaches (Spares n) (StopsObeying FetchRule) (Command.readNextResult cfg id)
        (fun result after => id < after.nextCommand ∧ HasRead kinds id result.1 after ∧
          (result.2 = true → result.1 = .resError)) (IsTracked kinds id) world :=
      wp_mono (Program.wp_and reads (wp_readNextResult_lost id world))
        (fun _ _ ⟨⟨spares, read, post⟩, lost⟩ => ⟨spares, read.nextCommand ▸ below, post, lost⟩)
        (fun _ _ ⟨⟨spares, read, post⟩, _⟩ => ⟨spares, read.nextCommand ▸ below, post⟩)
        fun _ _ halted => halted.1
    refine lost.bind fun ⟨rc, disconnect⟩ middle ⟨below, read, lost⟩ => ?_
    cases disconnect with
    | false => exact .pure ⟨⟨below, read.tracks⟩, read.current⟩
    | true =>
      have failed : rc = .resError := lost rfl
      have stays : ∀ after, middle.nextCommand ≤ after.nextCommand ∧
          Spares middle.nextCommand middle after → IsTracked kinds id after := by
        rintro after ⟨later, spares⟩
        refine ⟨Nat.lt_of_lt_of_le below later, fun cmd held fetchable => ?_⟩
        obtain ⟨cmd', held', same⟩ := spares.commands id below cmd held
        rw [same, read.last cmd' held', failed] at fetchable
        cases fetched _ fetchable
      refine ((reaches_sparing (reconnects middle.nextCommand id false)
        (Nat.le_trans above (Nat.le_of_lt below)) (Nat.le_refl _)).mono (fun _ => stays) stays).bind
          fun _ _ tracked => .pure ⟨tracked, fun kind => nomatch fetched _ kind⟩

theorem reaches_readOutput (above : n ≤ id) (tracked : IsTracked ResType.isFetchable id world)
    (list cols singleRow : Bool) :
    Reaches (Spares n) (StopsObeying FetchRule) (readOutput cfg reconnect id list cols singleRow)
      (fun _ after => IsTracked ResType.isFetchable id after) (IsTracked ResType.isFetchable id)
      world := by
  refine .iterate (fun _ => IsTracked ResType.isFetchable id) (fun _ => .refl)
    (fun rf world tracked => ?_) _ _ _ tracked
  refine (reaches_connectionReadNextResult reconnects (fun _ kind => kind) above tracked).bind
    fun rt middle ⟨tracked, current⟩ => .isException ?_
  split
  · exact .pure tracked
  · refine (Spares.lifts above
      ((Reads.readingStable cfg id).keeps_readOutputResult list cols singleRow rf rt)
      (reaches_readOutputResult list cols singleRow rf tracked.2 current)).mono ?_ ?_
    · rintro (again | value) after ⟨read, tracks⟩
      · exact ⟨read.nextCommand ▸ tracked.1, tracks⟩
      · exact ⟨read.nextCommand ▸ tracked.1, tracks⟩
    · exact fun after ⟨read, tracks⟩ => ⟨read.nextCommand ▸ tracked.1, tracks⟩

theorem reaches_readOutputAndDestroy {cmd : Option CommandId} (set : SetsUp n cmd world)
    (list cols singleRow : Bool) :
    Reaches (Spares n) (StopsObeying FetchRule) (ensure (do
        let result ← readOutputOption cfg reconnect cmd list cols singleRow
        if ← isException then pure .nothing else pure result)
      (Command.destroyOption cfg cmd))
      (fun _ after => n ≤ after.nextCommand) (fun after => n ≤ after.nextCommand) world := by
  have reads : Reaches (Spares n) (StopsObeying FetchRule)
      (readOutputOption cfg reconnect cmd list cols singleRow)
      (fun _ after => n ≤ after.nextCommand) (fun after => n ≤ after.nextCommand) world := by
    cases cmd with
    | none =>
      refine .isException ?_
      split
      · exact .pure set.1
      · exact .halt .refl
    | some id =>
      obtain ⟨above, new⟩ := set.2 id rfl
      have kept : ∀ after : World σ, IsTracked ResType.isFetchable id after →
          n ≤ after.nextCommand :=
        fun _ tracked => Nat.le_trans above (Nat.le_of_lt tracked.1)
      exact (reaches_readOutput reconnects above ⟨new.1, .of_isNew rfl new⟩ list
        cols singleRow).mono
        (fun _ => kept) kept
  have result : Reaches (Spares n) (StopsObeying FetchRule) (do
      let result ← readOutputOption cfg reconnect cmd list cols singleRow
      if ← isException then pure .nothing else pure result)
      (fun _ after => n ≤ after.nextCommand) (fun after => n ≤ after.nextCommand) world := by
    refine reads.bind fun result _ below => .isException ?_
    split
    · exact .pure below
    · exact .pure below
  refine result.ensure fun after below => ?_
  cases cmd with
  | none => exact .pure below
  | some id => exact .of_holding (Sparing.destroyStable cfg n id).keeps_destroy below

end Reconnecting

/-- A program keeps this relation if it does so from the states in which the commands below the
number have been made. -/
theorem keeps_sparing {α : Type} {program : Driver σ α}
    (reaches : ∀ world : World σ, n ≤ world.nextCommand →
      Reaches (Spares n) (StopsObeying FetchRule) program (fun _ after => n ≤ after.nextCommand)
        (fun after => n ≤ after.nextCommand) world) :
    Keeps (Sparing n) (StopsObeying FetchRule) program := by
  intro world
  by_cases below : n ≤ world.nextCommand
  · exact wp_mono (reaches world below) (fun _ _ ⟨spares, later⟩ _ => ⟨later, spares⟩)
      (fun _ _ ⟨spares, later⟩ _ => ⟨later, spares⟩)
      fun _ _ ⟨_, spares, stopped⟩ =>
        ⟨world, refl_of (Sparing n) world, Lawful.trans spares.obeys stopped⟩
  · exact wp_mono (wp_trivial program world) (fun _ _ _ less => absurd less below)
      (fun _ _ _ less => absurd less below)
      fun _ after _ => ⟨after, fun less => absurd less below, .refl⟩

section Reconnecting

variable {reconnect : Reconnect σ}
  (reconnects : ∀ n cmd tryReconnect,
    Keeps (Sparing n) (StopsObeying FetchRule) (reconnect cmd tryReconnect))
include reconnects

/-- A request leaves the commands as they were that had been made before. -/
theorem keeps_execReadOutput_sparing (n : CommandId) (cmdText : Text)
    (args : Option (List QoreValue)) (needList doBinding cols singleRow : Bool) :
    Keeps (Sparing n) (StopsObeying FetchRule)
      (execReadOutput cfg reconnect cmdText args needList doBinding cols singleRow) :=
  keeps_bind (Sparing.closeStable cfg n).keeps_invalidateStatement fun _ =>
    keeps_sparing fun _ below => (reaches_setupCommand reconnects below cmdText args _).bind
      fun _ _ set => reaches_readOutputAndDestroy reconnects set needList cols singleRow

theorem keeps_init_sparing (n : CommandId) :
    Keeps (Sparing n) (StopsObeying FetchRule) (init cfg reconnect) := by
  have session : SessionStable cfg (Sparing n) (StopsObeying FetchRule) :=
    { Sparing.baseStable n, Sparing.connectStable cfg n with }
  exact session.keeps_init (session.keeps_setEncoding (fun _ => .of_spares rfl (.of_eq rfl rfl rfl))
    fun query args singleRow =>
      keeps_execReadOutput_sparing reconnects n query args true true false singleRow)

end Reconnecting

/-- The depth of the log does not matter. -/
theorem keeps_nested_sparing {α : Type} {program : Driver σ α}
    (keeps : Keeps (Sparing n) (StopsObeying FetchRule) program) :
    Keeps (Sparing n) (StopsObeying FetchRule) (nested program) := by
  intro world
  have level : ∀ {last : World σ},
      Sparing n { world with depth := world.depth + 1 } last →
        Sparing n world { last with depth := world.depth } := fun kept below =>
    have ⟨later, spares⟩ := kept below
    ⟨later, spares.obeys, spares.commands, spares.statements, spares.present⟩
  exact (wp_nested program).mpr (wp_mono (keeps { world with depth := world.depth + 1 })
    (fun _ _ kept => level kept) (fun _ _ kept => level kept)
    fun _ _ ⟨_, kept, stopped⟩ => ⟨_, level kept, stopped⟩)

/-- A reconnect leaves the commands as they were that had been made before. -/
theorem keeps_closeAndReconnect_sparing (cfg : Config σ) (bound : Nat) (n cmd : CommandId)
    (tryReconnect : Bool) :
    Keeps (Sparing n) (StopsObeying FetchRule) (closeAndReconnect cfg bound cmd tryReconnect) := by
  have recorded : ∀ {n} {event : Event}, (∀ call reply, event ≠ .call call reply) →
      Keeps (Sparing n) (StopsObeying FetchRule)
        (modify fun world => world.record .other event : Driver σ Unit) := fun noCall =>
    keeps_modify fun _ => .of_spares rfl (.of_log (Obeys.of_record .other noCall) rfl rfl)
  induction bound generalizing n cmd tryReconnect with
  | zero => exact keeps_halt fun _ => .refl
  | succ bound inductionHypothesis =>
    refine keeps_bind (recorded (by simp)) fun _ => ?_
    refine keeps_bind ((Sparing.closeStable cfg n).keeps_closeConnection cmd) fun _ => ?_
    refine keeps_bind (keeps_bind (keeps_nested_sparing
      (keeps_init_sparing inductionHypothesis n)) fun failed => ?_) fun result =>
        keeps_bind (recorded (by simp)) fun _ => keeps_pure _
    split
    · exact keeps_bind (keeps_modify fun _ => .of_spares rfl (.of_eq rfl rfl rfl)) fun _ =>
        keeps_pure _
    · refine keeps_bind (keeps_bind keeps_get fun _ => keeps_pure _) fun inTransaction => ?_
      split
      · exact keeps_pure _
      · exact keeps_bind (keeps_modify fun _ => .of_spares rfl (.of_eq rfl rfl rfl)) fun _ =>
          keeps_pure _

end Sybase
