/-
This file proves what the requests of a Datasource return for the results a server plays: from the
text and the arguments that Qore passes, over the command that is set up, sent, read and destroyed,
to the value that Qore gets. `selectRows` gives the list of the rows, `selectRow` the only row or an
exception, and `exec` the row counts, and none of them leaves an exception behind that it does not
have to raise.
-/

import SybaseDriver.Binding
import SybaseDriver.Messages
import SybaseDriver.Output
import SybaseDriver.Registry

namespace Sybase

open Program Command Connection

variable {cfg : Config Playing} {world : World Playing} {id : CommandId} {cmd : Command}
  {query : SybaseQuery} {args : Option (List QoreValue)}

/-! ### Setting up a query -/

/-- The binding of a value, where it has one. -/
def servedBinding (cfg : Config Playing) (enc : Encoding) (value : QoreValue) : Option Binding :=
  match bindValue cfg enc value with
  | .param binding => some binding
  | .lastParam binding => some binding
  | _ => none

/-- The bindings that a list of specifications needs: for each `%v`, in order, that of the argument
with its number. -/
def neededBindings (cfg : Config Playing) (enc : Encoding) (args : Option (List QoreValue)) :
    List Char → Nat → List (Option Binding)
  | [], _ => []
  | 'd' :: rest, index => neededBindings cfg enc args rest (index + 1)
  | _ :: rest, index =>
    servedBinding cfg enc (SybaseQuery.argument args index) :: neededBindings cfg enc args rest
      (index + 1)

/-- A query the driver accepts: its text is rewritten to a text that is not empty, or taken as it
is, and every argument it needs has a binding. -/
structure Accepted (cfg : Config Playing) (enc : Encoding) (cmdText : Text)
    (args : Option (List QoreValue)) (raw : Bool) (query : SybaseQuery) : Prop where
  inits : if raw then args = none ∧ query = SybaseQuery.initRaw cmdText
    else SybaseQuery.scan cfg.qore args cmdText = some (.finished query)
  nonempty : query.mCmd.isEmpty = false
  binds : args.isSome → ∀ binding ∈ neededBindings cfg enc args query.paramList 0, binding.isSome

theorem Accepted.wp_initQuery {enc : Encoding} {cmdText : Text} {raw : Bool}
    (accepted : Accepted cfg enc cmdText args raw query) :
    wp (initQuery cfg cmdText args raw)
      (fun found after => found = some query ∧ after = world) noThrow
      noHalt world := by
  have inits := accepted.inits
  cases raw with
  | true =>
    obtain ⟨rfl, rfl⟩ := inits
    rw [initQuery, if_pos rfl, wp_bind, wp_assert]
    exact ⟨fun failed => absurd failed (by simp), fun _ => ⟨rfl, rfl⟩⟩
  | false =>
    rw [initQuery, if_neg (by simp), SybaseQuery.init, show _ = _ from inits]
    exact ⟨rfl, rfl⟩

section SettingUp

variable {reconnect : Reconnect Playing} {env : Playing} {base : World Playing}

/-- Binding the parameters of a query whose arguments have bindings. -/
theorem wp_setParamsFrom_binds (plays : cfg.lib = CtLib.play) (holds : cmd.mCmd.isSome)
    (letters : List Char) (index : Nat) (read : ReadTo id cmd env base world)
    (binds : ∀ binding ∈ neededBindings cfg base.connection.enc args letters index,
      binding.isSome) :
    wp (setParamsFrom cfg id args letters index) (fun _ after => ReadTo id cmd env base after)
      noThrow noHalt world := by
  have bound : ∀ {world : World Playing} (binding : Binding) (index : Nat),
      ReadTo id cmd env base world → wp (ctParam cfg id index binding)
        (fun code after => code = .succeed ∧ ReadTo id cmd env base after) noThrow
          noHalt world := by
    intro world binding index read
    rw [ctParam, wp_bind, wp_getCommand_some read.commands, wp_bind]
    refine wp_mono_ok (read.call plays holds rfl) ?_
    rintro _ after ⟨rfl, read⟩
    exact ⟨rfl, read⟩
  induction letters generalizing index world with
  | nil => exact read
  | cons letter letters inductionHypothesis =>
    by_cases inlined : letter = 'd'
    · subst inlined
      rw [setParamsFrom.eq_2]
      rw [neededBindings.eq_2] at binds
      exact inductionHypothesis _ read binds
    · rw [setParamsFrom.eq_3 _ _ _ _ _ _ inlined, wp_bind, wp_get, read.connection]
      rw [neededBindings.eq_3 _ _ _ _ _ _ inlined] at binds
      obtain ⟨served, binds⟩ := List.forall_mem_cons.mp binds
      cases value : bindValue cfg base.connection.enc (SybaseQuery.argument args index) with
      | param binding =>
        simp only [wp_bind]
        refine wp_mono_ok (bound _ _ read) ?_
        rintro _ middle ⟨rfl, read⟩
        rw [wp_when]
        exact ⟨fun failed => absurd rfl failed, fun _ => inductionHypothesis _ read binds⟩
      | lastParam binding =>
        simp only [wp_bind]
        exact wp_mono_ok (bound _ _ read) fun _ _ post => post.2
      | error err desc => simp [servedBinding, value] at served
      | raised raised err desc => simp [servedBinding, value] at served

/-- A command was set up and sent: it holds its handle and its query, and has read nothing yet. -/
def Issued (query : SybaseQuery) (id : CommandId) (base after : World Playing) : Prop :=
  ∃ cmd, ReadTo id cmd base.env base after ∧ cmd.mCmd.isSome ∧ cmd.query = some query ∧
    cmd.lastRes = .resNone ∧ cmd.colinfo.dirty = true

theorem wp_bindAndSend_binds (plays : cfg.lib = CtLib.play) (query : SybaseQuery)
    (nonempty : query.mCmd.isEmpty = false) (held : base.commands id = some cmd)
    (holds : cmd.mCmd.isSome) (waits : cmd.lastRes = .resNone) (dirty : cmd.colinfo.dirty = true)
    (binds : args.isSome →
      ∀ binding ∈ neededBindings cfg base.connection.enc args query.paramList 0, binding.isSome) :
    wp (do
        bindQuery cfg id query args
        sendOrReconnect cfg reconnect id)
      (fun sent after => sent = true ∧ Issued query id base after) noThrow noHalt base := by
  have sends : ∀ {bound : World Playing}, ReadTo id { cmd with query := some query }
    base.env base bound →
      wp (sendOrReconnect cfg reconnect id)
        (fun sent after => sent = true ∧ Issued query id base after) noThrow noHalt bound := by
    intro bound read
    rw [sendOrReconnect, wp_tryCatch, wp_bind, Command.send, wp_bind,
      wp_getCommand_some read.commands, wp_bind]
    refine wp_mono (read.call plays (by exact holds) rfl) ?_ (fun _ _ absent => absent.elim)
      fun _ _ absent => absent.elim
    rintro _ after ⟨rfl, read⟩
    rw [wp_when]
    exact ⟨fun failed => absurd rfl failed, fun _ => ⟨rfl, _, read, holds, rfl, waits, dirty⟩⟩
  rw [wp_bind, bindQuery, wp_bind]
  refine wp_mono_ok ((readTo_refl held).modify _) fun _ _ read => ?_
  rw [wp_bind, initiateLanguageCommand, wp_bind, wp_assert]
  refine ⟨fun failed => absurd failed (by simp [nonempty]), fun _ => ?_⟩
  rw [wp_bind, wp_getCommand_some read.commands, wp_bind]
  refine wp_mono_ok (read.call plays (by exact holds) rfl) ?_
  rintro _ _ ⟨rfl, read⟩
  rw [wp_when]
  refine ⟨fun failed => absurd rfl failed, fun _ => ?_⟩
  rw [wp_when]
  refine ⟨fun isSome => ?_, fun _ => sends read⟩
  exact wp_mono_ok (wp_setParamsFrom_binds plays (by exact holds) _ 0 read (binds isSome))
    fun _ _ read => sends read

/-- A query that the driver accepts is sent in the first pass. -/
theorem wp_setupCommand_accepted (plays : cfg.lib = CtLib.play) {cmdText : Text} {raw : Bool}
    (accepted : Accepted cfg world.connection.enc cmdText args raw query) (enough : 0 < cfg.fuel) :
    wp (setupCommand cfg reconnect cmdText args raw)
      (fun cmd after => cmd = some world.nextCommand ∧
        Issued query world.nextCommand (world.allocated cfg) after) noThrow noHalt world := by
  obtain ⟨bound, fuel⟩ := Nat.exists_eq_add_one_of_ne_zero (Nat.ne_of_gt enough)
  have allocates : (cfg.lib.reply (.cmdAlloc world.nextHandle) world.env).1.code = .succeed := by
    rw [plays]
    rfl
  have held : (world.allocated cfg).commands world.nextCommand =
      some ⟨none, world.newHandle cfg, -1, .resNone, ⟨true, []⟩, []⟩ := Function.update_self _ _ _
  rw [setupCommand, fuel]
  refine wp_iterate_succ.mpr ?_
  rw [setupCommandOnce, wp_bind]
  refine wp_mono_ok accepted.wp_initQuery ?_
  rintro _ _ ⟨rfl, rfl⟩
  rw [wp_bind, wp_create, wp_bind, wp_onThrow]
  refine wp_mono (wp_bindAndSend_binds plays query accepted.nonempty held
    (by simp [World.newHandle, allocates]) rfl rfl accepted.binds) ?_
    (fun _ _ absent => absent.elim) fun _ _ absent => absent.elim
  rintro _ after ⟨rfl, issued⟩
  exact ⟨rfl, issued⟩

end SettingUp

/-! ### Executing a query -/

section Executing

variable (plays : cfg.lib = CtLib.play)
include plays

/-- Canceling the command of a handle succeeds. -/
theorem reply_play_cancel {handle : Option Handle} (holds : handle.isSome) (env : Playing) :
    (cfg.lib.reply (.cancel handle) env).1.code = .succeed := by
  obtain ⟨handle, rfl⟩ := Option.isSome_iff_exists.mp holds
  rw [plays]
  rfl

/-- The state after the registered statement was invalidated: nothing is left to do there. -/
structure Cleared (world after : World Playing) : Prop where
  env : after.env = world.env
  xsink : after.xsink = world.xsink
  connection : after.connection = { world.connection with stmt := none }
  isOpen : after.isOpen = world.isOpen
  registry : after.registry = world.registry.invalidate
  commands : ∀ id, world.commands id = none → after.commands id = none

theorem wp_invalidateStatement_play (consistent : world.registry.Consistent)
    (live : ∀ statement, world.connection.stmt = some statement → world.HoldsLive cfg statement) :
    wp (invalidateStatement cfg) (fun _ after => Cleared world after) noThrow noHalt world := by
  rw [invalidateStatement, wp_bind, wp_get]
  cases registered : world.connection.stmt with
  | none =>
    refine ⟨rfl, rfl, by rw [← registered], rfl, ?_, fun _ none => none⟩
    rw [Registry.invalidate.eq_def, show world.registry.registered = none from registered]
  | some statement =>
    have validity : world.registry.validity statement = some true :=
      (consistent statement).mpr registered
    obtain ⟨wrap, held, valid⟩ := Option.map_eq_some_iff.mp validity
    obtain ⟨wrap', id, cmd, held', context, there, handle⟩ := live statement registered
    obtain rfl := Option.some.inj (held.symm.trans held')
    have noted : (world.record .other (.invalidate statement)).statements statement = some wrap :=
      held
    have found : (world.record .other (.invalidate statement)).commands id = some cmd := there
    rw [wp_bind, invalidate, wp_bind, wp_modify, wp_bind, wp_getModuleWrap_some noted, wp_bind,
      wp_assert, context]
    refine ⟨fun fails => absurd fails (by simp [valid]), fun _ => ?_⟩
    rw [wp_bind, wp_cancelDisconnect found]
    refine ⟨fun fails => absurd fails ?_, fun _ => ?_⟩
    · simpa [Option.isSome_iff_ne_none] using handle
    · rw [modifyStatement, wp_modifyModuleWrap, wp_modifyConnection]
      refine ⟨?_, rfl, rfl, rfl, ?_, fun other absent => ?_⟩
      · exact (reply_play_env plays (.inr rfl) _).trans (reply_play_env plays (.inl rfl) _)
      · rw [Registry.invalidate.eq_def, show world.registry.registered = some
          statement from registered]
        exact congrArg (fun registry => (⟨none, registry.validity⟩ : Registry))
          (registry_expire _ statement)
      · have different : other ≠ id :=
          fun same => absurd (there.symm.trans (same ▸ absent)) (by simp)
        show Function.update world.commands id _ other = none
        rw [Function.update_of_ne different, absent]

/-- The state after a command was read: it is there with its handle, with the exceptions that
reading raised, and without one the script was read to its end. -/
def Ended (id : CommandId) (raised : List QoreException) (base after : World Playing) : Prop :=
  ∃ cmd env fetched, ReadTo id cmd env base fetched ∧ cmd.mCmd.isSome ∧
    after = { fetched with xsink := raised } ∧ (raised = [] → env.script = [])

/-- The state after a request: the exceptions it raised, and a connection without a registered
statement. The statement that was registered is invalid, and of the commands only those are left
that were there before. Without an exception, all results of the server were read. -/
structure Responded (raised : List QoreException) (world after : World Playing) : Prop where
  xsink : after.xsink = raised
  connection : after.connection = { world.connection with stmt := none }
  isOpen : after.isOpen = world.isOpen
  registry : after.registry = world.registry.invalidate
  destroyed : ∀ id, world.commands id = none → after.commands id = none
  script : raised = [] → after.env.script = []

/-- The command is destroyed after it was read. -/
theorem wp_destroy_ended {raised : List QoreException} {base : World Playing}
    (ended : Ended id raised base world) :
    wp (Command.destroy cfg id)
      (fun _ after => after.xsink = raised ∧ after.connection = base.connection ∧
        after.isOpen = base.isOpen ∧ after.registry = base.registry ∧
        after.commands = Function.update base.commands id none ∧
        (raised = [] → after.env.script = [])) noThrow noHalt world := by
  obtain ⟨cmd, env, fetched, ⟨log, clientMsgs, serverMsgs, rfl⟩, holds, rfl, finished⟩ := ended
  have held : ({ base with
      env := env, log := log, clientMsgs := clientMsgs, serverMsgs := serverMsgs
      commands := Function.update base.commands id (some cmd), xsink := raised } :
        World Playing).commands id = some cmd := Function.update_self _ _ _
  rw [wp_destroy held, if_pos holds, if_neg fun fails => fails.2 (reply_play_cancel plays holds _)]
  have canceled : ∀ world : World Playing, (world.canceled cfg cmd).xsink = world.xsink ∧
      (world.canceled cfg cmd).connection = world.connection ∧
      (world.canceled cfg cmd).isOpen = world.isOpen ∧
      (world.canceled cfg cmd).commands = world.commands ∧
      (world.canceled cfg cmd).env = world.env := by
    intro world
    rw [World.canceled]
    split
    · exact ⟨rfl, rfl, rfl, rfl, reply_play_env plays (.inl rfl) _⟩
    · exact ⟨rfl, rfl, rfl, rfl, rfl⟩
  obtain ⟨xsink, connection, isOpen, commands, script⟩ := canceled { base with
    env := env, log := log, clientMsgs := clientMsgs, serverMsgs := serverMsgs
    commands := Function.update base.commands id (some cmd), xsink := raised }
  refine ⟨xsink, connection, isOpen, registry_canceled cmd, ?_, fun quiet => ?_⟩
  · show Function.update (Function.update (World.canceled cfg _ cmd).commands id _) id none = _
    rw [commands, Function.update_idem, Function.update_idem]
  have dropped : ∀ env, (cfg.lib.reply (.cmdDrop cmd.mCmd) env).2 = env :=
    reply_play_env plays (.inr rfl)
  rw [World.removed, World.dropped, World.answered]
  show (cfg.lib.reply (.cmdDrop cmd.mCmd) _).2.script = []
  rw [dropped, script]
  exact finished quiet

/-- Executing a query that is accepted gives what reading its results gives. -/
theorem wp_execReadOutput_play {reconnect : Reconnect Playing} {cmdText : Text}
    {raw list cols singleRow : Bool} {value : QoreValue} {raised : List QoreException}
    (accepted : Accepted cfg world.connection.enc cmdText args raw query) (enough : 0 < cfg.fuel)
    (quiet : world.xsink = []) (consistent : world.registry.Consistent)
    (live : ∀ statement, world.connection.stmt = some statement → world.HoldsLive cfg statement)
    (reads : ∀ (id : CommandId) (base issued : World Playing), base.env = world.env →
      base.xsink = [] → base.connection.enc = world.connection.enc → Issued query id base issued →
      wp (readOutput cfg reconnect id list cols singleRow)
        (fun result after => result = value ∧ Ended id raised base after) noThrow noHalt issued)
    (silent : raised ≠ [] → value = .nothing) :
    wp (execReadOutput cfg reconnect cmdText args list (!raw) cols singleRow)
      (fun result after => result = value ∧ Responded raised world after) noThrow noHalt world := by
  rw [execReadOutput, wp_bind]
  refine wp_mono_ok (wp_invalidateStatement_play plays consistent live) fun _ middle cleared => ?_
  have accepted' : Accepted cfg middle.connection.enc cmdText args raw query := by
    rw [cleared.connection]
    exact accepted
  rw [wp_bind, Bool.not_not]
  refine wp_mono_ok (wp_setupCommand_accepted plays accepted' enough) ?_
  rintro _ issued ⟨rfl, sent⟩
  have allocates : (cfg.lib.reply (.cmdAlloc middle.nextHandle) middle.env).1.code = .succeed := by
    rw [plays]
    rfl
  have env : (middle.allocated cfg).env = world.env := by
    rw [← cleared.env, World.allocated, World.answered, plays]
    rfl
  have xsink : (middle.allocated cfg).xsink = [] := by
    simp only [World.allocated, allocates, if_true]
    exact cleared.xsink.trans quiet
  have enc : (middle.allocated cfg).connection.enc = world.connection.enc := by
    show middle.connection.enc = _
    rw [cleared.connection]
  rw [wp_ensure, readOutputOption, wp_bind]
  refine wp_mono (reads _ _ issued env xsink enc sent) ?_ (fun _ _ absent => absent.elim)
    fun _ _ absent => absent.elim
  rintro value read ⟨rfl, ended⟩
  have gives : wp (do if ← isException then pure .nothing else pure value)
      (fun result after => result = value ∧ after = read) noThrow noHalt read := by
    rw [wp_bind, wp_isException]
    split
    · rename_i isRaised
      refine ⟨(silent fun none => ?_).symm, rfl⟩
      obtain ⟨cmd, env, fetched, -, -, rfl, -⟩ := ended
      simp [none] at isRaised
    · exact ⟨rfl, rfl⟩
  refine wp_mono gives ?_ (fun _ _ absent => absent.elim) fun _ _ absent => absent.elim
  rintro _ _ ⟨rfl, rfl⟩
  refine wp_mono_ok (wp_destroy_ended plays ended) ?_
  rintro _ after ⟨raises, connection, isOpen, registry, commands, script⟩
  refine ⟨rfl, raises, connection.trans cleared.connection, isOpen.trans cleared.isOpen,
    registry.trans cleared.registry, fun other absent => ?_, script⟩
  rw [commands]
  show Function.update (Function.update middle.commands _ _) _ none other = none
  rw [Function.update_idem]
  by_cases same : other = middle.nextCommand
  · rw [same, Function.update_self]
  · rw [Function.update_of_ne same]
    exact cleared.commands other absent

/-! ### Requests -/

/-- A step that leaves no severe message queued where there is none. -/
def Unsevere (world after : World Playing) : Prop := hasSevere world = false →
    hasSevere after = false

instance : Std.Refl Unsevere := ⟨fun _ none => none⟩

instance : IsTrans (World Playing) Unsevere := ⟨fun _ _ _ first second none => second (first none)⟩

/-- A ct-lib that plays a script queues no messages. -/
theorem answered_play_messages (site : Site) (call : CtCall) (world : World Playing) :
    (world.answered cfg.lib site call).clientMsgs = world.clientMsgs ∧
      (world.answered cfg.lib site call).serverMsgs = world.serverMsgs := by
  have none : (cfg.lib.reply call world.env).1.clientMsgs = [] ∧
      (cfg.lib.reply call world.env).1.serverMsgs = [] := by
    rw [plays, CtLib.reply]
    split
    · exact ⟨rfl, rfl⟩
    · cases call with
      | results cmd =>
        simp only [CtLib.play]
        split <;> exact ⟨rfl, rfl⟩
      | fetch cmd =>
        simp only [CtLib.play]
        split <;> exact ⟨rfl, rfl⟩
      | _ => exact ⟨rfl, rfl⟩
  rw [World.answered, none.1, none.2, List.append_nil, List.append_nil]
  exact ⟨rfl, rfl⟩

theorem unsevere_answered (site : Site) (call : CtCall) (world : World Playing) :
    Unsevere world (world.answered cfg.lib site call) := by
  intro none
  obtain ⟨client, server⟩ := answered_play_messages plays site call world
  rw [hasSevere, client, server]
  exact none

theorem Unsevere.stable : Stable cfg Unsevere StopsAnyhow where
  raise _ _ _ none := none
  discard _ _ := rfl
  halts _ _ _ := trivial
  call world site call _ _ := unsevere_answered plays site call world
  record _ _ _ none := none
  loudCall world site call _ := unsevere_answered plays site call world
  loudRecord _ _ _ none := none
  commands _ _ _ _ _ _ _ none := none
  connection _ _ _ _ _ _ none := none
  statements _ _ _ none := none
  nested keeps world := (wp_nested _).mpr (keeps { world with depth := world.depth + 1 })
  terminated _ _ _ := trivial

theorem Unsevere.keeps_topReconnect (cmd : CommandId) (tryReconnect : Bool) :
    Keeps Unsevere StopsAnyhow (topReconnect cfg cmd tryReconnect) :=
  (stable plays).keeps_closeAndReconnect
    (fun tryReconnect reconnects =>
      (stable plays).keeps_reopenConnection (fun _ none => none) reconnects tryReconnect)
    cfg.fuel cmd tryReconnect

/-- A request whose text is accepted gives what reading its results gives. -/
theorem wp_request_play {sql cmdText : Text} {raw list cols singleRow : Bool} {value : QoreValue}
    {raised : List QoreException}
    (converted : cfg.qore.convertEncoding world.connection.enc sql = some cmdText)
    (accepted : Accepted cfg world.connection.enc cmdText args raw query) (enough : 0 < cfg.fuel)
    (quiet : world.xsink = []) (unsevere : hasSevere world = false)
    (consistent : world.registry.Consistent)
    (live : ∀ statement, world.connection.stmt = some statement → world.HoldsLive cfg statement)
    (reads : ∀ (id : CommandId) (base issued : World Playing), base.env = world.env →
      base.xsink = [] → base.connection.enc = world.connection.enc → Issued query id base issued →
      wp (readOutput cfg (topReconnect cfg) id list cols singleRow)
        (fun result after => result = value ∧ Ended id raised base after) noThrow noHalt issued)
    (silent : raised ≠ [] → value = .nothing) :
    wp (request cfg (topReconnect cfg) sql args list (!raw) cols singleRow)
      (fun result after => result = value ∧ Responded raised world after) noThrow noHalt world := by
  rw [request, wp_bind, wp_get, wp_bind, Connection.convertEncoding, converted]
  show wp (do
    let rv ← execReadOutput cfg (topReconnect cfg) cmdText args list (!raw) cols singleRow
    let _ ← purgeMessages
    pure rv) _ noThrow noHalt world
  rw [wp_bind]
  refine wp_mono (wp_and (wp_execReadOutput_play plays accepted enough quiet consistent
    live reads silent)
    ((Unsevere.stable plays).keeps_execReadOutput (Unsevere.keeps_topReconnect plays)
      cmdText args list
      (!raw) cols singleRow world)) ?_ (fun _ _ absent => absent.1) fun _ _ absent => absent.1
  rintro _ after ⟨⟨rfl, responded⟩, kept⟩
  rw [wp_bind, wp_purgeMessages]
  have purged := purgedExceptions_eq_nil.mpr (kept unsevere)
  refine ⟨rfl, ?_, responded.connection, responded.isOpen, responded.registry, responded.destroyed,
    responded.script⟩
  show purgedExceptions after ++ after.xsink = raised
  rw [purged, List.nil_append, responded.xsink]

end Executing

/-! ### Reading what a request was answered -/

section Reading

variable {base issued : World Playing} {reconnect : Reconnect Playing}
    {commands : List CommandScript}
  (plays : cfg.lib = CtLib.play) (quiet : base.xsink = [])
include plays quiet

omit plays quiet in
/-- A command that was sent waits for the results of the script. -/
theorem Issued.waiting (sent : Issued query id base issued) :
    Waiting id query true base.env.script base issued := by
  obtain ⟨cmd, read, holds, isQuery, waits, dirty⟩ := sent
  exact ⟨cmd, base.env, read, rfl, holds, isQuery, .inr waits, fun _ => dirty⟩

omit plays in
theorem Depleted.ended {after : World Playing} (depleted : Depleted id base after) :
    Ended id [] base after := by
  obtain ⟨cmd, env, read, script, holds, -⟩ := depleted
  refine ⟨cmd, env, after, read, holds, ?_, fun _ => script⟩
  rw [← quiet, ← read.xsink]

/-- Where one row is expected, the first query with more ends the reading with an exception. -/
theorem wp_iterate_readOutputOnce_second {script outputs : List Announcement} {dirty : Bool}
    (rf : ResultFactory) {bound : Nat} (waiting : Waiting id query dirty script base world)
    (filtered : script.filter Announcement.isOutput = outputs) (fresh : FreshRows dirty outputs)
    (readable : Readable cfg base.connection.enc.isMultiByte outputs)
    (enough : script.length < cfg.fuel) (more : outputs.length < bound)
    (several : ∃ result, .row result ∈ outputs ∧ 1 < result.rows.length) :
    wp (iterate .exhausted (readOutputOnce cfg reconnect id true false true) bound rf)
      (fun value after => value = .nothing ∧ Ended id [secondRow] base after)
      noThrow noHalt world := by
  induction outputs generalizing script dirty rf bound world with
  | nil =>
    obtain ⟨_, member, -⟩ := several
    exact absurd member List.not_mem_nil
  | cons announcement outputs inductionHypothesis =>
    obtain ⟨bound, rfl⟩ := Nat.exists_eq_add_of_lt more
    obtain ⟨before, rest, rfl, succeeds, output, filtered⟩ := List.filter_eq_cons_iff.mp filtered
    have succeeds : ∀ earlier ∈ before, earlier.isOutput = false := fun earlier member =>
      Bool.eq_false_iff.mpr (succeeds earlier member)
    have here := readable announcement List.mem_cons_self
    have short : before.length < cfg.fuel := by
      rw [List.length_append] at enough
      omega
    refine wp_iterate_succ.mpr ?_
    by_cases second : ∃ result, announcement = .row result ∧ 1 < result.rows.length
    · obtain ⟨result, rfl, two⟩ := second
      obtain ⟨wellFormed, enough⟩ := here result rfl
      refine wp_mono_ok (wp_readOutputOnce_announced plays quiet rf waiting succeeds output short
        fun cmd env middle read holds sent stale => ?_) fun _ _ post => post
      rw [Announcement.res, readOutputResult, wp_bind]
      refine wp_mono_ok (wp_readRowsOrCols_second plays wellFormed enough false two
        (by exact holds) read quiet rfl rfl (.inl (stale (fresh.1 ⟨result, rfl⟩)))) ?_
      rintro _ after ⟨rfl, cmd', env', fetched, readTo, onHandle, rfl⟩
      rw [wp_bind, wp_isException, if_pos (by simp)]
      exact ⟨rfl, cmd', env', fetched, readTo, onHandle ▸ holds, rfl, by simp⟩
    · have yields : ∀ result, announcement = .row result →
          Yields cfg base.connection.enc.isMultiByte true false true result
            (result.value cfg base.connection.enc.isMultiByte none) := fun result isRow =>
        yields_row plays (here result (isRow ▸ rfl)).1 (here result (isRow ▸ rfl)).2 false
          (Nat.le_of_not_lt fun two => second ⟨result, isRow, two⟩)
      refine wp_mono_ok (wp_readOutputOnce_play plays quiet rf waiting succeeds output
        fresh.1 here yields short) ?_
      rintro _ after ⟨rfl, waiting⟩
      rw [List.length_append, List.length_cons] at enough
      refine inductionHypothesis _ waiting filtered fresh.2
        (fun later member => readable later (List.mem_cons_of_mem _ member)) (by omega)
        (by rw [List.length_cons]; omega) ?_
      obtain ⟨result, member, two⟩ := several
      rcases List.mem_cons.mp member with isHere | later
      · exact absurd ⟨result, isHere.symm, two⟩ second
      · exact ⟨result, later, two⟩

end Reading

/-! ### The methods of a Datasource -/

/-- A request that the driver accepts where nothing is pending and the registered statement, if
there is one, holds a live command, and the results of some commands that the server plays for it,
with columns and values of known types. -/
structure Answerable (cfg : Config Playing) (sql : Text) (args : Option (List QoreValue))
    (raw : Bool)
    (query : SybaseQuery) (commands : List CommandScript) (world : World Playing) : Prop where
  plays : cfg.lib = CtLib.play
  quiet : world.xsink = []
  unsevere : hasSevere world = false
  consistent : world.registry.Consistent
  live : ∀ statement, world.connection.stmt = some statement → world.HoldsLive cfg statement
  accepted : ∃ cmdText, cfg.qore.convertEncoding world.connection.enc sql = some cmdText ∧
    Accepted cfg world.connection.enc cmdText args raw query
  script : world.env.script.filter Announcement.isOutput =
    commands.flatMap CommandScript.announcements
  legible : ∀ command ∈ commands, command.Legible cfg world.connection.enc.isMultiByte
  enough : world.env.script.length < cfg.fuel
  rows : ∀ command ∈ commands, ∀ result ∈ command.results, result.rows.length < cfg.fuel

/-- What a request returns for some commands, in a mode that gives the rows of a query a value. -/
def responseAs (cfg : Config Playing) (isMultiByte : Bool) (query : SybaseQuery)
    (value : Fetchable → QoreValue) (commands : List CommandScript) : QoreValue :=
  ResultFactory.res {
    params := commands.flatMap (CommandScript.params cfg isMultiByte query.placeholders)
    reslist := commands.flatMap (CommandScript.queriesAs value)
    last := .nothing }

/-- A query of some commands has several rows. -/
def HasSeveral (commands : List CommandScript) : Prop :=
  ∃ command ∈ commands, ∃ result, command.row = some result ∧ 1 < result.rows.length

section Methods

variable {sql : Text} {raw : Bool} {commands : List CommandScript}
  (answerable : Answerable cfg sql args raw query commands world)
include answerable

/-- A query of the commands has columns and values of known types. -/
theorem Answerable.row {command : CommandScript} (member : command ∈ commands) {result : Fetchable}
    (isRow : command.row = some result) :
    result.WellFormed cfg world.connection.enc.isMultiByte ∧ result.rows.length < cfg.fuel := by
  have inResults : result ∈ command.results := by simp [CommandScript.results, isRow]
  exact ⟨(answerable.legible command member).results result inResults,
    answerable.rows command member result inResults⟩

/-- A request in a mode that gives the rows of a query a value. -/
theorem Answerable.wp_request {list cols singleRow : Bool} {value : Fetchable → QoreValue}
    (counted : ∀ command ∈ commands, command.Counted value)
    (yields : ∀ command ∈ commands, ∀ result, command.row = some result →
      Yields cfg world.connection.enc.isMultiByte list cols singleRow result (value result)) :
    wp (request cfg (topReconnect cfg) sql args list (!raw) cols singleRow)
      (fun result after =>
        result = responseAs cfg world.connection.enc.isMultiByte query value commands ∧
        Responded [] world after) noThrow noHalt world := by
  obtain ⟨cmdText, converted, accepted⟩ := answerable.accepted
  refine wp_request_play answerable.plays converted accepted
    (Nat.lt_of_le_of_lt (Nat.zero_le _) answerable.enough) answerable.quiet answerable.unsevere
    answerable.consistent answerable.live (fun id base issued env quiet enc sent => ?_)
    fun raised => absurd rfl raised
  have waiting := sent.waiting
  rw [env] at waiting
  rw [← enc] at yields ⊢
  refine wp_mono_ok (wp_readOutput_play answerable.plays quiet waiting answerable.script
    (enc ▸ answerable.legible) answerable.enough answerable.rows counted yields) ?_
  rintro _ after ⟨rfl, depleted⟩
  exact ⟨rfl, depleted.ended quiet⟩

/-- A request for one row where a query has several. -/
theorem Answerable.wp_request_second (several : HasSeveral commands) :
    wp (request cfg (topReconnect cfg) sql args true (!raw) false true)
      (fun result after => result = .nothing ∧ Responded [secondRow] world after)
      noThrow noHalt world := by
  obtain ⟨cmdText, converted, accepted⟩ := answerable.accepted
  refine wp_request_play answerable.plays converted accepted
    (Nat.lt_of_le_of_lt (Nat.zero_le _) answerable.enough) answerable.quiet answerable.unsevere
    answerable.consistent answerable.live (fun id base issued env quiet enc sent => ?_) fun _ => rfl
  have waiting := sent.waiting
  rw [env] at waiting
  have fewer : (commands.flatMap CommandScript.announcements).length < cfg.fuel :=
    Nat.lt_of_le_of_lt (answerable.script ▸ List.length_filter_le _ _) answerable.enough
  refine wp_iterate_readOutputOnce_second answerable.plays quiet ResultFactory.empty waiting
    answerable.script (freshRows_commands commands)
    (readable_commands cfg _ (enc ▸ answerable.legible) answerable.rows) answerable.enough fewer ?_
  obtain ⟨command, member, result, isRow, two⟩ := several
  refine ⟨result, List.mem_flatMap.mpr ⟨command, member, ?_⟩, two⟩
  simp [CommandScript.announcements, isRow]

end Methods

/-- `selectRows` returns the rows of a query as a list, also where there is only one. -/
def rowsSelected : QoreValue → QoreValue
  | .hash h => .list [.hash h]
  | value => value

/-- What `selectRow` returns for what was read, and the exception it raises. -/
def rowSelected : QoreValue → QoreValue × List QoreException
  | .hash h => (.hash h, [])
  | .nothing => (.nothing, [])
  | value =>
    let typeName := value.getTypeName
    (.nothing, [⟨"DBI-SELECT-ROW-ERROR",
      s!"selectRow() returned type '{typeName}'; expecting a hash for a " ++ "single row"⟩])

/-- A driver whose ct-lib plays scripts. -/
def answeringConfig : Config Playing := Config.sample CtLib.play true 10

/-- An open Datasource whose server plays the results of some commands. -/
def answeringWorld (commands : List CommandScript) : World Playing :=
  World.opened ⟨⟨[], []⟩, -1, commands.flatMap CommandScript.announcements, 0⟩

/-- A query with a parameter, as it is sent. -/
def sampleQuery : SybaseQuery := ⟨text "select @par1", ['v'], []⟩

theorem answerable_sampleScript :
    Answerable answeringConfig (text "select %v") (some [.int 1]) false sampleQuery sampleScript
      (answeringWorld sampleScript) := by
  have start : (answeringWorld sampleScript).IsStart := ⟨rfl, rfl, rfl, rfl⟩
  have result : Fetchable.WellFormed answeringConfig true ⟨sampleColumns, [sampleRow]⟩ :=
    ⟨by simp [sampleColumns], by simp; rfl⟩
  have legible : ∀ command ∈ sampleScript, command.Legible answeringConfig true := by
    intro command member
    simp only [sampleScript, List.mem_cons, List.not_mem_nil, or_false] at member
    rcases member with rfl | rfl
    · refine ⟨?_, ?_⟩
      · simpa [CommandScript.results, CommandOutput.result] using result
      · simp [CommandScript.paramResults, CommandOutput.param?]
    · refine ⟨?_, ?_⟩
      · simp [CommandScript.results]
      · simp [CommandScript.paramResults]
  have accepted : Accepted answeringConfig ⟨text "UTF-8", true⟩ (text "select %v")
      (some [.int 1]) false
      sampleQuery := ⟨by rfl, by rfl, fun _ => by decide⟩
  exact ⟨rfl, rfl, rfl, start.consistent, fun _ absent =>
    absurd absent (by simp [answeringWorld, World.opened]),
    ⟨_, rfl, accepted⟩, rfl, legible, by decide, by decide⟩

theorem counted_sampleScript : ∀ command ∈ sampleScript, command.Counted
    (Fetchable.value answeringConfig true none) := by
  intro command member
  simp only [sampleScript, List.mem_cons, List.not_mem_nil, or_false] at member
  rcases member with rfl | rfl
  · rintro result isRow absent -
    cases isRow
    rw [value_isPresent] at absent
    exact absurd absent (by decide)
  · rintro result isRow
    cases isRow

/-- What a request returns in columns; the flag tells whether a query without rows has columns. -/
def columnsResponse (cfg : Config Playing) (isMultiByte cols : Bool) (query : SybaseQuery)
    (commands : List CommandScript) : QoreValue :=
  responseAs cfg isMultiByte query (fun result => .hash (result.columnHash cfg isMultiByte cols))
    commands

/-- A request in columns. A query always has a value then, so its row count is not returned. -/
theorem Answerable.wp_request_columns {sql : Text} {raw : Bool} {commands : List CommandScript}
    (answerable : Answerable cfg sql args raw query commands world) (cols : Bool) :
    wp (request cfg (topReconnect cfg) sql args false (!raw) cols false)
      (fun result after =>
        result = columnsResponse cfg world.connection.enc.isMultiByte cols query commands ∧
        Responded [] world after) noThrow noHalt world := by
  refine answerable.wp_request (fun command _ result _ absent => ?_)
    fun command member result isRow =>
    yields_columns answerable.plays (answerable.row member isRow).1
      (answerable.row member isRow).2 cols
      false
  exact absurd absent (by simp [QoreValue.isPresent])

end Sybase
