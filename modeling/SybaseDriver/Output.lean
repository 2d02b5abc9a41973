/-
This file proves what `command::readOutput` returns for a script of results, in a mode
that gives the rows of a query a value. One pass of its loop reads one announcement of
the script into the factory of results, and the columns are described anew wherever a
result has other columns than the one before it. For the commands of a script, the
factory then holds the values of the queries and the counts of the other commands in one
list, and the values of the output parameters in another.
-/

import SybaseDriver.Modes

namespace Sybase

open Program Command Connection

/-! ### Commands of a script -/

/-- A result after the rows of a command: its return status, or its output parameters. -/
inductive CommandOutput where
  | status (result : Fetchable)
  | param (result : Fetchable)

namespace CommandOutput

/-- How such a result is announced. -/
def announcement : CommandOutput → Announcement
  | status result => .status result
  | param result => .param result

/-- The result itself. -/
def result : CommandOutput → Fetchable
  | status result => result
  | param result => result

/-- The result, if it has output parameters. -/
def param? : CommandOutput → Option Fetchable
  | status _ => none
  | param result => some result

end CommandOutput

/-- The results of one command: its rows, if it is a query, then return statuses and output
parameters in any number and order, and last its row count. -/
structure CommandScript where
  row : Option Fetchable
  outputs : List CommandOutput
  count : Int

namespace CommandScript

variable (cfg : Config Playing) (isMultiByte : Bool) (placeholders : List Text)

/-- How the results of a command are announced. -/
def announcements (command : CommandScript) : List Announcement :=
  command.row.toList.map .row ++ command.outputs.map CommandOutput.announcement ++
    [.done command.count]

/-- The results of a command that have rows. -/
def results (command : CommandScript) : List Fetchable :=
  command.row.toList ++ command.outputs.map CommandOutput.result

/-- The results of a command that have output parameters. -/
def paramResults (command : CommandScript) : List Fetchable :=
  command.outputs.filterMap CommandOutput.param?

/-- What a command contributes to the list of queries in a mode that gives the rows of a query a
value: that value, or the row count of the command if it is positive and the command had neither
rows nor output parameters. -/
def queriesAs (value : Fetchable → QoreValue) (command : CommandScript) : List QoreValue :=
  command.row.toList.map value ++
    if 0 < command.count ∧ command.row = none ∧ command.paramResults = [] then
      [.int command.count]
    else []

/-- The same in list mode. -/
def queries : CommandScript → List QoreValue := queriesAs (Fetchable.value cfg isMultiByte none)

/-- What a command contributes to the list of output parameters. -/
def params (command : CommandScript) : List QoreValue :=
  command.paramResults.map (Fetchable.value cfg isMultiByte (some placeholders))

/-- The results have columns and values of known types, and output parameters have at least one
row. -/
structure Legible (command : CommandScript) : Prop where
  results : ∀ result ∈ command.results, result.WellFormed cfg isMultiByte
  params : ∀ result ∈ command.paramResults, result.rows ≠ []

/-- The results have columns and values of known types, output parameters have at least one row, and
a query without rows and without output parameters reports no rows. -/
structure WellFormed (command : CommandScript) : Prop where
  results : ∀ result ∈ command.results, result.WellFormed cfg isMultiByte
  params : ∀ result ∈ command.paramResults, result.rows ≠ []
  count : ∀ result, command.row = some result → result.rows = [] → command.paramResults = [] →
    command.count ≤ 0

end CommandScript

/-! ### One announcement -/

section Reading

variable {cfg : Config Playing} {id : CommandId} {query : SybaseQuery}
    {reconnect : Reconnect Playing}
  {base world : World Playing}

/-- The factory after a result of the script was read, in a mode that gives the rows of a query a
value. -/
def gather (cfg : Config Playing) (isMultiByte : Bool) (value : Fetchable → QoreValue)
    (placeholders : List Text) (rf : ResultFactory) : Announcement → ResultFactory
  | .succeed | .status _ => rf
  | .row result => rf.add (value result)
  | .param result => rf.addParams (result.value cfg isMultiByte (some placeholders))
  | .done count => rf.done count

/-- Whether the columns are described anew for a query that follows. -/
def Announcement.leavesDirty (dirty : Bool) : Announcement → Bool
  | .succeed => dirty
  | .row _ | .param _ => false
  | .status _ | .done _ => true

/-- The rows of a query are announced only where the columns are described anew. -/
def FreshRows : Bool → List Announcement → Prop
  | _, [] => True
  | dirty, announcement :: rest =>
    ((∃ result, announcement = .row result) → dirty = true) ∧
      FreshRows (announcement.leavesDirty dirty) rest

/-- The result with rows an announcement has, if any. -/
def Announcement.fetchable? : Announcement → Option Fetchable
  | .row result | .param result | .status result => some result
  | _ => none

/-- The results of a script have columns and values of known types, and fewer rows than the bound
of a loop. -/
def Readable (cfg : Config Playing) (isMultiByte : Bool) (script : List Announcement) : Prop :=
  ∀ announcement ∈ script, ∀ result, announcement.fetchable? = some result →
    result.WellFormed cfg isMultiByte ∧ result.rows.length < cfg.fuel

/-- A command that was sent and waits for a result of the script. -/
def Waiting (id : CommandId) (query : SybaseQuery) (dirty : Bool) (script : List Announcement)
    (base world : World Playing) : Prop :=
  ∃ cmd env, ReadTo id cmd env base world ∧ env.script = script ∧ cmd.mCmd.isSome ∧
    cmd.query = some query ∧ (cmd.lastRes = .resDone ∨ cmd.lastRes = .resNone) ∧
      (dirty = true → cmd.colinfo.dirty = true)

theorem Waiting.of_finished {cmd : Command} {env : Playing} {dirty : Bool}
    (finished : Finished id cmd env base world) (holds : cmd.mCmd.isSome)
    (sent : cmd.query = some query) (notDirty : dirty = false) :
    Waiting id query dirty env.script base world := by
  obtain ⟨cmd', env', read, script, -, onHandle, query', lastRes⟩ := finished
  exact ⟨cmd', env', read, script, onHandle ▸ holds, query'.trans sent, .inr lastRes,
    fun isDirty => absurd isDirty (by simp [notDirty])⟩

/-- A command that has read all results of a script. -/
def Depleted (id : CommandId) (base world : World Playing) : Prop :=
  ∃ cmd env, ReadTo id cmd env base world ∧ env.script = [] ∧ cmd.mCmd.isSome ∧
    cmd.lastRes = .resEnd

/-- The mode in which results are read gives the queries of a script their values. -/
def YieldsEach (cfg : Config Playing) (isMultiByte list cols singleRow : Bool)
    (value : Fetchable → QoreValue) (script : List Announcement) : Prop :=
  ∀ result, .row result ∈ script → Yields cfg isMultiByte list cols singleRow result (value result)

variable {list cols singleRow : Bool} {value : Fetchable → QoreValue} (plays : cfg.lib = CtLib.play)
  (quiet : base.xsink = [])
include plays quiet

/-- What `readOutput` does with a result of the script. -/
theorem wp_readOutputResult_play {cmd : Command} {env : Playing} {announcement : Announcement}
    {rest : List Announcement} {dirty : Bool} (rf : ResultFactory)
    (read : ReadTo id { announcement.seen cmd with lastRes := announcement.res }
      (env.announce announcement rest) base world)
    (holds : cmd.mCmd.isSome) (sent : cmd.query = some query)
    (stale : dirty = true → cmd.colinfo.dirty = true)
    (output : announcement.isOutput = true)
    (fresh : (∃ result, announcement = .row result) → dirty = true)
    (readable : ∀ result, announcement.fetchable? = some result →
      result.WellFormed cfg base.connection.enc.isMultiByte ∧ result.rows.length < cfg.fuel)
    (yields : ∀ result, announcement = .row result →
      Yields cfg base.connection.enc.isMultiByte list cols singleRow result (value result)) :
    wp (readOutputResult cfg id list cols singleRow rf announcement.res)
      (fun result after =>
        result = .inl (gather cfg base.connection.enc.isMultiByte value query.placeholders rf
          announcement) ∧
        Waiting id query (announcement.leavesDirty dirty) rest base after)
      noThrow noHalt world := by
  cases announcement with
  | succeed => exact absurd output (by simp [Announcement.isOutput])
  | row result =>
    rw [Announcement.res, readOutputResult, wp_bind]
    refine wp_mono_ok (yields result rfl (by exact holds) read quiet rfl rfl
      (.inl (stale (fresh ⟨result, rfl⟩)))) ?_
    rintro _ after ⟨rfl, finished⟩
    have quietAfter : after.xsink = [] := finished.xsink.trans quiet
    rw [wp_bind, wp_isException, quietAfter, if_neg (by simp)]
    exact ⟨rfl, Waiting.of_finished finished (by exact holds) (by exact sent) rfl⟩
  | param result =>
    obtain ⟨wellFormed, enough⟩ := readable result rfl
    rw [Announcement.res, readOutputResult]
    refine wp_retrColinfo_then_play plays (by exact holds) read quiet wellFormed
      fun cmd' env' middle read current script bound onHandle query' => ?_
    rw [wp_bind, wp_getCommand_some read.commands, query'.trans sent]
    rw [wp_bind]
    refine wp_mono_ok (wp_readRows_play plays (onHandle ▸ holds) read quiet (current ▸ wellFormed) _
      bound (current ▸ enough)) ?_
    rintro _ after ⟨rfl, finished⟩
    have quietAfter : after.xsink = [] := finished.xsink.trans quiet
    rw [wp_bind, wp_isException, quietAfter, if_neg (by simp)]
    refine ⟨by rw [current]; rfl, ?_⟩
    have waits := Waiting.of_finished finished (onHandle ▸ holds) (query'.trans sent) rfl
    rwa [script] at waits
  | status result =>
    obtain ⟨wellFormed, enough⟩ := readable result rfl
    obtain ⟨other, yieldsOther⟩ := exists_yields plays wellFormed enough list
    rw [Announcement.res, readOutputResult]
    refine wp_retrColinfo_then_play plays (by exact holds) read quiet wellFormed
      fun cmd' env' middle read current script bound onHandle query' => ?_
    rw [wp_bind]
    refine wp_mono_ok (yieldsOther (onHandle ▸ holds) read quiet rfl current (.inr bound)) ?_
    rintro _ after ⟨-, cmd'', env'', read, script', -, onHandle', query'', lastRes⟩
    rw [wp_bind]
    refine wp_mono_ok (read.modify _) fun _ _ read =>
      ⟨rfl, _, _, read, script'.trans script, ?_, ?_, .inr lastRes, fun _ => rfl⟩
    · exact onHandle'.trans onHandle ▸ holds
    · exact (query''.trans query').trans sent
  | done count =>
    rw [Announcement.res, readOutputResult, wp_bind, wp_getCommand_some read.commands]
    exact ⟨rfl, _, _, read, rfl, holds, sent, .inl rfl, fun _ => rfl⟩

omit plays quiet in
/-- What `connection::readNextResult` reads from a script. -/
theorem wp_readNextResult_connection {result : ResType} {onRead : World Playing → Prop}
    (still : world.xsink = [])
    (reads : wp (Command.readNextResult cfg id)
      (fun read after => read = (result, false) ∧ onRead after) noThrow noHalt world) :
    wp (Connection.readNextResult cfg reconnect id)
      (fun read after => read = result ∧ onRead after) noThrow noHalt world := by
  rw [Connection.readNextResult, wp_bind, wp_isException, still, if_neg (by simp), wp_bind]
  refine wp_mono_ok reads ?_
  rintro _ after ⟨rfl, kept⟩
  exact ⟨rfl, kept⟩

/-- One pass of the loop of `readOutput` on a script reads the next result of it. -/
theorem wp_readOutputOnce_announced {before rest : List Announcement} {announcement : Announcement}
    {dirty : Bool} (rf : ResultFactory)
    (waiting : Waiting id query dirty (before ++ announcement :: rest) base world)
    (succeeds : ∀ earlier ∈ before, earlier.isOutput = false)
    (output : announcement.isOutput = true) (enough : before.length < cfg.fuel)
    {onRead : ResultFactory ⊕ QoreValue → World Playing → Prop}
    (reads : ∀ (cmd : Command) (env : Playing) (middle : World Playing),
      ReadTo id { announcement.seen cmd with lastRes := announcement.res }
        (env.announce announcement rest) base middle →
      cmd.mCmd.isSome → cmd.query = some query → (dirty = true → cmd.colinfo.dirty = true) →
      wp (readOutputResult cfg id list cols singleRow rf announcement.res) onRead noThrow noHalt
        middle) :
    wp (readOutputOnce cfg reconnect id list cols singleRow rf) onRead noThrow noHalt world := by
  obtain ⟨cmd, env, read, script, holds, sent, waits, stale⟩ := waiting
  have waits : cmd.lastRes = .resDone ∨ cmd.lastRes = .resNone ∨ cmd.lastRes = .resRetry :=
    waits.elim .inl fun none => .inr (.inl none)
  rw [readOutputOnce, wp_bind]
  refine wp_mono_ok (wp_readNextResult_connection (read.xsink.trans quiet)
    (wp_readNextResult_play plays holds read quiet waits script succeeds output enough)) ?_
  rintro _ middle ⟨rfl, read⟩
  rw [wp_bind, wp_isException, read.xsink, quiet, if_neg (by simp)]
  exact reads cmd env middle read holds sent stale

/-- One pass of the loop of `readOutput` reads one announcement that has a result or a row count. -/
theorem wp_readOutputOnce_play {before rest : List Announcement} {announcement : Announcement}
    {dirty : Bool} (rf : ResultFactory)
    (waiting : Waiting id query dirty (before ++ announcement :: rest) base world)
    (succeeds : ∀ earlier ∈ before, earlier.isOutput = false)
    (output : announcement.isOutput = true)
    (fresh : (∃ result, announcement = .row result) → dirty = true)
    (readable : ∀ result, announcement.fetchable? = some result →
      result.WellFormed cfg base.connection.enc.isMultiByte ∧ result.rows.length < cfg.fuel)
    (yields : ∀ result, announcement = .row result →
      Yields cfg base.connection.enc.isMultiByte list cols singleRow result (value result))
    (enough : before.length < cfg.fuel) :
    wp (readOutputOnce cfg reconnect id list cols singleRow rf)
      (fun result after =>
        result = .inl (gather cfg base.connection.enc.isMultiByte value query.placeholders rf
          announcement) ∧
        Waiting id query (announcement.leavesDirty dirty) rest base after)
      noThrow noHalt world :=
  wp_readOutputOnce_announced plays quiet rf waiting succeeds output enough
    fun _ _ _ read holds sent stale =>
      wp_readOutputResult_play plays quiet rf read holds sent stale output fresh readable yields

/-- The last pass of the loop of `readOutput`. -/
theorem wp_readOutputOnce_end {script : List Announcement} {dirty : Bool} (rf : ResultFactory)
    (waiting : Waiting id query dirty script base world)
    (succeeds : ∀ earlier ∈ script, earlier.isOutput = false)
    (enough : script.length < cfg.fuel) :
    wp (readOutputOnce cfg reconnect id list cols singleRow rf)
      (fun result after => result = .inr rf.res ∧ Depleted id base after) noThrow noHalt world := by
  obtain ⟨cmd, env, read, rfl, holds, sent, waits, stale⟩ := waiting
  have waits : cmd.lastRes = .resDone ∨ cmd.lastRes = .resNone ∨ cmd.lastRes = .resRetry :=
    waits.elim .inl fun none => .inr (.inl none)
  rw [readOutputOnce, wp_bind]
  refine wp_mono_ok (wp_readNextResult_connection (read.xsink.trans quiet)
    (wp_readNextResult_end plays holds read quiet waits succeeds enough)) ?_
  rintro _ middle ⟨rfl, read⟩
  rw [wp_bind, wp_isException, read.xsink, quiet, if_neg (by simp)]
  exact ⟨rfl, _, _, read, rfl, holds, rfl⟩

/-- The loop of `readOutput` collects the announcements of a script. -/
theorem wp_iterate_readOutputOnce {script outputs : List Announcement} {dirty : Bool}
    (rf : ResultFactory) {bound : Nat} (waiting : Waiting id query dirty script base world)
    (filtered : script.filter Announcement.isOutput = outputs) (fresh : FreshRows dirty outputs)
    (readable : Readable cfg base.connection.enc.isMultiByte outputs)
    (yields : YieldsEach cfg base.connection.enc.isMultiByte list cols singleRow value outputs)
    (enough : script.length < cfg.fuel) (more : outputs.length < bound) :
    wp (iterate .exhausted (readOutputOnce cfg reconnect id list cols singleRow) bound rf)
      (fun result after => result = (outputs.foldl
        (gather cfg base.connection.enc.isMultiByte value query.placeholders) rf).res ∧
        Depleted id base after)
      noThrow noHalt world := by
  induction outputs generalizing script dirty rf bound world with
  | nil =>
    obtain ⟨bound, rfl⟩ := Nat.exists_eq_add_of_lt more
    have succeeds : ∀ earlier ∈ script, earlier.isOutput = false := fun earlier member =>
      Bool.eq_false_iff.mpr fun output =>
        List.not_mem_nil (filtered ▸ List.mem_filter.mpr ⟨member, output⟩)
    refine wp_iterate_succ.mpr (wp_mono_ok
      (wp_readOutputOnce_end plays quiet rf waiting succeeds enough) ?_)
    rintro _ after ⟨rfl, depleted⟩
    exact ⟨rfl, depleted⟩
  | cons announcement outputs inductionHypothesis =>
    obtain ⟨bound, rfl⟩ := Nat.exists_eq_add_of_lt more
    obtain ⟨before, rest, rfl, succeeds, output, filtered⟩ := List.filter_eq_cons_iff.mp filtered
    rw [List.length_append, List.length_cons] at enough
    refine wp_iterate_succ.mpr (wp_mono_ok (wp_readOutputOnce_play plays quiet rf waiting
      (fun earlier member => Bool.eq_false_iff.mpr (succeeds earlier member)) output fresh.1
      (readable announcement List.mem_cons_self)
      (fun result isRow => yields result (isRow ▸ List.mem_cons_self)) (by omega)) ?_)
    rintro _ after ⟨rfl, waiting⟩
    exact inductionHypothesis _ waiting filtered fresh.2
      (fun later member => readable later (List.mem_cons_of_mem _ member))
      (fun result member => yields result (List.mem_cons_of_mem _ member)) (by omega)
      (by rw [List.length_cons]; omega)

end Reading

/-! ### The commands of a script -/

section Commands

variable (cfg : Config Playing) (isMultiByte : Bool) (placeholders : List Text)

/-- Where the columns are described anew, the rows of a command are announced. -/
theorem freshRows_announcements (command : CommandScript) {rest : List Announcement}
    (fresh : FreshRows true rest) : FreshRows true (command.announcements ++ rest) := by
  have outputs : ∀ dirty, FreshRows dirty
      (command.outputs.map CommandOutput.announcement ++ [.done command.count] ++ rest) := by
    induction command.outputs with
    | nil => exact fun dirty => ⟨fun ⟨_, isRow⟩ => (nomatch isRow), fresh⟩
    | cons output outputs inductionHypothesis =>
      refine fun dirty => ⟨fun ⟨_, isRow⟩ => ?_, inductionHypothesis _⟩
      cases output <;> cases isRow
  rw [CommandScript.announcements, List.append_assoc, List.append_assoc]
  rw [List.append_assoc] at outputs
  cases command.row with
  | none => exact outputs true
  | some result => exact ⟨fun _ => rfl, outputs false⟩

theorem freshRows_commands (commands : List CommandScript) :
    FreshRows true (commands.flatMap CommandScript.announcements) := by
  induction commands with
  | nil => trivial
  | cons command commands inductionHypothesis =>
    rw [List.flatMap_cons]
    exact freshRows_announcements command inductionHypothesis

/-- The results of a command that have rows are those of its announcements. -/
theorem readable_commands {commands : List CommandScript}
    (legible : ∀ command ∈ commands, command.Legible cfg isMultiByte)
    (enough : ∀ command ∈ commands, ∀ result ∈ command.results, result.rows.length < cfg.fuel) :
    Readable cfg isMultiByte (commands.flatMap CommandScript.announcements) := by
  intro announcement member result isResult
  obtain ⟨command, inCommands, member⟩ := List.mem_flatMap.mp member
  have inResults : result ∈ command.results := by
    rw [CommandScript.announcements, List.mem_append, List.mem_append] at member
    rw [CommandScript.results, List.mem_append]
    rcases member with (row | output) | done
    · obtain ⟨_, isRow, rfl⟩ := List.mem_map.mp row
      cases isResult
      exact .inl isRow
    · obtain ⟨other, inOutputs, rfl⟩ := List.mem_map.mp output
      refine .inr (List.mem_map.mpr ⟨other, inOutputs, ?_⟩)
      cases other <;> cases isResult <;> rfl
    · cases List.mem_singleton.mp done
      cases isResult
  exact ⟨(legible command inCommands).results result inResults,
    enough command inCommands result inResults⟩

/-- The value of a result tests as present if it has a row. -/
theorem value_isPresent (ph : Option (List Text)) (result : Fetchable) :
    (result.value cfg isMultiByte ph).isPresent = !result.rows.isEmpty := by
  rw [Fetchable.value, Fetchable.rowHashes, Fetchable.rowValues]
  rcases result.rows with _ | ⟨first, _ | ⟨second, rows⟩⟩ <;> rfl

section Gathering

variable {value : Fetchable → QoreValue}

/-- The outputs of a command add its output parameters. -/
theorem foldl_outputs (outputs : List CommandOutput) (rf : ResultFactory) :
    ((outputs.map CommandOutput.announcement).foldl
        (gather cfg isMultiByte value placeholders) rf) =
      { rf with
        params := rf.params ++ (outputs.filterMap CommandOutput.param?).map
          (Fetchable.value cfg isMultiByte (some placeholders))
        last := ((outputs.filterMap CommandOutput.param?).map
          (Fetchable.value cfg isMultiByte (some placeholders))).getLast?.getD rf.last } := by
  induction outputs generalizing rf with
  | nil => simp
  | cons output outputs inductionHypothesis =>
    cases output with
    | status result => exact inductionHypothesis rf
    | param result =>
      rw [List.map_cons, List.foldl_cons, inductionHypothesis]
      simp [gather, CommandOutput.announcement, CommandOutput.param?, ResultFactory.addParams,
        List.getLast?_cons]

/-- Where the rows of a query have no value, and it has no output parameters, it reports no rows. -/
def CommandScript.Counted (value : Fetchable → QoreValue) (command : CommandScript) : Prop :=
  ∀ result, command.row = some result → (value result).isPresent = false →
    command.paramResults = [] → command.count ≤ 0

/-- At the end of a command, its row count is added where the command had no rows to count. -/
theorem done_outputs {command : CommandScript} (legible : command.Legible cfg isMultiByte)
    (counted : command.Counted value) (params reslist : List QoreValue) :
    ResultFactory.done {
      params := params ++ command.params cfg isMultiByte placeholders
      reslist := reslist ++ command.row.toList.map value
      last := (command.params cfg isMultiByte placeholders).getLast?.getD
        ((command.row.map value).getD .nothing) } command.count =
      ⟨params ++ command.params cfg isMultiByte placeholders,
        reslist ++ command.queriesAs value, .nothing⟩ := by
  rw [ResultFactory.done, CommandScript.queriesAs]
  by_cases positive : 0 < command.count
  · rw [if_neg (by omega)]
    by_cases alone : command.row = none ∧ command.paramResults = []
    · simp [CommandScript.params, alone, positive, QoreValue.isPresent]
    · rw [if_pos ?_, if_neg fun counted => alone counted.2, List.append_nil]
      cases last : (command.params cfg isMultiByte placeholders).getLast? with
      | some value =>
        obtain ⟨result, member, rfl⟩ := List.mem_map.mp (List.mem_of_getLast? last)
        rw [Option.getD_some, value_isPresent]
        simpa using legible.params result member
      | none =>
        have noParams := List.map_eq_nil_iff.mp (List.getLast?_eq_none_iff.mp last)
        cases row : command.row with
        | none => exact absurd ⟨row, noParams⟩ alone
        | some result =>
          rw [Option.getD_none, Option.map_some, Option.getD_some]
          by_contra absent
          exact absurd (counted result row (Bool.eq_false_iff.mpr absent) noParams) (by omega)
  · rw [if_pos (by omega), if_neg fun counted => positive counted.1, List.append_nil]

/-- The announcements of a command add its queries and its output parameters. -/
theorem foldl_command {command : CommandScript} (legible : command.Legible cfg isMultiByte)
    (counted : command.Counted value) (params reslist : List QoreValue) :
    command.announcements.foldl (gather cfg isMultiByte value placeholders)
      ⟨params, reslist, .nothing⟩ =
      ⟨params ++ command.params cfg isMultiByte placeholders,
        reslist ++ command.queriesAs value, .nothing⟩ := by
  have row : (command.row.toList.map Announcement.row).foldl
      (gather cfg isMultiByte value placeholders) ⟨params, reslist, .nothing⟩ =
      ⟨params, reslist ++ command.row.toList.map value,
        (command.row.map value).getD .nothing⟩ := by
    cases command.row <;> simp [gather, ResultFactory.add]
  rw [CommandScript.announcements, List.foldl_append, List.foldl_append, row, foldl_outputs,
    List.foldl_cons, List.foldl_nil, gather]
  exact done_outputs cfg isMultiByte placeholders legible counted params reslist

/-- The announcements of the commands add their queries and their output parameters. -/
theorem foldl_commands {commands : List CommandScript}
    (legible : ∀ command ∈ commands, command.Legible cfg isMultiByte)
    (counted : ∀ command ∈ commands, command.Counted value) (params reslist : List QoreValue) :
    (commands.flatMap CommandScript.announcements).foldl (gather cfg isMultiByte value placeholders)
      ⟨params, reslist, .nothing⟩ =
      ⟨params ++ commands.flatMap (CommandScript.params cfg isMultiByte placeholders),
        reslist ++ commands.flatMap (CommandScript.queriesAs value), .nothing⟩ := by
  induction commands generalizing params reslist with
  | nil => simp
  | cons command commands inductionHypothesis =>
    rw [List.flatMap_cons, List.foldl_append, foldl_command cfg isMultiByte placeholders
        (legible command List.mem_cons_self) (counted command List.mem_cons_self),
      inductionHypothesis (fun later member => legible later (List.mem_cons_of_mem _ member))
        fun later member => counted later (List.mem_cons_of_mem _ member)]
    simp only [List.flatMap_cons, List.append_assoc]

end Gathering

variable {cfg isMultiByte}

theorem CommandScript.WellFormed.legible {command : CommandScript}
    (wellFormed : command.WellFormed cfg isMultiByte) : command.Legible cfg isMultiByte :=
  ⟨wellFormed.results, wellFormed.params⟩

/-- The rows of a query as a list have no value where there are none. -/
theorem CommandScript.WellFormed.counted {command : CommandScript}
    (wellFormed : command.WellFormed cfg isMultiByte) :
    command.Counted (Fetchable.value cfg isMultiByte none) := by
  intro result row absent noParams
  rw [value_isPresent] at absent
  exact wellFormed.count result row (by simpa using absent) noParams

/-- The commands of a script are read in a mode that yields the value of each of their queries. -/
theorem yieldsEach_commands {list cols singleRow : Bool} {value : Fetchable → QoreValue}
    {commands : List CommandScript}
    (yields : ∀ command ∈ commands, ∀ result, command.row = some result →
      Yields cfg isMultiByte list cols singleRow result (value result)) :
    YieldsEach cfg isMultiByte list cols singleRow value
      (commands.flatMap CommandScript.announcements) := by
  intro result member
  obtain ⟨command, inCommands, member⟩ := List.mem_flatMap.mp member
  refine yields command inCommands result ?_
  rw [CommandScript.announcements, List.mem_append, List.mem_append] at member
  rcases member with (row | output) | done
  · obtain ⟨_, isRow, same⟩ := List.mem_map.mp row
    cases same
    exact Option.mem_toList.mp isRow
  · obtain ⟨other, -, same⟩ := List.mem_map.mp output
    cases other <;> cases same
  · cases List.mem_singleton.mp done

end Commands

/-- Reading the output of a command on a script, in a mode that gives the rows of a query a
value. -/
theorem wp_readOutput_play {cfg : Config Playing} {reconnect : Reconnect Playing}
    {base world : World Playing} {id : CommandId} {query : SybaseQuery} {script : List Announcement}
    {commands : List CommandScript} {list cols singleRow : Bool} {value : Fetchable → QoreValue}
    (plays : cfg.lib = CtLib.play)
    (quiet : base.xsink = []) (waiting : Waiting id query true script base world)
    (filtered : script.filter Announcement.isOutput =
      commands.flatMap CommandScript.announcements)
    (legible : ∀ command ∈ commands, command.Legible cfg base.connection.enc.isMultiByte)
    (enough : script.length < cfg.fuel)
    (rows : ∀ command ∈ commands, ∀ result ∈ command.results, result.rows.length < cfg.fuel)
    (counted : ∀ command ∈ commands, command.Counted value)
    (yields : ∀ command ∈ commands, ∀ result, command.row = some result →
      Yields cfg base.connection.enc.isMultiByte list cols singleRow result (value result)) :
    wp (readOutput cfg reconnect id list cols singleRow)
      (fun result after => result = ResultFactory.res {
        params := commands.flatMap (CommandScript.params cfg base.connection.enc.isMultiByte
          query.placeholders)
        reslist := commands.flatMap (CommandScript.queriesAs value)
        last := .nothing } ∧ Depleted id base after) noThrow noHalt world := by
  have fewer : (commands.flatMap CommandScript.announcements).length < cfg.fuel :=
    Nat.lt_of_le_of_lt (filtered ▸ List.length_filter_le _ _) enough
  refine wp_mono_ok (wp_iterate_readOutputOnce plays quiet ResultFactory.empty waiting filtered
    (freshRows_commands commands) (readable_commands cfg _ legible rows)
    (yieldsEach_commands yields) enough fewer) ?_
  rintro _ after ⟨rfl, depleted⟩
  rw [ResultFactory.empty, foldl_commands cfg _ _ legible counted]
  exact ⟨rfl, depleted⟩

/-- Reading the output of a command on a script, in list mode. -/
theorem wp_readOutput_commands {cfg : Config Playing} {reconnect : Reconnect Playing}
    {world : World Playing} {id : CommandId} {query : SybaseQuery} {script : List Announcement}
    {commands : List CommandScript} (cols : Bool) (plays : cfg.lib = CtLib.play)
    (quiet : world.xsink = []) (waiting : Waiting id query true script world world)
    (filtered : script.filter Announcement.isOutput =
      commands.flatMap CommandScript.announcements)
    (wellFormed : ∀ command ∈ commands,
      command.WellFormed cfg world.connection.enc.isMultiByte)
    (enough : script.length < cfg.fuel)
    (rows : ∀ command ∈ commands, ∀ result ∈ command.results, result.rows.length < cfg.fuel) :
    wp (readOutput cfg reconnect id true cols false)
      (fun value _ => value = ResultFactory.res {
        params := commands.flatMap (CommandScript.params cfg world.connection.enc.isMultiByte
          query.placeholders)
        reslist := commands.flatMap (CommandScript.queries cfg world.connection.enc.isMultiByte)
        last := .nothing }) noThrow noHalt world := by
  refine wp_mono_ok (wp_readOutput_play plays quiet waiting filtered
    (fun command member => (wellFormed command member).legible) enough rows
    (fun command member => (wellFormed command member).counted) ?_) fun _ _ post => post.1
  intro command member result isRow
  have inResults : result ∈ command.results := by simp [CommandScript.results, isRow]
  exact yields_rows plays ((wellFormed command member).results result inResults)
    (rows command member result inResults) cols

/-- A query with one row and an output parameter, and then a command that changed three rows. -/
def sampleScript : List CommandScript :=
  [⟨some ⟨sampleColumns, [sampleRow]⟩, [.param ⟨sampleColumns, [sampleRow]⟩], 1⟩, ⟨none, [], 3⟩]

/-- The state after the command was sent, with a `CS_CMD_SUCCEED` before its row count. -/
def samplePlaying : World Playing :=
  { World.opened ⟨⟨[], []⟩, -1, [.row ⟨sampleColumns, [sampleRow]⟩,
      .param ⟨sampleColumns, [sampleRow]⟩, .done 1, .succeed, .done 3], 0⟩ with
    commands := Function.update (fun _ => none) 0
      (some ⟨some ⟨[], [], []⟩, some 0, -1, .resNone, ⟨true, []⟩, []⟩) }

end Sybase
