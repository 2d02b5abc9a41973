/-
This file defines the options of a connection, `connection::setOption` and `connection::getOption`,
and proves which options are in force. Each connection has its own, from the opening of its
Datasource on. Of the number options the last one that was set counts, and it decides what a numeric
column is read as. Their arguments are ignored, as is that of `optimized-date-binds`, which can
therefore not be turned off again.
-/

import SybaseDriver.GetValue
import SybaseDriver.ProgramLogic

namespace Sybase

open Program

/-! ### The functions -/

/-- The options of a connection, with the values its constructor gives them. -/
structure ConnectionOptions where
  numericSupport : NumericSupport := .optimal
  serverTz : Option ZoneInfo := none
  optimizedDateBinds : Bool := false

/-- What Qore does for the options: `find_create_timezone`, which may raise an exception, and
`tz_get_region_name`. Whether assertions are evaluated. -/
structure OptionConfig where
  findCreateTimezone : Text → Except QoreException ZoneInfo
  regionName : ZoneInfo → Text
  debug : Bool

/-- The options of the connections of the Datasources that are open. The sink has the newest
exception first. -/
structure OptionWorld where
  connections : Nat → Option ConnectionOptions
  xsink : List QoreException

/-- A function of the driver that works on options. -/
abbrev OptionDriver (α : Type) := Program OptionWorld Error Halt α

/-- `strcasecmp(first, second) == 0`. -/
def sameName (first second : Text) : Bool := first.map Char.toLower = second.map Char.toLower

/-- `DBI_OPT_NUMBER_OPT`, `DBI_OPT_NUMBER_STRING` and `DBI_OPT_NUMBER_NUMERIC`. -/
def NumericSupport.option : NumericSupport → Text
  | optimal => text "optimal-numbers"
  | string => text "string-numbers"
  | numeric => text "numeric-numbers"

/-- `DBI_OPT_TIMEZONE`. -/
def timezoneOption : Text := text "timezone"

/-- `SYBASE_OPT_OPTIMIZED_DATE_BINDS`. -/
def dateBindsOption : Text := text "optimized-date-binds"

variable (cfg : OptionConfig)

namespace Options

/-- The private data of a Datasource. The driver does not check that there is any. -/
def getConnection (datasource : Nat) : OptionDriver ConnectionOptions := do
  match (← get).connections datasource with
  | some options => pure options
  | none => halt .undefined

/-- Assign the fields of a connection. -/
def put (datasource : Nat) (options : ConnectionOptions) : OptionDriver Unit :=
  modify fun world => { world with
    connections := Function.update world.connections datasource (some options) }

/-- `assert(false)`, which only a debug build evaluates. -/
def assertFalse : OptionDriver Unit := when (cfg.debug = true) (halt (.assertion .other))

/-- The branch of `connection::setOption` for the time zone. It looks at the whole sink, so that an
exception that was pending before keeps the zone from being set as well. -/
def setTimezone (datasource : Nat) (options : ConnectionOptions) (val : QoreValue) :
    OptionDriver Int :=
  match val with
  | .string str => do
    let tz := cfg.findCreateTimezone str
    match tz with
    | .error raised => modify fun world => { world with xsink := raised :: world.xsink }
    | .ok _ => pure ()
    match (← get).xsink, tz with
    | [], .ok tz => do
      put datasource { options with serverTz := some tz }
      pure 0
    | _, _ => pure (-1)
  | _ => do
    assertFalse cfg
    halt .undefined

/-- `connection::setOption`. -/
def setOption (datasource : Nat) (opt : Text) (val : QoreValue) : OptionDriver Int := do
  let options ← getConnection datasource
  if sameName opt NumericSupport.optimal.option then do
    put datasource { options with numericSupport := .optimal }
    pure 0
  else if sameName opt NumericSupport.string.option then do
    put datasource { options with numericSupport := .string }
    pure 0
  else if sameName opt NumericSupport.numeric.option then do
    put datasource { options with numericSupport := .numeric }
    pure 0
  else if sameName opt timezoneOption then setTimezone cfg datasource options val
  else if sameName opt dateBindsOption then do
    put datasource { options with optimizedDateBinds := true }
    pure 0
  else do
    assertFalse cfg
    pure 0

/-- `connection::getTZ`, with the time zone of the program that calls. -/
def getTZ (options : ConnectionOptions) (currentTZ : ZoneInfo) : ZoneInfo :=
  options.serverTz.getD currentTZ

/-- `connection::getOption`. -/
def getOption (datasource : Nat) (opt : Text) (currentTZ : ZoneInfo) : OptionDriver QoreValue := do
  let options ← getConnection datasource
  if sameName opt NumericSupport.optimal.option then
    pure (.boolean (options.numericSupport = .optimal))
  else if sameName opt NumericSupport.string.option then
    pure (.boolean (options.numericSupport = .string))
  else if sameName opt NumericSupport.numeric.option then
    pure (.boolean (options.numericSupport = .numeric))
  else if sameName opt timezoneOption then
    pure (.string (cfg.regionName (getTZ options currentTZ)))
  else if sameName opt dateBindsOption then pure (.boolean options.optimizedDateBinds)
  else do
    assertFalse cfg
    pure .nothing

/-- `sybase_open` makes a connection with the options of the constructor. -/
def sybaseOpen (datasource : Nat) : OptionDriver Unit := put datasource {}

/-- `sybase_close` deletes the connection and its options. -/
def sybaseClose (datasource : Nat) : OptionDriver Unit :=
  modify fun world =>
    { world with connections := Function.update world.connections datasource none }

end Options

/-- The configuration of a run on a connection with these options. -/
def ConnectionOptions.config {σ : Type} (options : ConnectionOptions) (currentTZ : ZoneInfo)
    (config : Config σ) : Config σ :=
  { config with
    numericSupport := options.numericSupport
    serverTz := Options.getTZ options currentTZ
    optimizedDateBinds := options.optimizedDateBinds }

/-- The operations on options. An opening that fails leaves no connection and is left out. -/
inductive OptionOp where
  | open (datasource : Nat)
  | close (datasource : Nat)
  | set (datasource : Nat) (opt : Text) (val : QoreValue)
  | get (datasource : Nat) (opt : Text) (currentTZ : ZoneInfo)

/-- The program of an operation. -/
def OptionOp.run : OptionOp → OptionDriver Unit
  | .open datasource => Options.sybaseOpen datasource
  | .close datasource => Options.sybaseClose datasource
  | set datasource opt val => do let _ ← Options.setOption cfg datasource opt val
  | get datasource opt currentTZ => do let _ ← Options.getOption cfg datasource opt currentTZ

/-! ### The options in force -/

/-- An option that was set, and whether an exception was pending then. -/
structure OptionSetting where
  opt : Text
  val : QoreValue
  pending : Bool

namespace OptionSetting

/-- The number option a setting names. -/
def number (setting : OptionSetting) : Option NumericSupport :=
  [NumericSupport.optimal, .string, .numeric].find? fun support =>
    sameName setting.opt support.option

/-- The time zone a setting names, where Qore knows it and no exception is in the way. -/
def zone (setting : OptionSetting) : Option ZoneInfo :=
  match setting.val, setting.pending with
  | .string str, false =>
    if sameName setting.opt timezoneOption then (cfg.findCreateTimezone str).toOption else none
  | _, _ => none

/-- The setting turns the binding of dates with microseconds on. -/
def bindsDates (setting : OptionSetting) : Bool := sameName setting.opt dateBindsOption

end OptionSetting

/-- The options in force after settings, of which the newest is first: the last number option and
the last time zone, and the binding of dates with microseconds if it was ever asked for. -/
def optionsInForce (settings : List OptionSetting) : ConnectionOptions where
  numericSupport := (settings.findSome? OptionSetting.number).getD .optimal
  serverTz := settings.findSome? (OptionSetting.zone cfg)
  optimizedDateBinds := settings.any OptionSetting.bindsDates

/-- The settings of the connection that a Datasource has, from its opening on, with the newest
first. Each operation stands with whether an exception was pending when it was called. -/
def settingsOf (datasource : Nat) : List (OptionOp × Bool) → List OptionSetting
  | [] => []
  | (.open opened, _) :: earlier =>
    if opened = datasource then [] else settingsOf datasource earlier
  | (.set changed opt val, pending) :: earlier =>
    if changed = datasource then ⟨opt, val, pending⟩ :: settingsOf datasource earlier
    else settingsOf datasource earlier
  | (.close _, _) :: earlier | (.get _ _ _, _) :: earlier => settingsOf datasource earlier

/-- What a numeric column with this text is read as. -/
def NumericSupport.Delivers (value : Text) : NumericSupport → QoreValue → Prop
  | string, delivered => delivered = .string value
  | numeric, delivered => ∃ digits, delivered = .number digits
  | optimal, delivered => (∃ number, delivered = .int number) ∨ ∃ digits, delivered = .number digits

section Names

variable {opt first second : Text}

theorem sameName_iff : sameName first second = true ↔
    first.map Char.toLower = second.map Char.toLower := decide_eq_true_iff

/-- Names that differ in more than their case are not both the name of one option. -/
theorem sameName_unique (second : Text) (same : sameName opt first = true)
    (other : sameName first second = false) :
    sameName opt second = false := by
  rw [Bool.eq_false_iff]
  intro also
  rw [Bool.eq_false_iff] at other
  exact other (sameName_iff.mpr ((sameName_iff.mp same).symm.trans (sameName_iff.mp also)))

end Names

namespace Options

variable {cfg : OptionConfig} {datasource : Nat} {options : ConnectionOptions} {world : OptionWorld}

/-- The options of a connection after a setting. -/
def renewed (cfg : OptionConfig) (options : ConnectionOptions) (setting : OptionSetting) :
    ConnectionOptions where
  numericSupport := setting.number.getD options.numericSupport
  serverTz := (setting.zone cfg).or options.serverTz
  optimizedDateBinds := setting.bindsDates || options.optimizedDateBinds

theorem optionsInForce_cons (setting : OptionSetting) (settings : List OptionSetting) :
    optionsInForce cfg (setting :: settings) = renewed cfg (optionsInForce cfg settings)
      setting := by
  unfold optionsInForce renewed
  simp only [List.findSome?_cons, List.any_cons, ConnectionOptions.mk.injEq, and_true]
  constructor
  · cases setting.number with
    | none => rfl
    | some support => rfl
  · cases setting.zone cfg with
    | none => rfl
    | some zone => rfl

section Renewed

variable {setting : OptionSetting}

theorem zone_of_other (cfg : OptionConfig) (other : sameName setting.opt timezoneOption = false) :
    setting.zone cfg = none := by
  unfold OptionSetting.zone
  split
  · rw [other, if_neg Bool.false_ne_true]
  · rfl

theorem number_of_other
    (other : ∀ support : NumericSupport, sameName setting.opt support.option = false) :
    setting.number = none :=
  List.find?_eq_none.mpr fun support _ => by simp [other support]

/-- A number option leaves the other options as they are, whatever its argument. -/
theorem renewed_number {support : NumericSupport}
    (named : sameName setting.opt support.option = true) :
    renewed cfg options setting = { options with numericSupport := support } := by
  have number : setting.number = some support := by
    cases support with
    | optimal => simp [OptionSetting.number, named]
    | string =>
      simp [OptionSetting.number, named, sameName_unique NumericSupport.optimal.option named
        (by decide)]
    | numeric => simp [OptionSetting.number, named,
        sameName_unique NumericSupport.optimal.option named (by decide),
        sameName_unique NumericSupport.string.option named (by decide)]
  have noZone := zone_of_other cfg
    (sameName_unique timezoneOption named (by cases support <;> decide))
  have noDates : setting.bindsDates = false :=
    sameName_unique dateBindsOption named (by cases support <;> decide)
  simp [renewed, number, noZone, noDates]

/-- The time zone option changes the time zone at most. -/
theorem renewed_zone (named : sameName setting.opt timezoneOption = true) :
    renewed cfg options setting =
      { options with serverTz := (setting.zone cfg).or options.serverTz } := by
  have noNumber := number_of_other fun support =>
    sameName_unique support.option named (by cases support <;> decide)
  have noDates : setting.bindsDates = false :=
    sameName_unique dateBindsOption named (by decide)
  simp [renewed, noNumber, noDates]

/-- Setting `optimized-date-binds` turns it on, whatever its argument. -/
theorem renewed_dates (named : sameName setting.opt dateBindsOption = true) :
    renewed cfg options setting = { options with optimizedDateBinds := true } := by
  have noNumber := number_of_other fun support =>
    sameName_unique support.option named (by cases support <;> decide)
  have noZone := zone_of_other cfg
    (sameName_unique timezoneOption named (by decide))
  have binds : setting.bindsDates = true := named
  simp [renewed, noNumber, noZone, binds]

/-- Any other name changes nothing. -/
theorem renewed_other
    (noNumber : ∀ support : NumericSupport, sameName setting.opt support.option = false)
    (noZone : sameName setting.opt timezoneOption = false)
    (noDates : sameName setting.opt dateBindsOption = false) :
    renewed cfg options setting = options := by
  have binds : setting.bindsDates = false := noDates
  simp [renewed, number_of_other noNumber, zone_of_other cfg noZone, binds]

end Renewed

/-- Reading the connection of an open Datasource. -/
theorem wp_getConnection (connected : world.connections datasource = some options)
    {onOptions : ConnectionOptions → OptionWorld → Prop} {onThrow : Error → OptionWorld → Prop}
    {onHalt : Halt → OptionWorld → Prop} (post : onOptions options world) :
    wp (getConnection datasource) onOptions onThrow onHalt world := by
  rw [getConnection, wp_bind, wp_get, connected]
  exact post

/-- Nothing is thrown. -/
abbrev noThrow : Error → OptionWorld → Prop := fun _ _ => False

/-- Where the process stops, nothing is claimed. -/
abbrev anyHalt : Halt → OptionWorld → Prop := fun _ _ => True

/-- The connection of a Datasource has these options now, and the others are as they were. -/
def Assigned (datasource : Nat) (options : ConnectionOptions) (world after : OptionWorld) : Prop :=
  after.connections = Function.update world.connections datasource (some options)

theorem assigned_self (connected : world.connections datasource = some options) :
    Assigned datasource options world world := by
  rw [Assigned, ← connected, Function.update_eq_self]

theorem wp_assertFalse {onUnit : Unit → OptionWorld → Prop} (post : onUnit () world) :
    wp (assertFalse cfg) onUnit noThrow anyHalt world := by
  rw [assertFalse, wp_when]
  exact ⟨fun _ => trivial, fun _ => post⟩

/-- The time zone is assigned where Qore knows it and no exception is pending. -/
theorem wp_setTimezone (connected : world.connections datasource = some options) {opt : Text}
    (val : QoreValue) (named : sameName opt timezoneOption = true) :
    wp (setTimezone cfg datasource options val)
      (fun _ after => Assigned datasource { options with
        serverTz := (OptionSetting.zone cfg ⟨opt, val, !world.xsink.isEmpty⟩).or options.serverTz }
        world after)
      noThrow anyHalt world := by
  have same := assigned_self connected
  unfold setTimezone
  split
  · rename_i str
    rcases found : cfg.findCreateTimezone str with raised | tz
    · have refused : OptionSetting.zone cfg ⟨opt, .string str, !world.xsink.isEmpty⟩ = none := by
        cases sink : world.xsink <;> simp [OptionSetting.zone, found, Except.toOption]
      rw [refused]
      exact same
    · cases sink : world.xsink with
      | nil => simp [OptionSetting.zone, named, found, sink, Except.toOption, put, Assigned]
      | cons raised earlier => simpa [OptionSetting.zone, named, found, sink] using same
  · exact (wp_bind _ _).mpr (wp_assertFalse trivial)

/-- `setOption` assigns what the setting asks for. -/
theorem wp_setOption (connected : world.connections datasource = some options) (opt : Text)
    (val : QoreValue) :
    wp (setOption cfg datasource opt val)
      (fun _ after => Assigned datasource
        (renewed cfg options ⟨opt, val, !world.xsink.isEmpty⟩) world after)
      noThrow anyHalt world := by
  rw [setOption, wp_bind]
  refine wp_getConnection connected ?_
  split
  · rename_i named
    rw [renewed_number named]
    exact rfl
  split
  · rename_i named
    rw [renewed_number named]
    exact rfl
  split
  · rename_i named
    rw [renewed_number named]
    exact rfl
  split
  · rename_i named
    rw [renewed_zone named]
    exact wp_setTimezone connected val named
  split
  · rename_i named
    rw [renewed_dates named]
    exact rfl
  · rename_i noOptimal noString noNumeric noZone noDates
    rw [renewed_other (fun support => ?_) (Bool.eq_false_iff.mpr noZone)
      (Bool.eq_false_iff.mpr noDates)]
    · exact (wp_bind _ _).mpr (wp_assertFalse (assigned_self connected))
    · cases support with
      | optimal => exact Bool.eq_false_iff.mpr noOptimal
      | string => exact Bool.eq_false_iff.mpr noString
      | numeric => exact Bool.eq_false_iff.mpr noNumeric

/-- The functions find the connection of an open Datasource. -/
theorem getConnection_connected (connected : world.connections datasource = some options) :
    getConnection datasource world = (.ok options, world) := by
  have reads : getConnection datasource world = (match world.connections datasource with
    | some options => pure options
    | none => halt .undefined : OptionDriver ConnectionOptions) world := rfl
  rw [reads, connected]
  rfl

section Reading

variable (connected : world.connections datasource = some options) {opt : Text}
    (currentTZ : ZoneInfo)

include connected

/-- `getOption` of a number option says whether it is in force. -/
theorem getOption_number {support : NumericSupport} (named : sameName opt support.option = true) :
    getOption cfg datasource opt currentTZ world =
      (.ok (.boolean (options.numericSupport = support)), world) := by
  rw [getOption, bind_of_returned (getConnection_connected connected)]
  cases support with
  | optimal =>
    rw [if_pos named]
    rfl
  | string =>
    have noOptimal := sameName_unique NumericSupport.optimal.option named (by decide)
    rw [if_neg (Bool.eq_false_iff.mp noOptimal), if_pos named]
    rfl
  | numeric =>
    have noOptimal := sameName_unique NumericSupport.optimal.option named (by decide)
    have noString := sameName_unique NumericSupport.string.option named (by decide)
    rw [if_neg (Bool.eq_false_iff.mp noOptimal), if_neg (Bool.eq_false_iff.mp noString),
      if_pos named]
    rfl

/-- `getOption` of `timezone` names the time zone that was set, or else that of the program. -/
theorem getOption_zone (named : sameName opt timezoneOption = true) :
    getOption cfg datasource opt currentTZ world =
      (.ok (.string (cfg.regionName (getTZ options currentTZ))), world) := by
  have noNumber : ∀ support : NumericSupport, ¬sameName opt support.option = true := fun support =>
    Bool.eq_false_iff.mp (sameName_unique support.option named (by cases support <;> decide))
  rw [getOption, bind_of_returned (getConnection_connected connected), if_neg (noNumber _),
    if_neg (noNumber _), if_neg (noNumber _), if_pos named]
  rfl

/-- `getOption` of `optimized-date-binds` says whether it is in force. -/
theorem getOption_dates (named : sameName opt dateBindsOption = true) :
    getOption cfg datasource opt currentTZ world =
      (.ok (.boolean options.optimizedDateBinds), world) := by
  have noNumber : ∀ support : NumericSupport, ¬sameName opt support.option = true := fun support =>
    Bool.eq_false_iff.mp (sameName_unique support.option named (by cases support <;> decide))
  have noZone := sameName_unique timezoneOption named (by decide)
  rw [getOption, bind_of_returned (getConnection_connected connected), if_neg (noNumber _),
    if_neg (noNumber _), if_neg (noNumber _), if_neg (Bool.eq_false_iff.mp noZone), if_pos named]
  rfl

end Reading

/-- The state of every connection is that of the settings since it was opened. -/
def InForce (cfg : OptionConfig) (history : List (OptionOp × Bool)) (world : OptionWorld) : Prop :=
  ∀ datasource options, world.connections datasource = some options →
    options = optionsInForce cfg (settingsOf datasource history)

/-- An open connection after an assignment is the one assigned, or one that was open before. -/
theorem update_eq_some {connections : Nat → Option ConnectionOptions} {changed : Nat}
    {assigned : Option ConnectionOptions}
    (connected : Function.update connections changed assigned datasource = some options) :
    (changed = datasource ∧ assigned = some options) ∨
      (changed ≠ datasource ∧ connections datasource = some options) := by
  by_cases same : changed = datasource
  · subst same
    rw [Function.update_self] at connected
    exact .inl ⟨rfl, connected⟩
  · rw [Function.update_of_ne (Ne.symm same)] at connected
    exact .inr ⟨same, connected⟩

/-- Operations keep every connection in the state of its settings. -/
theorem InForce.wp_op {history : List (OptionOp × Bool)} (inForce : InForce cfg history world)
    (op : OptionOp) : wp (op.run cfg)
      (fun _ after => InForce cfg ((op, !world.xsink.isEmpty) :: history) after) noThrow anyHalt
        world := by
  cases op with
  | «open» opened =>
    intro datasource options connected
    rw [settingsOf]
    rcases update_eq_some connected with ⟨same, assigned⟩ | ⟨other, before⟩
    · rw [if_pos same]
      exact (Option.some.inj assigned).symm
    · rw [if_neg other]
      exact inForce datasource options before
  | close closed =>
    intro datasource options connected
    rcases update_eq_some connected with ⟨-, assigned⟩ | ⟨-, before⟩
    · cases assigned
    · exact inForce datasource options before
  | set changed opt val =>
    rw [OptionOp.run, wp_bind]
    cases connected : world.connections changed with
    | none =>
      rw [setOption, wp_bind, getConnection, wp_bind, wp_get, connected]
      trivial
    | some before =>
      refine wp_mono_ok (wp_setOption connected opt val) fun _ after assigned => ?_
      intro datasource options holds
      rw [assigned] at holds
      rw [settingsOf]
      rcases update_eq_some holds with ⟨rfl, renewed⟩ | ⟨other, before⟩
      · rw [if_pos rfl, optionsInForce_cons, ← inForce changed before connected]
        exact (Option.some.inj renewed).symm
      · rw [if_neg other]
        exact inForce datasource options before
  | get asked opt currentTZ =>
    rw [OptionOp.run, wp_bind]
    cases connected : world.connections asked with
    | none =>
      rw [getOption, wp_bind, getConnection, wp_bind, wp_get, connected]
      trivial
    | some before =>
      rw [getOption, wp_bind]
      refine wp_getConnection connected ?_
      repeat' split
      all_goals first | exact inForce | exact (wp_bind _ _).mpr (wp_assertFalse inForce)

/-- The states that operations lead to, with the operations, the newest first, and the exceptions
that are pending when the next one is called. -/
inductive LeadsTo (cfg : OptionConfig) : List (OptionOp × Bool) → OptionWorld → Prop where
  | start (xsink : List QoreException) : LeadsTo cfg [] ⟨fun _ => none, xsink⟩
  | op {history : List (OptionOp × Bool)} {world after : OptionWorld} {op : OptionOp}
      (leads : LeadsTo cfg history world) (returns : op.run cfg world = (.ok (), after))
      (xsink : List QoreException) :
      LeadsTo cfg ((op, !world.xsink.isEmpty) :: history) { after with xsink := xsink }

theorem LeadsTo.inForce {history : List (OptionOp × Bool)} (leads : LeadsTo cfg history world) :
    InForce cfg history world := by
  induction leads with
  | start xsink =>
    intro datasource options connected
    cases connected
  | op _ returns xsink inForce =>
    have after := (wp_iff_forall.mp (inForce.wp_op _)).1 _ _ returns
    exact after

end Options

/-- `getNumber` makes an integer or a number, and an integer only where it may. -/
theorem getNumber_delivers {support : NumericSupport} (converts : support ≠ .string)
    (value : Text) :
    support.Delivers value (getNumber support value) := by
  unfold getNumber
  extract_lets hasDecimal zeros whole digits sign len
  cases support with
  | string => exact absurd rfl converts
  | numeric => exact ⟨digits, if_neg (by simp)⟩
  | optimal =>
    split
    · split
      · exact .inl ⟨strtoll digits, rfl⟩
      · exact .inr ⟨digits, rfl⟩
    · exact .inr ⟨digits, rfl⟩

/-- A numeric column is read as the option in force says. -/
theorem stringValue_delivers {σ : Type} {config : Config σ} {datafmt : Datafmt}
    (numeric : isNumber datafmt = true) (value : Text) :
    config.numericSupport.Delivers value (stringValue config datafmt value) := by
  unfold stringValue
  by_cases string : config.numericSupport = .string
  · simp [string, NumericSupport.Delivers]
  · simpa [numeric, string] using getNumber_delivers string value

/-- Over any sequence of openings, closings, settings and questions, with any arguments and any
exceptions pending, each connection has the options of its own settings since it was opened.
`getOption` shows them, and the number option in force decides what numeric columns are read as. -/
theorem options_in_force {cfg : OptionConfig} {history : List (OptionOp × Bool)}
    {world : OptionWorld}
    (leads : Options.LeadsTo cfg history world) {datasource : Nat} {options : ConnectionOptions}
    (connected : world.connections datasource = some options) :
    options = optionsInForce cfg (settingsOf datasource history) ∧
    (∀ opt support currentTZ, sameName opt (NumericSupport.option support) = true →
      Options.getOption cfg datasource opt currentTZ world =
        (.ok (.boolean (options.numericSupport = support)), world)) ∧
    (∀ opt currentTZ, sameName opt timezoneOption = true →
      Options.getOption cfg datasource opt currentTZ world =
        (.ok (.string (cfg.regionName (options.serverTz.getD currentTZ))), world)) ∧
    (∀ opt currentTZ, sameName opt dateBindsOption = true →
      Options.getOption cfg datasource opt currentTZ world =
        (.ok (.boolean options.optimizedDateBinds), world)) ∧
    ∀ {σ : Type} (config : Config σ) (currentTZ : ZoneInfo) (datafmt : Datafmt) (value : Text),
      isNumber datafmt = true → options.numericSupport.Delivers value
        (stringValue (options.config currentTZ config) datafmt value) := by
  refine ⟨leads.inForce datasource options connected, ?_, ?_, ?_, ?_⟩
  · intro opt support currentTZ named
    exact Options.getOption_number connected currentTZ named
  · intro opt currentTZ named
    exact Options.getOption_zone connected currentTZ named
  · intro opt currentTZ named
    exact Options.getOption_dates connected currentTZ named
  · intro σ config currentTZ datafmt value numeric
    show (options.config currentTZ config).numericSupport.Delivers value _
    exact stringValue_delivers numeric value

/-- A Qore that knows one time zone. -/
def sampleZones : OptionConfig where
  findCreateTimezone str :=
    if str = text "Europe/Prague" then .ok str else .error ⟨"TIMEZONE-ERROR", "no such time zone"⟩
  regionName zone := zone
  debug := true

/-- A connection on which `numeric-numbers` and `optimized-date-binds` are set to `False` and a time
zone is set that Qore does not know, after `string-numbers` had been set on an earlier one. -/
def sampleHistory : List (OptionOp × Bool) :=
  [(.set 0 (text "timezone") (.string (text "Nowhere")), false),
    (.set 0 (text "optimized-date-binds") (.boolean false), false),
    (.set 0 (text "Numeric-Numbers") (.boolean false), false),
    (.open 0, false), (.close 0, false),
    (.set 0 (text "string-numbers") (.boolean true), false), (.open 0, false)]

/-- The options that were set to `False` are on, and nothing is left of the connection before. -/
theorem options_in_force_sample :
    optionsInForce sampleZones (settingsOf 0 sampleHistory) = ⟨.numeric, none, true⟩ := by
  have leads : Options.LeadsTo sampleZones sampleHistory _ :=
    .op (.op (.op (.op (.op (.op (.op (.start []) rfl []) rfl []) rfl []) rfl []) rfl []) rfl [])
      rfl []
  exact (options_in_force leads rfl).1.symm

end Sybase
