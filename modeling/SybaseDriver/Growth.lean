/-
This file states what every request does to the log and to the exception sink: the
log is extended by calls at the depth of the request or deeper, an exception that is
pending stays pending, and the process is terminated by an error only after a
`ct_cancel` in `command::clear` that failed.
-/

import SybaseDriver.Stability

namespace Sybase

open Program Connection

variable {σ : Type} {cfg : Config σ} {world middle after : World σ}

/-! ### One level deeper -/

theorem wp_nested {α : Type} (program : Driver σ α) {onOk : α → World σ → Prop}
    {onThrow : Error → World σ → Prop} {onHalt : Halt → World σ → Prop} :
    wp (nested program) onOk onThrow onHalt world ↔
      wp program (fun value after => onOk value { after with depth := world.depth })
        (fun error after => onThrow error { after with depth := world.depth })
        (fun reason after => onHalt reason { after with depth := world.depth })
        { world with depth := world.depth + 1 } := by
  unfold wp nested
  rcases program { world with depth := world.depth + 1 } with ⟨value | error | reason, after⟩ <;>
    rfl

/-! ### The log -/

/-- A `ct_cancel` of `command::clear` that failed. -/
def Entry.IsFailedClear (entry : Entry) : Prop :=
  entry.site = .clear ∧ ∃ cmd reply, entry.event = .call (.cancel cmd) reply ∧ reply.code ≠ .succeed

/-- The log has grown by entries of a depth or deeper, none of which is a failed cancel of
`command::clear`. -/
def Logs (depth : Nat) (before log : List Entry) : Prop :=
  ∃ new, log = new ++ before ∧ ∀ entry ∈ new, depth ≤ entry.depth ∧ ¬entry.IsFailedClear

namespace Logs

variable {depth deeper : Nat} {first second third : List Entry}

theorem refl (depth : Nat) (log : List Entry) : Logs depth log log :=
  ⟨[], rfl, fun _ member => absurd member List.not_mem_nil⟩

theorem trans (earlier : Logs depth first second) (later : Logs depth second third) :
    Logs depth first third := by
  obtain ⟨new, rfl, news⟩ := earlier
  obtain ⟨new', rfl, news'⟩ := later
  refine ⟨new' ++ new, (List.append_assoc _ _ _).symm, fun entry member => ?_⟩
  exact (List.mem_append.mp member).elim (news' entry) (news entry)

theorem mono (logs : Logs deeper first second) (less : depth ≤ deeper) :
    Logs depth first second := by
  obtain ⟨new, same, news⟩ := logs
  exact ⟨new, same, fun entry member => ⟨Nat.le_trans less (news entry member).1,
    (news entry member).2⟩⟩

theorem of_entry {entry : Entry} (less : depth ≤ entry.depth) (kept : ¬entry.IsFailedClear)
    (log : List Entry) : Logs depth log (entry :: log) :=
  ⟨[entry], rfl, fun _ member => List.mem_singleton.mp member ▸ ⟨less, kept⟩⟩

end Logs

/-- The state after a program: the log has grown, at the depth of the state before or deeper. -/
structure Extends (world after : World σ) : Prop where
  depth : after.depth = world.depth
  log : Logs world.depth world.log after.log

/-- How the process may stop: by an error that leaves a destructor, because a cancel has failed, or
for another reason, without a call. -/
def StopsAtClear (reason : Halt) (last after : World σ) : Prop :=
  (reason ≠ .terminate ∧ after.log = last.log) ∨
    reason = .terminate ∧ ∃ entry : Entry, entry.IsFailedClear ∧ last.depth ≤ entry.depth ∧
      after.log = entry :: last.log

namespace Extends

theorem refl (world : World σ) : Extends world world := ⟨rfl, Logs.refl _ _⟩

theorem trans (first : Extends world middle) (second : Extends middle after) :
    Extends world after :=
  ⟨second.depth.trans first.depth, first.log.trans (first.depth ▸ second.log)⟩

instance : Std.Refl (Extends (σ := σ)) := ⟨refl⟩

instance : IsTrans (World σ) Extends := ⟨fun _ _ _ => trans⟩

theorem suffix (grown : Extends world after) : world.log <:+ after.log := by
  obtain ⟨new, log, -⟩ := grown.log
  exact ⟨new, log.symm⟩

/-- A state in which the log is the same. -/
theorem of_eq (depth : after.depth = world.depth) (log : after.log = world.log) :
    Extends world after := ⟨depth, log ▸ Logs.refl _ _⟩

/-- A program run one level deeper writes entries that are deeper. -/
theorem wp_nested {α : Type} {program : Driver σ α} (keeps : Keeps Extends StopsAtClear program)
    (world : World σ) : wp (nested program)
      (fun _ after => after.depth = world.depth ∧ Logs (world.depth + 1) world.log after.log)
      (fun _ after => after.depth = world.depth ∧ Logs (world.depth + 1) world.log after.log)
      (Halted Extends StopsAtClear world) world := by
  refine (Sybase.wp_nested program).mpr (wp_mono (keeps _) (fun _ _ kept => ⟨rfl, kept.log⟩)
    (fun _ _ kept => ⟨rfl, kept.log⟩) ?_)
  rintro reason after ⟨last, kept, stopped⟩
  refine ⟨{ last with depth := world.depth }, ⟨rfl, kept.log.mono (Nat.le_succ _)⟩, ?_⟩
  rcases stopped with stopped | ⟨rfl, entry, isFailed, deeper, log⟩
  · exact .inl stopped
  · have below : world.depth + 1 ≤ entry.depth := Nat.le_trans (Nat.le_of_eq kept.depth.symm) deeper
    exact .inr ⟨rfl, entry, isFailed, Nat.le_of_succ_le below, log⟩

/-- Every step of the driver extends the log. -/
theorem stable (cfg : Config σ) : Stable cfg Extends StopsAtClear where
  raise _ _ _ := of_eq rfl rfl
  discard _ := of_eq rfl rfl
  halts _ _ other := .inl ⟨other, rfl⟩
  call world site call _ succeeds := by
    refine ⟨rfl, Logs.of_entry (Nat.le_refl _) ?_ _⟩
    rintro ⟨isClear, cmd, reply, event, failed⟩
    cases event
    exact failed (succeeds isClear)
  record _ _ _ := ⟨rfl, Logs.of_entry (Nat.le_refl _) (fun isFailed => by cases isFailed.1) _⟩
  loudCall world site call loud := by
    refine ⟨rfl, Logs.of_entry (Nat.le_refl _) ?_ _⟩
    rintro ⟨isClear, cmd, reply, event, failed⟩
    cases event
    cases loud
  loudRecord _ _ _ := ⟨rfl, Logs.of_entry (Nat.le_refl _) (fun isFailed => by cases isFailed.1) _⟩
  commands _ _ _ _ _ _ _ := of_eq rfl rfl
  connection _ _ _ _ _ _ := of_eq rfl rfl
  statements _ _ _ := of_eq rfl rfl
  nested keeps world := by
    have ends := wp_nested keeps world
    exact wp_mono ends (fun _ _ kept => ⟨kept.1, kept.2.mono (Nat.le_succ _)⟩)
      (fun _ _ kept => ⟨kept.1, kept.2.mono (Nat.le_succ _)⟩) fun _ _ halted => halted
  terminated world cmd failed :=
    .inr ⟨rfl, _, ⟨rfl, cmd, _, rfl, failed⟩, Nat.le_refl _, rfl⟩

theorem keeps_closeAndReconnect (cfg : Config σ) (bound : Nat) (cmd : CommandId)
    (tryReconnect : Bool) :
    Keeps Extends StopsAtClear (closeAndReconnect cfg bound cmd tryReconnect) :=
  (stable cfg).keeps_closeAndReconnect
    (fun tryReconnect reconnects =>
      (stable cfg).keeps_reopenConnection (fun _ => of_eq rfl rfl) reconnects tryReconnect)
    bound cmd tryReconnect

end Extends

/-! ### The exception sink -/

/-- A pending exception stays pending. -/
def SinkKept (world after : World σ) : Prop := world.xsink ≠ [] → after.xsink ≠ []

/-- The process may stop in any way. -/
def StopsAnyhow (_ : Halt) (_ _ : World σ) : Prop := True

namespace SinkKept

instance : Std.Refl (SinkKept (σ := σ)) := ⟨fun _ raised => raised⟩

instance : IsTrans (World σ) SinkKept := ⟨fun _ _ _ first second raised => second (first raised)⟩

theorem stable (cfg : Config σ) : Stable cfg SinkKept StopsAnyhow where
  raise _ _ _ _ := List.cons_ne_nil _ _
  discard _ raised := raised
  halts _ _ _ := trivial
  call _ _ _ _ _ raised := raised
  record _ _ _ raised := raised
  loudCall _ _ _ _ raised := raised
  loudRecord _ _ _ raised := raised
  commands _ _ _ _ _ _ _ raised := raised
  connection _ _ _ _ _ _ raised := raised
  statements _ _ _ raised := raised
  nested keeps world := (Sybase.wp_nested _).mpr (keeps { world with depth := world.depth + 1 })
  terminated _ _ _ := trivial

/-- With no exception pending, there is none to keep. -/
theorem wp_quiet {α : Type} (program : Driver σ α) (quiet : world.xsink = []) :
    wp program (fun _ after => SinkKept world after) (fun _ after => SinkKept world after)
      (Halted SinkKept StopsAnyhow world) world := by
  have vacuous : ∀ after, SinkKept world after := fun _ raised => absurd quiet raised
  unfold wp
  rcases program world with ⟨value | error | reason, after⟩
  · exact vacuous after
  · exact vacuous after
  · exact ⟨world, vacuous world, trivial⟩

/-- With an exception pending, the program never returns 0. -/
def Refuses (program : Driver σ Int) : Prop :=
  ∀ world : World σ, world.xsink ≠ [] →
    wp program (fun value after => value = -1 ∧ after.xsink ≠ []) (fun _ after => after.xsink ≠ [])
      (fun _ _ => True) world

theorem refuses_initCall (call : CtCall) (err : String) (desc : Retcode → String)
    {next : Driver σ Int} (rest : Refuses next) : Refuses (initCall cfg call err desc next) := by
  intro world raised
  rw [initCall, wp_bind, wp_ctCall]
  split
  · exact ⟨rfl, List.cons_ne_nil _ _⟩
  · exact rest _ raised

/-- A step that keeps a pending exception, before one that refuses. -/
theorem refuses_bind {α : Type} {program : Driver σ α} {next : α → Driver σ Int}
    (keeps : Keeps SinkKept StopsAnyhow program) (rest : ∀ value, Refuses (next value)) :
    Refuses (program >>= next) := by
  intro world raised
  rw [wp_bind]
  exact wp_mono (keeps world) (fun value after kept => rest value after (kept raised))
    (fun _ _ kept => kept raised) fun _ _ _ => trivial

section Connecting

variable {reconnect : Reconnect σ}
  (reconnects : ∀ cmd tryReconnect, Keeps SinkKept StopsAnyhow (reconnect cmd tryReconnect))
include reconnects

/-- `setEncoding` clears the sink, but not when an exception is pending. -/
theorem keeps_setEncoding : Keeps SinkKept StopsAnyhow (setEncoding cfg reconnect) := by
  intro world
  by_cases quiet : world.xsink = []
  · exact wp_quiet _ quiet
  · have version : Keeps SinkKept StopsAnyhow (getServerVersion cfg reconnect) :=
      (stable cfg).keeps_getServerVersion
        ((stable cfg).keeps_execReadOutput reconnects _ _ _ _ _ _)
    rw [setEncoding, wp_bind]
    refine wp_mono_ok (version world) fun result after kept => ?_
    rw [wp_bind, wp_isException, List.isEmpty_eq_false_iff.mpr (kept quiet)]
    exact kept

theorem refuses_initConnect : Refuses (initConnect cfg reconnect) := by
  have session := (stable cfg).sessionStable
  refine refuses_bind (session.keeps_initCtCall _ rfl) fun reply => ?_
  refine refuses_bind (keeps_when _ fun _ => session.keeps_doException _ _) fun _ => ?_
  refine refuses_bind (session.configureStable.keeps_modifyConnection (fun _ => ⟨rfl, rfl⟩)
    fun _ _ => rfl) fun _ => ?_
  refine refuses_bind (session.configureStable.keeps_initOption _ _) fun _ => ?_
  refine refuses_bind (session.configureStable.keeps_initOption _ _) fun _ => ?_
  refine refuses_bind (session.configureStable.keeps_initOption _ _) fun _ => ?_
  refine refuses_bind (session.configureStable.keeps_initOption _ _) fun _ => ?_
  refine refuses_bind (keeps_setEncoding reconnects) fun _ => ?_
  refine refuses_bind session.keeps_purgeMessages fun _ world raised => ?_
  rw [wp_bind, wp_isException, List.isEmpty_eq_false_iff.mpr raised]
  exact ⟨rfl, raised⟩

theorem refuses_init : Refuses (init cfg reconnect) := by
  have session := (stable cfg).sessionStable
  have connect : Refuses (initConnect cfg reconnect) := refuses_initConnect reconnects
  have locale : Refuses (initLocale cfg reconnect) := by
    rw [initLocale]
    split
    · exact refuses_initCall _ _ _ <| refuses_initCall _ _ _ <| refuses_initCall _ _ _ <|
        refuses_initCall _ _ _ connect
    · exact connect
  have address : Refuses (initServerAddr cfg reconnect) := by
    rw [initServerAddr]
    split
    · split
      · exact refuses_initCall _ _ _ locale
      · exact locale
    · exact locale
  have password : Refuses (initPassword cfg reconnect) := by
    rw [initPassword]
    split
    · exact address
    · exact refuses_initCall _ _ _ address
  refine refuses_bind keeps_get fun world => ?_
  refine refuses_bind (session.keeps_assert _ _) fun _ => ?_
  refine refuses_bind (session.configureStable.keeps_modifyConnection (fun _ => ⟨rfl, rfl⟩) fun _ =>
    id) fun _ => ?_
  refine refuses_bind (session.keeps_initCtCall _ rfl) fun reply => ?_
  split
  · exact fun world _ => ⟨rfl, List.cons_ne_nil _ _⟩
  · refine refuses_bind (keeps_modify fun state => session.connection state _ _ rfl id) fun _ => ?_
    exact refuses_initCall _ _ _ <| refuses_initCall _ _ _ <| refuses_initCall _ _ _ password

/-- Opening the connection again clears the sink only where no exception is pending before. -/
theorem refuses_reopenConnection (tryReconnect : Bool) :
    Refuses (reopenConnection cfg reconnect tryReconnect) := by
  intro world raised
  rw [reopenConnection, wp_bind, wp_nested]
  refine wp_mono (refuses_init reconnects { world with depth := world.depth + 1 } raised) ?_
    (fun _ _ kept => kept) fun _ _ _ => trivial
  rintro _ after ⟨rfl, kept⟩
  exact ⟨rfl, kept⟩

theorem keeps_reopenConnection (tryReconnect : Bool) :
    Keeps SinkKept StopsAnyhow (reopenConnection cfg reconnect tryReconnect) := by
  intro world
  by_cases quiet : world.xsink = []
  · exact wp_quiet _ quiet
  · exact wp_mono (refuses_reopenConnection reconnects tryReconnect world quiet)
      (fun _ _ kept _ => kept.2) (fun _ _ kept _ => kept)
      fun _ _ _ => ⟨world, refl_of SinkKept world, trivial⟩

end Connecting

theorem keeps_closeAndReconnect (cfg : Config σ) (bound : Nat) (cmd : CommandId)
    (tryReconnect : Bool) :
    Keeps SinkKept StopsAnyhow (closeAndReconnect cfg bound cmd tryReconnect) :=
  (stable cfg).keeps_closeAndReconnect
    (fun tryReconnect reconnects => keeps_reopenConnection reconnects tryReconnect) bound cmd
    tryReconnect

end SinkKept

end Sybase
