/-
This file proves when `closeAndReconnect` marks the Datasource as closed. A reconnect
that ends without an initialised connection marks it where `connection::init` returns
an error, and does not where `ss::Error` leaves it. The queries of `init` may lose the
connection again, so the reconnects that begin and end are counted in the log: as long
as each one ends by a return, the Datasource has a connection or is marked.
-/

import SybaseDriver.CommandLogic
import SybaseDriver.Growth

namespace Sybase

open Program Connection

variable {σ : Type} {cfg : Config σ} {world middle after : World σ}

/-! ### The reconnects in the log -/

/-- The event is the beginning of a reconnect. -/
def Event.isLost : Event → Bool
  | lost _ => true
  | _ => false

/-- The event is the end of a reconnect that returned. -/
def Event.isReconnected : Event → Bool
  | reconnected _ => true
  | _ => false

/-- The number of reconnects that have begun. -/
def World.begun (world : World σ) : Nat := world.log.countP (·.event.isLost)

/-- The number of reconnects that have returned. -/
def World.returned (world : World σ) : Nat := world.log.countP (·.event.isReconnected)

@[simp] theorem World.begun_record (world : World σ) (site : Site) (event : Event) :
    (world.record site event).begun = world.begun + if event.isLost then 1 else 0 := by
  unfold World.begun World.record
  rw [List.countP_cons]

@[simp] theorem World.returned_record (world : World σ) (site : Site) (event : Event) :
    (world.record site event).returned = world.returned + if event.isReconnected then 1 else 0 := by
  unfold World.returned World.record
  rw [List.countP_cons]

@[simp] theorem World.begun_reconnected (world : World σ) (result : Int) :
    (world.record .other (.reconnected result)).begun = world.begun := World.begun_record _ _ _

@[simp] theorem World.returned_reconnected (world : World σ) (result : Int) :
    (world.record .other (.reconnected result)).returned = world.returned + 1 :=
  World.returned_record _ _ _

/-- Each reconnect that began has returned: none was left by an error. -/
def Answered (world after : World σ) : Prop :=
  after.returned + world.begun = world.returned + after.begun

/-- The Datasource has a connection, or is marked as closed. -/
def World.Safe (world : World σ) : Prop :=
  world.connection.connected = true ∨ world.connectionAborted = true

/-- Reconnects have begun, and no more have returned. -/
structure Begins (world after : World σ) : Prop where
  begun : world.begun ≤ after.begun
  returned : world.returned ≤ after.returned
  pending : after.returned + world.begun ≤ world.returned + after.begun

/-- What a step does to the reconnects in the log, and to the connection: as long as each reconnect
returns, the Datasource stays safe, and only a reconnect marks it. -/
structure Answers (world after : World σ) : Prop extends Begins world after where
  safe : Answered world after → world.Safe → after.Safe
  unmarked : after.begun = world.begun → after.connectionAborted = world.connectionAborted

namespace Answers

/-- A state in which no other reconnect has begun or returned. -/
theorem of_eq (begun : after.begun = world.begun) (returned : after.returned = world.returned)
    (connected : world.connection.connected = true → after.connection.connected = true)
    (aborted : after.connectionAborted = world.connectionAborted) : Answers world after where
  begun := Nat.le_of_eq begun.symm
  returned := Nat.le_of_eq returned.symm
  pending := by rw [begun, returned]
  safe _ safe := safe.imp connected fun marked => aborted.trans marked
  unmarked _ := aborted

/-- A state with the same log. -/
theorem of_log (log : after.log = world.log)
    (connected : world.connection.connected = true → after.connection.connected = true)
    (aborted : after.connectionAborted = world.connectionAborted) : Answers world after :=
  of_eq (by unfold World.begun; rw [log]) (by unfold World.returned; rw [log]) connected aborted

theorem of_call (lib : CtLib σ) (site : Site) (call : CtCall) :
    Answers world (world.answered lib site call) :=
  of_eq (World.begun_record _ _ _) (World.returned_record _ _ _) id rfl

theorem of_record (site : Site) {event : Event} (quiet : event.isQuiet = true) :
    Answers world (world.record site event) := by
  cases event with
  | value datafmt cell =>
    exact of_eq (World.begun_record _ _ _) (World.returned_record _ _ _) id rfl
  | invalidate statement =>
    exact of_eq (World.begun_record _ _ _) (World.returned_record _ _ _) id rfl
  | call call reply => cases quiet
  | lost tryReconnect => cases quiet
  | reconnected result => cases quiet

theorem refl (world : World σ) : Answers world world := of_log rfl id rfl

theorem answered_left (first : Answers world middle) (second : Answers middle after)
    (answered : Answered world after) : Answered world middle := by
  have pending := first.pending
  have pending' := second.pending
  unfold Answered at answered ⊢
  omega

theorem answered_right (first : Answers world middle) (second : Answers middle after)
    (answered : Answered world after) : Answered middle after := by
  have pending := first.pending
  have pending' := second.pending
  unfold Answered at answered ⊢
  omega

theorem trans (first : Answers world middle) (second : Answers middle after) :
    Answers world after where
  begun := Nat.le_trans first.begun second.begun
  returned := Nat.le_trans first.returned second.returned
  pending := by
    have pending := first.pending
    have pending' := second.pending
    omega
  safe answered safe := second.safe (first.answered_right second answered)
    (first.safe (first.answered_left second answered) safe)
  unmarked same := by
    have less : middle.begun ≤ after.begun := second.begun
    have less' : world.begun ≤ middle.begun := first.begun
    exact (second.unmarked (by omega)).trans (first.unmarked (by omega))

instance : Std.Refl (Answers (σ := σ)) := ⟨refl⟩

instance : IsTrans (World σ) Answers := ⟨fun _ _ _ => trans⟩

/-! ### Executing a query -/

theorem baseStable : BaseStable (Answers (σ := σ)) StopsAnyhow where
  raise _ _ _ := of_log rfl id rfl
  discard _ := of_log rfl id rfl
  halts _ _ _ := trivial

theorem invalidateStable (cfg : Config σ) : InvalidateStable cfg Answers StopsAnyhow where
  toBaseStable := baseStable
  close _ _ _ _ _ := of_call _ _ _
  disconnect _ _ := of_log rfl id rfl
  noted _ _ := of_record _ rfl
  invalid _ _ := of_log rfl id rfl
  unregister _ := of_log rfl id rfl

theorem sendStable (cfg : Config σ) : SendStable cfg Answers StopsAnyhow where
  toBaseStable := baseStable
  reading _ :=
    { toBaseStable := baseStable
      call := fun _ _ _ _ _ _ => of_call _ _ _
      value := fun _ _ _ => of_record _ rfl
      modify := fun _ _ _ => of_log rfl id rfl }
  binding _ :=
    { toBaseStable := baseStable
      bind := fun _ _ _ => of_call _ _ _
      query := fun _ _ => of_log rfl id rfl }
  destroying _ :=
    { toBaseStable := baseStable
      clear := fun _ _ _ => of_call _ _ _
      terminated := fun _ _ _ => trivial
      drop := fun _ _ => of_call _ _ _
      handle := fun _ => of_log rfl id rfl
      remove := fun _ => of_log rfl id rfl }
  creates world := wp_create.mpr
    ((of_call cfg.lib .other (.cmdAlloc world.nextHandle)).trans (of_log rfl id rfl))
  asks _ _ _ := of_call _ _ _
  invalidates := (invalidateStable cfg).keeps_invalidateStatement

theorem sessionStable (cfg : Config σ) : SessionStable cfg Answers StopsAnyhow where
  toBaseStable := baseStable
  call _ _ _ := of_call _ _ _
  connection _ _ _ _ connects := of_log rfl connects rfl

end Answers

/-! ### Connecting -/

/-- Connecting keeps the reconnects in order, and where 0 is returned the Datasource is safe. -/
def Connects (program : Driver σ Int) : Prop :=
  ∀ world : World σ, wp program
    (fun result after => Answers world after ∧ (result = 0 → Answered world after → after.Safe))
    (fun _ after => Answers world after) (Halted Answers StopsAnyhow world) world

/-- A failure is no connection. -/
theorem connects_failed (err desc : String) :
    Connects (do raiseException err desc; pure (-1) : Driver σ Int) := fun _ =>
  ⟨Answers.of_log rfl id rfl, fun zero => absurd zero (by decide)⟩

/-- A step before one that connects. -/
theorem connects_bind {α : Type} {program : Driver σ α} {next : α → Driver σ Int}
    (keeps : Keeps Answers StopsAnyhow program) (rest : ∀ value, Connects (next value)) :
    Connects (program >>= next) := by
  intro world
  rw [wp_bind]
  refine wp_mono_ok (keeps world) fun value middle first => ?_
  refine wp_mono (rest value middle) (fun result after post => ?_)
    (fun _ _ second => first.trans second) ?_
  · obtain ⟨second, safe⟩ := post
    exact ⟨first.trans second, fun zero answered =>
      safe zero (first.answered_right second answered)⟩
  · rintro reason after ⟨last, second, stopped⟩
    exact ⟨last, first.trans second, stopped⟩

theorem connects_initCall {call : CtCall} (isInit : call.isInit = true) (err : String)
    (desc : Retcode → String) {next : Driver σ Int} (rest : Connects next) :
    Connects (initCall cfg call err desc next) := by
  refine connects_bind ((Answers.sessionStable cfg).keeps_initCtCall call isInit) fun reply => ?_
  split
  · exact connects_failed _ _
  · exact rest

section Connecting

variable {reconnect : Reconnect σ}
  (reconnects : ∀ cmd tryReconnect, Keeps Answers StopsAnyhow (reconnect cmd tryReconnect))
include reconnects

theorem keeps_setEncoding_answers : Keeps Answers StopsAnyhow (setEncoding cfg reconnect) :=
  (Answers.sessionStable cfg).keeps_setEncoding (fun _ => Answers.of_log rfl id rfl)
    fun query args singleRow =>
      (Answers.sendStable cfg).keeps_execReadOutput reconnects query args true true false singleRow

/-- Once `ct_connect` has succeeded there is a connection, and what follows keeps it, but for a
reconnect that is left by an error. -/
theorem connects_initConnected : Connects (initConnected cfg reconnect) := by
  have session := Answers.sessionStable cfg
  intro world
  have connected : Answers world { world with
      connection := { world.connection with connected := true } } :=
    Answers.of_log rfl (fun _ => rfl) rfl
  rw [initConnected, wp_bind, wp_modifyConnection]
  have rest : Keeps Answers StopsAnyhow (do
      initOption cfg .chainxacts "ct_options(CS_OPT_CHAINXACTS) failed"
      initOption cfg .textsize "ct_options(CS_OPT_TEXTSIZE) failed"
      initOption cfg .dtConvfmt "cs_dt_info(CS_DT_CONVFMT) failed"
      initOption cfg .charsetcnv "ct_options(CS_CHARSETCNV) failed"
      setEncoding cfg reconnect
      let _ ← purgeMessages
      if ← isException then pure (-1 : Int) else pure 0) := by
    refine keeps_bind (session.configureStable.keeps_initOption _ _) fun _ => ?_
    refine keeps_bind (session.configureStable.keeps_initOption _ _) fun _ => ?_
    refine keeps_bind (session.configureStable.keeps_initOption _ _) fun _ => ?_
    refine keeps_bind (session.configureStable.keeps_initOption _ _) fun _ => ?_
    refine keeps_bind (keeps_setEncoding_answers reconnects) fun _ => ?_
    refine keeps_bind session.keeps_purgeMessages fun _ =>
      keeps_bind keeps_isException fun raised => ?_
    split
    · exact keeps_pure _
    · exact keeps_pure _
  refine wp_mono (rest _) (fun _ after kept => ⟨connected.trans kept, fun _ answered => ?_⟩)
    (fun _ _ kept => connected.trans kept) ?_
  · exact kept.safe (connected.answered_right kept answered) (.inl rfl)
  · rintro reason after ⟨last, kept, stopped⟩
    exact ⟨last, connected.trans kept, stopped⟩

theorem connects_initConnect : Connects (initConnect cfg reconnect) := by
  have session := Answers.sessionStable cfg
  refine connects_bind (session.keeps_initCtCall _ rfl) fun reply => ?_
  refine connects_bind (keeps_when _ fun _ => session.keeps_doException _ _) fun _ => ?_
  exact connects_initConnected reconnects

theorem connects_initLocale : Connects (initLocale cfg reconnect) := by
  have connect : Connects (initConnect cfg reconnect) := connects_initConnect reconnects
  rw [initLocale]
  split
  · exact connects_initCall rfl _ _ <| connects_initCall rfl _ _ <|
      connects_initCall rfl _ _ <| connects_initCall rfl _ _ connect
  · exact connect

theorem connects_initPassword : Connects (initPassword cfg reconnect) := by
  have locale : Connects (initLocale cfg reconnect) := connects_initLocale reconnects
  have address : Connects (initServerAddr cfg reconnect) := by
    rw [initServerAddr]
    split
    · split
      · exact connects_initCall rfl _ _ locale
      · exact locale
    · exact locale
  rw [initPassword]
  split
  · exact address
  · exact connects_initCall rfl _ _ address

theorem connects_init : Connects (init cfg reconnect) := by
  have session := Answers.sessionStable cfg
  refine connects_bind keeps_get fun world => ?_
  refine connects_bind (session.keeps_assert _ _) fun _ => ?_
  refine connects_bind (session.configureStable.keeps_modifyConnection (fun _ => ⟨rfl, rfl⟩)
    fun _ => id) fun _ => ?_
  refine connects_bind (session.keeps_initCtCall _ rfl) fun reply => ?_
  split
  · exact connects_failed _ _
  · refine connects_bind (keeps_modify fun state => session.connection state _ _ rfl id) fun _ => ?_
    exact connects_initCall rfl _ _ <| connects_initCall rfl _ _ <|
      connects_initCall rfl _ _ (connects_initPassword reconnects)

end Connecting

/-- The depth of the log does not matter. -/
theorem connects_nested {program : Driver σ Int} (connects : Connects program) :
    Connects (nested program) := by
  intro world
  have level : ∀ {last : World σ}, Answers { world with depth := world.depth + 1 } last →
      Answers world { last with depth := world.depth } := fun kept =>
    ⟨⟨kept.begun, kept.returned, kept.pending⟩, kept.safe, kept.unmarked⟩
  refine (wp_nested program).mpr (wp_mono (connects { world with depth := world.depth + 1 })
    (fun _ _ post => ⟨level post.1, post.2⟩) (fun _ _ kept => level kept) fun _ _ _ => ?_)
  exact ⟨world, Answers.refl world, trivial⟩

/-! ### Closing -/

/-- A step in which no reconnect begins or returns, and which does not mark the Datasource. -/
structure Calm (world after : World σ) : Prop where
  begun : after.begun = world.begun
  returned : after.returned = world.returned
  aborted : after.connectionAborted = world.connectionAborted

namespace Calm

theorem refl (world : World σ) : Calm world world := ⟨rfl, rfl, rfl⟩

theorem trans (first : Calm world middle) (second : Calm middle after) : Calm world after where
  begun := second.begun.trans first.begun
  returned := second.returned.trans first.returned
  aborted := second.aborted.trans first.aborted

instance : Std.Refl (Calm (σ := σ)) := ⟨refl⟩

instance : IsTrans (World σ) Calm := ⟨fun _ _ _ => trans⟩

/-- Closing a connection begins no reconnect. -/
theorem closeStable (cfg : Config σ) : CloseStable cfg Calm StopsAnyhow where
  raise _ _ _ := ⟨rfl, rfl, rfl⟩
  discard _ := ⟨rfl, rfl, rfl⟩
  halts _ _ _ := trivial
  close _ _ _ _ _ := ⟨World.begun_record _ _ _, World.returned_record _ _ _, rfl⟩
  noted _ _ := ⟨World.begun_record _ _ _, World.returned_record _ _ _, rfl⟩
  disconnect _ _ := ⟨rfl, rfl, rfl⟩
  invalid _ _ := ⟨rfl, rfl, rfl⟩
  unregister _ := ⟨rfl, rfl, rfl⟩
  reset _ _ _ := ⟨rfl, rfl, rfl⟩

end Calm

/-! ### Reconnecting -/

/-- A reconnect that has begun is pending until it returns. -/
structure Pending (world after : World σ) : Prop where
  begun : world.begun < after.begun
  returned : world.returned ≤ after.returned
  pending : after.returned + world.begun < world.returned + after.begun

namespace Pending

theorem of_lost (world : World σ) (tryReconnect : Bool) :
    Pending world (world.record .other (.lost tryReconnect)) where
  begun := by simp [Event.isLost]
  returned := by simp [Event.isReconnected]
  pending := by simp [Event.isLost, Event.isReconnected]

theorem calm (pending : Pending world middle) (calm : Calm middle after) : Pending world after where
  begun := calm.begun ▸ pending.begun
  returned := calm.returned ▸ pending.returned
  pending := by
    rw [calm.begun, calm.returned]
    exact pending.pending

theorem begins (pending : Pending world middle) (begins : Begins middle after) :
    Pending world after where
  begun := Nat.lt_of_lt_of_le pending.begun begins.begun
  returned := Nat.le_trans pending.returned begins.returned
  pending := by
    have before := pending.pending
    have grown := begins.pending
    omega

/-- A reconnect that is left by an error stays pending. -/
theorem answers (pending : Pending world after) : Answers world after where
  begun := Nat.le_of_lt pending.begun
  returned := pending.returned
  pending := Nat.le_of_lt pending.pending
  safe answered := absurd answered (Nat.ne_of_lt pending.pending)
  unmarked same := absurd same (Nat.ne_of_gt pending.begun)

/-- A reconnect that returns is answered if those are that it began. -/
theorem answered_of_returned (pending : Pending world middle) (begins : Begins middle after)
    {result : Int} (answered : Answered world (after.record .other (.reconnected result))) :
    Answered middle after := by
  have before := pending.pending
  have grown := begins.pending
  unfold Answered at answered ⊢
  rw [World.begun_reconnected, World.returned_reconnected] at answered
  omega

/-- A reconnect that returns, with the Datasource safe if those are answered that it began. -/
theorem returns (pending : Pending world middle) (begins : Begins middle after)
    (safe : Answered middle after → after.Safe) (result : Int) :
    Answers world (after.record .other (.reconnected result)) where
  begun := by
    rw [World.begun_reconnected]
    exact Nat.le_of_lt (pending.begins begins).begun
  returned := by
    rw [World.returned_reconnected]
    exact Nat.le_succ_of_le (pending.begins begins).returned
  pending := by
    have grown := (pending.begins begins).pending
    rw [World.begun_reconnected, World.returned_reconnected]
    omega
  safe answered _ := safe (pending.answered_of_returned begins answered)
  unmarked same := by
    have grown := (pending.begins begins).begun
    rw [World.begun_reconnected] at same
    omega

end Pending

section Reconnecting

variable {reconnect : Reconnect σ}
  (reconnects : ∀ cmd tryReconnect, Keeps Answers StopsAnyhow (reconnect cmd tryReconnect))
include reconnects

/-- Where opening the connection again returns, the Datasource is safe. -/
theorem wp_reopenConnection_safe (tryReconnect : Bool) (world : World σ) :
    wp (reopenConnection cfg reconnect tryReconnect)
      (fun _ after => Begins world after ∧ (Answered world after → after.Safe))
      (fun _ after => Begins world after) (fun _ _ => True) world := by
  rw [reopenConnection, wp_bind]
  refine wp_mono (connects_nested (connects_init reconnects) world)
    (fun result opened connects => ?_)
    (fun _ _ kept => kept.toBegins) fun _ _ _ => trivial
  obtain ⟨kept, safe⟩ := connects
  split
  · exact ⟨⟨kept.begun, kept.returned, kept.pending⟩, fun _ => .inr rfl⟩
  · rename_i connected
    have opens := safe (not_not.mp connected)
    rw [wp_bind, wasInTransaction, wp_bind, wp_get, wp_pure]
    split
    · exact ⟨kept.toBegins, opens⟩
    · exact ⟨⟨kept.begun, kept.returned, kept.pending⟩, opens⟩

end Reconnecting

/-- As long as each reconnect returns, the Datasource stays safe in a reconnect. -/
theorem keeps_closeAndReconnect_answers (cfg : Config σ) (bound : Nat) (cmd : CommandId)
    (tryReconnect : Bool) :
    Keeps Answers StopsAnyhow (closeAndReconnect cfg bound cmd tryReconnect) := by
  induction bound generalizing cmd tryReconnect with
  | zero => exact keeps_halt fun _ => trivial
  | succ bound inductionHypothesis =>
    intro world
    have halts : ∀ reason after, Halted Answers StopsAnyhow world reason after :=
      fun _ _ => ⟨world, Answers.refl world, trivial⟩
    have lost := Pending.of_lost world tryReconnect
    rw [closeAndReconnect, wp_bind, wp_modify, wp_bind]
    refine wp_mono ((Calm.closeStable cfg).keeps_closeConnection cmd _) (fun _ closed calm => ?_)
      (fun _ _ calm => (lost.calm calm).answers) fun reason after _ => halts reason after
    have closing := lost.calm calm
    rw [wp_bind]
    refine wp_mono (wp_reopenConnection_safe inductionHypothesis tryReconnect closed)
      (fun result opened reopened => ?_) (fun _ _ begins => (closing.begins begins).answers)
      fun reason after _ => halts reason after
    obtain ⟨begins, safe⟩ := reopened
    rw [wp_bind, wp_modify, wp_pure]
    exact closing.returns begins safe result

/-! ### Marking -/

section Marking

variable (cfg : Config σ) (bound : Nat) (cmd : CommandId) (tryReconnect : Bool) (world : World σ)

/-- The lost connection is closed. -/
def Closed (middle : World σ) : Prop :=
  closeConnection cfg cmd (world.record .other (.lost tryReconnect)) = (.ok (), middle)

/-- The new handle is connected and fully initialised: `connection::init` returns 0, with the
connection it made. -/
def Reinitialised : Prop :=
  ∃ middle after, Closed cfg cmd tryReconnect world middle ∧
    nested (init cfg (closeAndReconnect cfg bound)) middle = (.ok 0, after) ∧
      after.connection.connected = true

/-- When control leaves `closeAndReconnect`, by a return or by an error, and the new handle is not
initialised, the Datasource is marked as closed. -/
def MarksFailure : Prop :=
  ∀ after, (∃ result, closeAndReconnect cfg (bound + 1) cmd tryReconnect world = (.ok result,
    after)) ∨
      (∃ error, closeAndReconnect cfg (bound + 1) cmd tryReconnect world = (.throw error, after)) →
    ¬Reinitialised cfg bound cmd tryReconnect world → after.connectionAborted = true

/-- No `ss::Error` leaves the closing of the connection, `connection::init`, or a reconnect that a
query of `init` begins. -/
structure NoErrorLeaves : Prop where
  closes : ∀ error middle,
    closeConnection cfg cmd (world.record .other (.lost tryReconnect)) ≠ (.throw error, middle)
  connects : ∀ middle error after, Closed cfg cmd tryReconnect world middle →
    nested (init cfg (closeAndReconnect cfg bound)) middle ≠ (.throw error, after)
  answered : ∀ middle result after, Closed cfg cmd tryReconnect world middle →
    nested (init cfg (closeAndReconnect cfg bound)) middle = (.ok result, after) →
      Answered middle after

/-- No query of `init` begins a reconnect. -/
def ReconnectsOnce : Prop :=
  ∀ middle after, Closed cfg cmd tryReconnect world middle →
    (∃ result, nested (init cfg (closeAndReconnect cfg bound)) middle = (.ok result, after)) ∨
      (∃ error, nested (init cfg (closeAndReconnect cfg bound)) middle = (.throw error, after)) →
    after.begun = middle.begun

end Marking

section Runs

variable {bound : Nat} {cmd : CommandId} {tryReconnect : Bool}

/-- How `connection::init` ends. -/
theorem init_ends (bound : Nat) (middle : World σ) :
    (∀ result after, nested (init cfg (closeAndReconnect cfg bound)) middle = (.ok result, after) →
      Answers middle after ∧ (result = 0 → Answered middle after → after.Safe)) ∧
    (∀ error after, nested (init cfg (closeAndReconnect cfg bound)) middle = (.throw error, after) →
      Answers middle after) := by
  have connects : Connects (nested (init cfg (closeAndReconnect cfg bound))) :=
    connects_nested (connects_init (keeps_closeAndReconnect_answers cfg bound))
  have ends := wp_iff_forall.mp (connects middle)
  exact ⟨ends.1, ends.2.1⟩

/-- Where no error leaves it, a reconnect that fails marks the Datasource. -/
theorem NoErrorLeaves.marksFailure (leaves : NoErrorLeaves cfg bound cmd tryReconnect world) :
    MarksFailure cfg bound cmd tryReconnect world := by
  have marks : wp (closeAndReconnect cfg (bound + 1) cmd tryReconnect)
      (fun _ after => ¬Reinitialised cfg bound cmd tryReconnect world →
        after.connectionAborted = true)
      (fun _ _ => False) (fun _ _ => True) world := by
    rw [closeAndReconnect, wp_bind, wp_modify, wp_bind]
    refine wp_iff_forall.mpr ⟨fun _ middle closed => ?_,
      fun error middle thrown => leaves.closes error middle thrown, fun _ _ _ => trivial⟩
    rw [wp_bind, reopenConnection, wp_bind]
    refine wp_iff_forall.mpr ⟨fun result opened ran => ?_,
      fun error opened thrown => leaves.connects middle error opened closed thrown,
      fun _ _ _ => trivial⟩
    split
    · exact fun _ => rfl
    · rename_i connected
      obtain rfl := not_not.mp connected
      have safe : opened.Safe :=
        ((init_ends bound middle).1 0 opened ran).2 rfl (leaves.answered middle 0 opened closed ran)
      have marked : ¬Reinitialised cfg bound cmd tryReconnect world →
          opened.connectionAborted = true := fun fails =>
        safe.resolve_left fun connected => fails ⟨middle, opened, closed, ran, connected⟩
      rw [wp_bind, wasInTransaction, wp_bind, wp_get, wp_pure]
      split
      · exact marked
      · exact marked
  obtain ⟨returned, thrown, -⟩ := wp_iff_forall.mp marks
  rintro after (⟨result, ran⟩ | ⟨error, ran⟩) fails
  · exact returned result after ran fails
  · exact (thrown error after ran).elim

/-- An error that leaves the closing of the connection leaves the reconnect. -/
theorem closeAndReconnect_of_closing {error : Error} {middle : World σ}
    (thrown : closeConnection cfg cmd (world.record .other (.lost tryReconnect)) =
      (.throw error, middle)) :
    closeAndReconnect cfg (bound + 1) cmd tryReconnect world = (.throw error, middle) :=
  (bind_of_returned rfl).trans (bind_of_thrown thrown)

/-- An error that leaves `connection::init` leaves the reconnect. -/
theorem closeAndReconnect_of_init {error : Error} {middle after : World σ}
    (closed : Closed cfg cmd tryReconnect world middle)
    (thrown : nested (init cfg (closeAndReconnect cfg bound)) middle = (.throw error, after)) :
    closeAndReconnect cfg (bound + 1) cmd tryReconnect world = (.throw error, after) :=
  (bind_of_returned rfl).trans
    ((bind_of_returned closed).trans (bind_of_thrown (bind_of_thrown thrown)))

/-- A reconnect that fails marks the Datasource if no `ss::Error` leaves the closing of the
connection, `init`, or a reconnect in it. If the Datasource is not marked before and `init` begins
no reconnect, it does so only then. -/
theorem closeAndReconnect_marksFailure (cfg : Config σ) (bound : Nat) (cmd : CommandId)
    (tryReconnect : Bool) (world : World σ) :
    (NoErrorLeaves cfg bound cmd tryReconnect world →
      MarksFailure cfg bound cmd tryReconnect world) ∧
    (world.connectionAborted = false → ReconnectsOnce cfg bound cmd tryReconnect world →
      (MarksFailure cfg bound cmd tryReconnect world ↔
        NoErrorLeaves cfg bound cmd tryReconnect world)) := by
  refine ⟨fun leaves => leaves.marksFailure, fun unmarked once =>
    ⟨fun marks => ?_, fun leaves => leaves.marksFailure⟩⟩
  obtain ⟨closing, failing, -⟩ := wp_iff_forall.mp ((Calm.closeStable cfg).keeps_closeConnection cmd
    (world.record .other (.lost tryReconnect)))
  constructor
  case closes =>
    intro error middle thrown
    have marked := marks middle (.inr ⟨error, closeAndReconnect_of_closing thrown⟩) fun opened => by
      obtain ⟨closed, after, returned, -⟩ := opened
      exact absurd (thrown.symm.trans returned) (by simp)
    have same : middle.connectionAborted = world.connectionAborted :=
      (failing error middle thrown).aborted
    exact absurd (marked.symm.trans (same.trans unmarked)) (by decide)
  case connects =>
    intro middle error after closed thrown
    have marked := marks after (.inr ⟨error, closeAndReconnect_of_init closed thrown⟩)
      fun opened => by
      obtain ⟨middle', after', closed', returned, -⟩ := opened
      have same : middle = middle' := congrArg Prod.snd (closed.symm.trans closed')
      subst same
      exact absurd (thrown.symm.trans returned) (by simp)
    have kept := (init_ends bound middle).2 error after thrown
    have same : after.connectionAborted = middle.connectionAborted :=
      kept.unmarked (once middle after closed (.inr ⟨error, thrown⟩))
    have before : middle.connectionAborted = world.connectionAborted :=
      (closing () middle closed).aborted
    exact absurd (marked.symm.trans (same.trans (before.trans unmarked))) (by decide)
  case answered =>
    intro middle result after closed returned
    have kept := ((init_ends bound middle).1 result after returned).1
    have same : after.begun = middle.begun := once middle after closed (.inl ⟨result, returned⟩)
    have pending := kept.pending
    have grown := kept.returned
    unfold Answered
    omega

end Runs

/-! ### Samples -/

/-- A ct-lib on which the calls fail that a test picks. -/
def CtLib.failing (fails : CtCall → Bool) : CtLib Unit where
  answer call state := ({ code := if fails call then .fail else .succeed }, state)
  activeTransaction _ := false

/-- A Datasource on which a query has been sent. -/
def sentWorld (fails : CtCall → Bool) : World Unit :=
  let cfg := Config.sample (CtLib.failing fails) true 9
  (setupCommand cfg (closeAndReconnect cfg 9) (text "select 1") none false (World.opened ())).2

/-- Where setting the login timeout fails, `connection::init` returns an error, and the reconnect
marks the Datasource; where `ct_connect` fails, it would have to return one. -/
theorem closeAndReconnect_marksFailure_samples :
    MarksFailure (Config.sample (CtLib.failing (· == .init .loginTimeout)) true 9) 8 0 false
      (sentWorld (· == .init .loginTimeout)) ∧
    (MarksFailure (Config.sample (CtLib.failing (· == .connect)) true 9) 8 0 false
        (sentWorld (· == .connect)) ↔
      NoErrorLeaves (Config.sample (CtLib.failing (· == .connect)) true 9) 8 0 false
        (sentWorld (· == .connect))) := by
  constructor
  · refine (closeAndReconnect_marksFailure _ 8 0 false _).1 ⟨?_, ?_, ?_⟩
    · intro error middle thrown
      cases thrown
    · intro middle error after closed thrown
      cases closed
      cases thrown
    · intro middle result after closed returned
      cases closed
      cases returned
      rfl
  · refine (closeAndReconnect_marksFailure _ 8 0 false _).2 rfl ?_
    rintro middle after closed (⟨result, returned⟩ | ⟨error, thrown⟩)
    · cases closed
      cases returned
    · cases closed
      cases thrown
      rfl

/-- Where `ct_connect` fails, `ss::Error` leaves the reconnect, and the Datasource is not marked. -/
theorem not_marksFailure_connect :
    ¬MarksFailure (Config.sample (CtLib.failing (· == .connect)) true 9) 8 0 false
      (sentWorld (· == .connect)) := by
  intro marks
  have marked := marks _ (.inr ⟨_, rfl⟩) fun opened => by
    obtain ⟨middle, after, closed, returned, -⟩ := opened
    cases closed
    cases returned
  exact absurd marked (by decide)

end Sybase
