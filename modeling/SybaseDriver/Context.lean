/-
This file defines the class `context`, which holds a `CS_CONTEXT` for the life of a connection, or
for the time it takes to ask for the version of the client library, and proves when the driver
handles contexts properly. Where `ct_init` fails the constructor drops the context but keeps the
pointer to it. So the contexts are handled properly, over any sequence of operations on any number
of Datasources, exactly where `ct_init` never fails.
-/

import SybaseDriver.Leases
import SybaseDriver.World
import SybaseDriver.ProgramLogic

namespace Sybase

open Program Leases

/-! ### Calls -/

/-- A `CS_CONTEXT` handle. Handles are numbered in the order of their allocation. -/
abbrev ContextHandle := Nat

/-- The calls of ct-lib and cs-lib about a context. -/
inductive ContextCall where
  | ctxAlloc (context : ContextHandle)
  | ctInit (context : ContextHandle)
  | config (context : ContextHandle)
  | exit (context : ContextHandle) (force : Bool)
  | ctxDrop (context : ContextHandle)
  deriving DecidableEq, Repr

/-- The answer to a call: the return code, and for `ct_config` the text it stores and its length
with the terminator. -/
structure ContextReply where
  code : Retcode := .succeed
  buf : Text := []
  olen : Int := 0

/-- A ct-lib with the state `σ`, and whether assertions are evaluated. -/
structure ContextConfig (σ : Type) where
  answer : ContextCall → σ → ContextReply × σ
  debug : Bool

/-- What the contexts are used by: the connections of the Datasources that are open. The log and the
sink have the newest entry first. -/
structure ContextWorld (σ : Type) where
  env : σ
  log : List (ContextCall × Retcode)
  xsink : List QoreException
  nextContext : ContextHandle
  connections : Nat → Option (Option ContextHandle)

/-- A function of the driver that works on contexts. -/
abbrev ContextDriver (σ α : Type) := Program (ContextWorld σ) Error Halt α

variable {σ : Type} (cfg : ContextConfig σ)

/-- The state after a call. -/
def ContextWorld.answered (world : ContextWorld σ) (call : ContextCall) : ContextWorld σ :=
  let answer := cfg.answer call world.env
  { world with env := answer.2, log := (call, answer.1.code) :: world.log }

namespace Context

/-- Make a call. -/
def ctCall (call : ContextCall) : ContextDriver σ ContextReply := fun world =>
  (.ok (cfg.answer call world.env).1, world.answered cfg call)

/-- `ExceptionSink::raiseException`. -/
def raiseException (err desc : String) : ContextDriver σ Unit :=
  modify fun world => { world with xsink := ⟨err, desc⟩ :: world.xsink }

/-- `assert`, which only a debug build evaluates. -/
def assert (condition : Bool) : ContextDriver σ Unit :=
  when (cfg.debug && !condition) (halt (.assertion .other))

/-! ### The class `context` -/

/-- `context::del`. The pointer is not cleared. -/
def del (context : ContextHandle) : ContextDriver σ Unit := do
  let ret ← ctCall cfg (.exit context false)
  when (ret.code ≠ .succeed) do
    let ret ← ctCall cfg (.exit context true)
    assert cfg (ret.code = .succeed)
  let ret ← ctCall cfg (.ctxDrop context)
  assert cfg (ret.code = .succeed)

/-- The constructor `context::context`, with the pointer it leaves, which `cs_ctx_alloc` sets to
NULL where it fails. -/
def create : ContextDriver σ (Option ContextHandle) := do
  let context := (← get).nextContext
  modify fun world => { world with nextContext := context + 1 }
  let ret ← ctCall cfg (.ctxAlloc context)
  if ret.code ≠ .succeed then do
    raiseException "TDS-CT-LIB-CANNOT-ALLOCATE-ERROR"
      s!"cs_ctx_alloc() failed with error {ret.code}"
    pure none
  else do
    let ret ← ctCall cfg (.ctInit context)
    when (ret.code ≠ .succeed) do
      del cfg context
      raiseException "TDS-CT-LIB-INIT-FAILED" s!"ct_init() failed with error {ret.code}"
    pure (some context)

/-- The destructor `context::~context`. -/
def destroy : Option ContextHandle → ContextDriver σ Unit
  | some context => del cfg context
  | none => pure ()

/-- `context::get_client_version`. The text ends before its terminator, which `ct_config` counts. -/
def getClientVersion (context : ContextHandle) : ContextDriver σ QoreValue := do
  let reply ← ctCall cfg (.config context)
  if reply.code ≠ .succeed then do
    raiseException "TDS-GET-CLIENT-VERSION-ERROR"
      s!"ct_config(CS_VER_STRING) failed with error {reply.code}"
    pure .nothing
  else if 0 < reply.olen ∧ reply.olen ≤ reply.buf.length + 1 then
    pure (.string (reply.buf.take (reply.olen - 1).toNat))
  else halt .undefined

/-! ### Operations -/

/-- `sybase_get_client_version`. -/
def sybaseGetClientVersion : ContextDriver σ QoreValue := do
  match ← create cfg with
  | none => pure .nothing
  | some context => do
    let version ← getClientVersion cfg context
    destroy cfg (some context)
    pure version

/-- What `sybase_open` does with the context of the connection that it makes. The connection, and
its context with it, is deleted where an exception is pending, or where connecting fails. -/
def sybaseOpen (datasource : Nat) (fails : Bool) : ContextDriver σ Unit := do
  let context ← create cfg
  if !(← get).xsink.isEmpty || fails then destroy cfg context
  else modify fun world => { world with
    connections := Function.update world.connections datasource (some context) }

/-- What `sybase_close` does with the context of the connection that it deletes. -/
def sybaseClose (datasource : Nat) : ContextDriver σ Unit := do
  let connection := (← get).connections datasource
  modify fun world => { world with
    connections := Function.update world.connections datasource none }
  destroy cfg connection.join

end Context

/-- The operations that make or destroy a context. -/
inductive ContextOp where
  | getClientVersion
  | open (datasource : Nat) (fails : Bool)
  | close (datasource : Nat)

/-- The program of an operation. Qore opens a Datasource that is not open. -/
def ContextOp.run : ContextOp → ContextDriver σ Unit
  | getClientVersion => do let _ ← Context.sybaseGetClientVersion cfg
  | .open datasource fails => do
    if ((← get).connections datasource).isNone then Context.sybaseOpen cfg datasource fails
    else halt .undefined
  | .close datasource => Context.sybaseClose cfg datasource

/-! ### Touches -/

/-- What a call does with a context: `cs_ctx_alloc` acquires it where it succeeds, `cs_ctx_drop`
releases it, and the others use it. -/
def ContextCall.touch : ContextCall × Retcode → Option (Touch ContextHandle)
  | (.ctxAlloc context, code) => if code = .succeed then some (.acquire context) else none
  | (.ctInit context, _) | (.config context, _) | (.exit context _, _) => some (.use context)
  | (.ctxDrop context, _) => some (.release context)

/-- Every `ct_init` succeeded. -/
def InitsSucceed (log : List (ContextCall × Retcode)) : Prop :=
  ∀ context code, (.ctInit context, code) ∈ log → code = .succeed

/-- The context is initialised. -/
def ContextCall.isInit : ContextCall → Bool
  | ctInit _ => true
  | _ => false

namespace ContextWorld

variable {cfg : ContextConfig σ} {world after : ContextWorld σ}
  {held : Option Nat → Option ContextHandle} {index : Option Nat} {context : ContextHandle}

/-- What the calls in the log have done with contexts. -/
def touches (world : ContextWorld σ) : List (Touch ContextHandle) :=
  world.log.filterMap ContextCall.touch

/-- What holds contexts: the connections, and an operation that asks for the version or makes a
connection. -/
def holder (world : ContextWorld σ) : Option Nat → Option ContextHandle
  | some datasource => (world.connections datasource).join
  | none => none

/-- The contexts were handled with discipline, each one that is outstanding has one holder, and the
next one is new. -/
structure Keeping (held : Option Nat → Option ContextHandle) (world : ContextWorld σ) : Prop where
  assigned : Assigned world.touches held
  below : ∀ touch ∈ world.touches, touch.resource < world.nextContext

/-- The connections and the sink are as they were, and no context was initialised. -/
structure OnlyCalls (world after : ContextWorld σ) : Prop where
  connections : after.connections = world.connections
  xsink : after.xsink = world.xsink
  inits : InitsSucceed after.log ↔ InitsSucceed world.log

namespace OnlyCalls

theorem trans {middle : ContextWorld σ} (first : OnlyCalls world middle)
    (second : OnlyCalls middle after) :
    OnlyCalls world after :=
  ⟨second.connections.trans first.connections, second.xsink.trans first.xsink,
    second.inits.trans first.inits⟩

theorem answered {call : ContextCall} (other : call.isInit = false) :
    OnlyCalls world (world.answered cfg call) := by
  refine ⟨rfl, rfl, fun succeed context code member => succeed context code
    (List.mem_cons_of_mem _ member), fun succeed context code member => ?_⟩
  rcases List.mem_cons.mp member with same | before
  · cases same
    cases other
  · exact succeed context code before

end OnlyCalls

/-- A call adds its touch. -/
theorem touches_answered (call : ContextCall) : (world.answered cfg call).touches =
    (ContextCall.touch (call, (cfg.answer call world.env).1.code)).toList ++ world.touches := by
  show List.filterMap _ (_ :: world.log) = _
  rw [List.filterMap_cons]
  cases ContextCall.touch (call, (cfg.answer call world.env).1.code) with
  | none => rfl
  | some touch => rfl

namespace Keeping

/-- A call that uses a context which is held. -/
theorem use (keeping : Keeping held world) (holds : held index = some context) {call : ContextCall}
    (uses : ∀ code, ContextCall.touch (call, code) = some (.use context)) :
    Keeping held (world.answered cfg call) := by
  have touches : (world.answered cfg call).touches = .use context :: world.touches := by
    rw [touches_answered, uses]
    rfl
  refine ⟨touches ▸ keeping.assigned.use holds, ?_⟩
  rw [touches]
  have out := (keeping.assigned.held context).mpr ⟨index, holds⟩
  exact List.forall_mem_cons.mpr
    ⟨keeping.below (.acquire context) (acquired_of_outstanding out), keeping.below⟩

/-- The holder of a context drops it. -/
theorem drop (keeping : Keeping held world) (holds : held index = some context)
    (cfg : ContextConfig σ) :
    Keeping (Function.update held index none) (world.answered cfg (.ctxDrop context)) := by
  have touches : (world.answered cfg (.ctxDrop context)).touches = .release context ::
      world.touches :=
    touches_answered (.ctxDrop context)
  refine ⟨touches ▸ keeping.assigned.release holds, ?_⟩
  rw [touches]
  have out := (keeping.assigned.held context).mpr ⟨index, holds⟩
  exact List.forall_mem_cons.mpr
    ⟨keeping.below (.acquire context) (acquired_of_outstanding out), keeping.below⟩

/-- A holder that holds nothing acquires the context that is allocated. -/
theorem allocate (keeping : Keeping held world) (empty : held index = none)
    (succeeded : (cfg.answer (.ctxAlloc world.nextContext) world.env).1.code = .succeed) :
    Keeping (Function.update held index (some world.nextContext))
      { world.answered cfg (.ctxAlloc world.nextContext) with
        nextContext := world.nextContext + 1 } := by
  have touches : (world.answered cfg (.ctxAlloc world.nextContext)).touches =
      .acquire world.nextContext :: world.touches := by
    rw [touches_answered]
    simp [ContextCall.touch, succeeded]
  have fresh : Allowed world.touches (.acquire world.nextContext) :=
    fun touch member same => absurd (keeping.below touch member) (same ▸ Nat.lt_irrefl _)
  constructor
  · have acquired := keeping.assigned.acquire fresh empty
    rwa [← touches] at acquired
  · intro touch member
    rcases List.mem_cons.mp (touches ▸ member) with rfl | before
    · exact Nat.lt_succ_self _
    · exact Nat.lt_succ_of_lt (keeping.below touch before)

end Keeping

/-! ### Postconditions -/

section Rules

variable {onUnit : Unit → ContextWorld σ → Prop} {onThrow : Error → ContextWorld σ → Prop}
  {onHalt : Halt → ContextWorld σ → Prop}

@[simp] theorem wp_ctCall (call : ContextCall) {onReply : ContextReply → ContextWorld σ → Prop} :
    wp (Context.ctCall cfg call) onReply onThrow onHalt world ↔
      onReply (cfg.answer call world.env).1 (world.answered cfg call) := Iff.rfl

@[simp] theorem wp_raiseException (err desc : String) :
    wp (Context.raiseException err desc) onUnit onThrow onHalt world ↔
      onUnit () { world with xsink := ⟨err, desc⟩ :: world.xsink } := Iff.rfl

@[simp] theorem wp_assert (condition : Bool) :
    wp (Context.assert cfg condition) onUnit onThrow onHalt world ↔
      ((cfg.debug && !condition) = true → onHalt (.assertion .other) world) ∧
        (¬(cfg.debug && !condition) = true → onUnit () world) := by
  rw [Context.assert, wp_when, wp_halt]

end Rules

/-- Nothing is thrown. -/
abbrev noThrow : Error → ContextWorld σ → Prop := fun _ _ => False

/-- Where the process stops, the contexts were handled with discipline unless a `ct_init` failed. -/
def StopsProperly : Halt → ContextWorld σ → Prop := fun _ last =>
  InitsSucceed last.log → Disciplined last.touches

/-- `del` drops the context that a holder holds. -/
theorem Keeping.wp_del (keeping : Keeping held world) (holds : held index = some context)
    (cfg : ContextConfig σ) : wp (Context.del cfg context)
      (fun _ after => Keeping (Function.update held index none) after ∧ OnlyCalls world after)
      noThrow StopsProperly world := by
  have drops : ∀ last : ContextWorld σ, Keeping held last → OnlyCalls world last → wp (do
      let ret ← Context.ctCall cfg (.ctxDrop context)
      Context.assert cfg (ret.code = .succeed))
      (fun _ after => Keeping (Function.update held index none) after ∧ OnlyCalls world after)
      noThrow StopsProperly last := by
    intro last keeping same
    rw [wp_bind, wp_ctCall, wp_assert]
    have dropped := keeping.drop holds cfg
    exact ⟨fun _ _ => dropped.assigned.disciplined, fun _ => ⟨dropped, same.trans (.answered rfl)⟩⟩
  have exits : ∀ (last : ContextWorld σ) (force : Bool), Keeping held last →
      Keeping held (last.answered cfg (.exit context force)) := fun _ _ keeping =>
    keeping.use holds fun _ => rfl
  rw [Context.del, wp_bind, wp_ctCall, wp_bind, wp_when]
  refine ⟨fun _ => ?_, fun _ => drops _ (exits world false keeping) (.answered rfl)⟩
  rw [wp_bind, wp_ctCall, wp_assert]
  have forced := exits _ true (exits world false keeping)
  refine ⟨fun _ _ => forced.assigned.disciplined, fun _ => drops _ forced ?_⟩
  exact (OnlyCalls.answered rfl).trans (.answered rfl)

/-- A context that is not outstanding, while an exception is pending that its failed `ct_init`
raised. -/
structure Dangling (context : ContextHandle) (world : ContextWorld σ) : Prop where
  gone : context ∉ outstanding world.touches
  raised : world.xsink ≠ []
  failed : ¬InitsSucceed world.log

/-- What the constructor leaves: a context that the object holds, none, or a pointer to one that it
has dropped. -/
def Constructed (held : Option Nat → Option ContextHandle) (index : Option Nat)
    (connections : Nat → Option (Option ContextHandle)) (context : Option ContextHandle)
    (after : ContextWorld σ) : Prop :=
  after.connections = connections ∧
    (Keeping (Function.update held index context) after ∧ InitsSucceed after.log ∨
      ∃ dropped, context = some dropped ∧ Dangling dropped after)

/-- A context that is allocated is initialised, or dropped. -/
theorem wp_initialise (keeping : Keeping (Function.update held index (some context)) world)
    (succeed : InitsSucceed world.log) (cfg : ContextConfig σ) : wp (do
      let ret ← Context.ctCall cfg (.ctInit context)
      when (ret.code ≠ .succeed) do
        Context.del cfg context
        Context.raiseException "TDS-CT-LIB-INIT-FAILED" s!"ct_init() failed with error {ret.code}"
      pure (some context)) (Constructed held index world.connections) noThrow StopsProperly
        world := by
  have holds : Function.update held index (some context) index = some context :=
    Function.update_self ..
  have called : Keeping (Function.update held index (some context))
      (world.answered cfg (.ctInit context)) := keeping.use holds fun _ => rfl
  rw [wp_bind, wp_ctCall, wp_bind, wp_when]
  refine ⟨fun failed => ?_, fun succeeded => ⟨rfl, .inl ⟨called, fun other code member => ?_⟩⟩⟩
  · rw [wp_bind]
    refine wp_mono (called.wp_del holds cfg) ?_ (fun _ _ absent => absent)
      fun _ _ stopped => stopped
    rintro _ after ⟨dropped, calls⟩
    rw [wp_raiseException, wp_pure]
    refine ⟨calls.connections, .inr ⟨context, rfl, fun out => ?_, List.cons_ne_nil _ _,
      fun inits => ?_⟩⟩
    · obtain ⟨other, holds'⟩ := (dropped.assigned.held context).mp out
      by_cases own : other = index
      · rw [own, Function.update_self] at holds'
        cases holds'
      · rw [Function.update_of_ne own] at holds'
        exact own (called.assigned.alone _ _ context holds' holds)
    · exact failed (calls.inits.mp inits context _ List.mem_cons_self)
  · rcases List.mem_cons.mp member with same | before
    · cases same
      exact not_not.mp succeeded
    · exact succeed other code before

theorem wp_create (keeping : Keeping held world) (empty : held index = none)
    (succeed : InitsSucceed world.log) (cfg : ContextConfig σ) :
    wp (Context.create cfg) (Constructed held index world.connections) noThrow StopsProperly
      world := by
  rw [Context.create, wp_bind, wp_get, wp_bind, wp_modify, wp_bind, wp_ctCall]
  have begun : InitsSucceed (world.answered cfg (.ctxAlloc world.nextContext)).log :=
    (OnlyCalls.answered rfl).inits.mpr succeed
  split
  · rename_i failed
    have touches : (world.answered cfg (.ctxAlloc world.nextContext)).touches = world.touches := by
      rw [touches_answered]
      simp [ContextCall.touch, failed]
    rw [wp_bind, wp_raiseException, wp_pure]
    refine ⟨rfl, .inl ⟨⟨?_, fun touch member => ?_⟩, begun⟩⟩
    · rw [← empty, Function.update_eq_self]
      exact touches ▸ keeping.assigned
    · exact Nat.lt_succ_of_lt (keeping.below touch (touches ▸ member))
  · rename_i succeeded
    exact wp_initialise (keeping.allocate empty (not_not.mp succeeded)) begun cfg

/-! ### What a run writes -/

/-- The log has grown. -/
def Grows (world after : ContextWorld σ) : Prop := world.log <:+ after.log

instance : Std.Refl (Grows (σ := σ)) := ⟨fun _ => List.suffix_refl _⟩

instance : IsTrans (ContextWorld σ) Grows := ⟨fun _ _ _ first second => first.trans second⟩

/-- Every run lets the log grow, also where the process stops. -/
abbrev Writes {α : Type} (program : ContextDriver σ α) : Prop :=
  Keeps Grows (fun _ => Grows) program

theorem writes_ctCall (cfg : ContextConfig σ) (call : ContextCall) :
    Writes (Context.ctCall cfg call) :=
  fun _ => List.suffix_cons _ _

theorem writes_raiseException (err desc : String) :
    Writes (Context.raiseException err desc : ContextDriver σ Unit) := fun _ => List.suffix_refl _

theorem writes_assert (cfg : ContextConfig σ) (condition : Bool) :
    Writes (Context.assert cfg condition) :=
  keeps_when _ fun _ => keeps_halt fun _ => List.suffix_refl _

theorem writes_del (cfg : ContextConfig σ) (context : ContextHandle) :
    Writes (Context.del cfg context) :=
  keeps_bind (writes_ctCall cfg _) fun _ => keeps_bind (keeps_when _ fun _ =>
    keeps_bind (writes_ctCall cfg _) fun _ => writes_assert cfg _) fun _ =>
      keeps_bind (writes_ctCall cfg _) fun _ => writes_assert cfg _

theorem writes_destroy (cfg : ContextConfig σ) : ∀ context, Writes (Context.destroy cfg context)
  | some context => writes_del cfg context
  | none => keeps_pure ()

theorem writes_create (cfg : ContextConfig σ) : Writes (Context.create cfg) := by
  refine keeps_bind keeps_get fun world => keeps_bind (keeps_modify fun _ => List.suffix_refl _)
    fun _ =>
    keeps_bind (writes_ctCall cfg _) fun ret => ?_
  split
  · exact keeps_bind (writes_raiseException _ _) fun _ => keeps_pure _
  · refine keeps_bind (writes_ctCall cfg _) fun ret =>
      keeps_bind (keeps_when _ fun _ => ?_) fun _ =>
      keeps_pure _
    exact keeps_bind (writes_del cfg _) fun _ => writes_raiseException _ _

/-- What `get_client_version` does with the reply. -/
theorem writes_reported (reply : ContextReply) : Writes (do
    if reply.code ≠ .succeed then do
      Context.raiseException "TDS-GET-CLIENT-VERSION-ERROR"
        s!"ct_config(CS_VER_STRING) failed with error {reply.code}"
      pure .nothing
    else if 0 < reply.olen ∧ reply.olen ≤ reply.buf.length + 1 then
      pure (.string (reply.buf.take (reply.olen - 1).toNat))
    else halt .undefined : ContextDriver σ QoreValue) := by
  split
  · exact keeps_bind (writes_raiseException _ _) fun _ => keeps_pure _
  · split
    · exact keeps_pure _
    · exact keeps_halt fun _ => List.suffix_refl _

theorem writes_getClientVersion (cfg : ContextConfig σ) (context : ContextHandle) :
    Writes (Context.getClientVersion cfg context) :=
  keeps_bind (writes_ctCall cfg _) writes_reported

theorem writes_op (cfg : ContextConfig σ) (op : ContextOp) : Writes (op.run cfg) := by
  cases op with
  | getClientVersion =>
    refine keeps_bind (keeps_bind (writes_create cfg) fun context => ?_) fun _ => keeps_pure _
    split
    · exact keeps_pure _
    · exact keeps_bind (writes_getClientVersion cfg _) fun _ =>
        keeps_bind (writes_destroy cfg _) fun _ => keeps_pure _
  | «open» datasource fails =>
    refine keeps_bind keeps_get fun world => ?_
    split
    · refine keeps_bind (writes_create cfg) fun context => keeps_bind keeps_get fun made => ?_
      split
      · exact writes_destroy cfg _
      · exact keeps_modify fun _ => List.suffix_refl _
    · exact keeps_halt fun _ => List.suffix_refl _
  | close datasource =>
    exact keeps_bind keeps_get fun world => keeps_bind (keeps_modify fun _ => List.suffix_refl _)
      fun _ => writes_destroy cfg _

/-! ### Operations -/

/-- A `ct_init` failed, and a context was used that had been dropped. -/
structure Broken (world : ContextWorld σ) : Prop where
  failed : ¬InitsSucceed world.log
  undisciplined : ¬Disciplined world.touches

theorem Broken.grows (broken : Broken world) (grown : Grows world after) : Broken after := by
  obtain ⟨new, log⟩ := grown
  constructor
  · exact fun inits => broken.failed fun context code member =>
      inits context code (log ▸ List.mem_append_right _ member)
  · intro disciplined
    rw [touches, ← log, List.filterMap_append] at disciplined
    exact broken.undisciplined disciplined.suffix

/-- What is broken stays so. -/
theorem Broken.wp_writes {α : Type} {program : ContextDriver σ α} (broken : Broken world)
    (writes : Writes program) : wp program (fun _ after => Broken after)
    (fun _ after => Broken after)
      StopsProperly world := by
  refine wp_mono (writes world) (fun _ _ grown => broken.grows grown)
    (fun _ _ grown => broken.grows grown) ?_
  rintro reason last ⟨middle, grown, grown'⟩ inits
  exact absurd inits (broken.grows (grown.trans grown')).failed

/-- Using a context that has been dropped breaks the discipline. -/
theorem Dangling.broken (dangling : Dangling context world) (call : ContextCall)
    (other : call.isInit = false)
    (uses : ∀ code, ContextCall.touch (call, code) = some (.use context)) :
    Broken (world.answered cfg call) := by
  constructor
  · exact fun inits => dangling.failed ((OnlyCalls.answered other).inits.mp inits)
  · rw [touches_answered, uses]
    exact fun disciplined => dangling.gone disciplined.1

/-- Deleting a context that has been dropped breaks the discipline. -/
theorem Dangling.wp_del (dangling : Dangling context world) (cfg : ContextConfig σ) :
    wp (Context.del cfg context) (fun _ after => Broken after) (fun _ after => Broken after)
      StopsProperly world := by
  rw [Context.del, wp_bind, wp_ctCall]
  refine (dangling.broken (.exit context false) rfl fun _ => rfl).wp_writes ?_
  exact keeps_bind (keeps_when _ fun _ => keeps_bind (writes_ctCall cfg _) fun _ =>
    writes_assert cfg _)
    fun _ => keeps_bind (writes_ctCall cfg _) fun _ => writes_assert cfg _

/-- Asking a context that has been dropped breaks the discipline. -/
theorem Dangling.wp_getClientVersion (dangling : Dangling context world) (cfg : ContextConfig σ) :
    wp (Context.getClientVersion cfg context) (fun _ after => Broken after)
      (fun _ after => Broken after)
      StopsProperly world := by
  rw [Context.getClientVersion, wp_bind, wp_ctCall]
  exact (dangling.broken (.config context) rfl fun _ => rfl).wp_writes (writes_reported _)

/-- The contexts are handled with discipline and held by the connections, where every `ct_init`
succeeded; where one failed, the discipline is broken. -/
def Sound (world : ContextWorld σ) : Prop :=
  Keeping world.holder world ∧ InitsSucceed world.log ∨ Broken world

namespace Sound

/-- The connections hold the contexts. -/
theorem of_keeping (keeping : Keeping held world) (inits : InitsSucceed world.log)
    (same : ∀ index, held index = world.holder index) : Sound world :=
  .inl ⟨funext same ▸ keeping, inits⟩

end Sound

/-- A broken run is sound whatever the rest of it does. -/
theorem Broken.wp_sound {α : Type} {program : ContextDriver σ α} (broken : Broken world)
    (writes : Writes program) : wp program (fun _ after => Sound after) (fun _ after => Sound after)
      StopsProperly world :=
  wp_mono (broken.wp_writes writes) (fun _ _ broken => .inr broken) (fun _ _ broken => .inr broken)
    fun _ _ stopped => stopped

/-- Asking for the version with a context that an operation holds. -/
theorem Keeping.wp_getClientVersion (keeping : Keeping held world)
    (holds : held none = some context) (inits : InitsSucceed world.log) (cfg : ContextConfig σ)
    (same : ∀ index, Function.update held none none index = world.holder index) : wp (do
      let version ← Context.getClientVersion cfg context
      Context.destroy cfg (some context)
      pure version) (fun _ after => Sound after) (fun _ after => Sound after) StopsProperly
        world := by
  have called : Keeping held (world.answered cfg (.config context)) :=
    keeping.use holds fun _ => rfl
  have inits' : InitsSucceed (world.answered cfg (.config context)).log :=
    (OnlyCalls.answered rfl).inits.mpr inits
  have deletes : ∀ (last : ContextWorld σ) (version : QoreValue), Keeping held last →
      InitsSucceed last.log → last.connections = world.connections → wp (do
        Context.destroy cfg (some context)
        pure version) (fun _ after => Sound after) (fun _ after => Sound after)
          StopsProperly last := by
    intro last version keeping inits connections
    rw [wp_bind]
    refine wp_mono (keeping.wp_del holds cfg) ?_ (fun _ _ absent => absurd absent id)
      fun _ _ stopped => stopped
    rintro _ after ⟨dropped, calls⟩
    refine Sound.of_keeping dropped (calls.inits.mpr inits) fun index => (same index).trans ?_
    cases index with
    | none => rfl
    | some datasource => rw [holder, holder, calls.connections, connections]
  rw [wp_bind, Context.getClientVersion, wp_bind, wp_ctCall]
  split
  · rw [wp_bind, wp_raiseException, wp_pure]
    exact deletes _ _ ⟨called.assigned, called.below⟩ inits' rfl
  · split
    · exact deletes _ _ called inits' rfl
    · exact fun _ => called.assigned.disciplined

/-- An operation that holds no context any more. -/
theorem update_none_holder (connections : after.connections = world.connections)
    (index : Option Nat) : Function.update world.holder none none index = after.holder index := by
  cases index with
  | none => rfl
  | some datasource =>
    rw [Function.update_of_ne (by simp), holder, holder, connections]

/-- The context that a connection holds. -/
theorem update_some_holder {datasource : Nat} (connection : Option (Option ContextHandle))
    (connections : after.connections = Function.update world.connections datasource connection)
    (index : Option Nat) :
    Function.update world.holder (some datasource) connection.join index = after.holder index := by
  cases index with
  | none => rfl
  | some other =>
    by_cases own : other = datasource
    · subst own
      rw [Function.update_self, holder, connections, Function.update_self]
    · rw [Function.update_of_ne (by simpa using own), holder, holder, connections,
        Function.update_of_ne own]

section Operations

variable (keeping : Keeping world.holder world) (inits : InitsSucceed world.log)
    (cfg : ContextConfig σ)
include keeping inits

theorem wp_sybaseGetClientVersion : wp (Context.sybaseGetClientVersion cfg)
    (fun _ after => Sound after) (fun _ after => Sound after) StopsProperly world := by
  rw [Context.sybaseGetClientVersion, wp_bind]
  refine wp_mono (wp_create keeping (rfl : world.holder none = none) inits cfg) ?_
    (fun _ _ absent => absurd absent id) fun _ _ stopped => stopped
  rintro context made ⟨connections, ⟨kept, inits⟩ | ⟨dropped, rfl, dangling⟩⟩
  · cases context with
    | none => exact .of_keeping kept inits (update_none_holder connections)
    | some context =>
      refine kept.wp_getClientVersion (Function.update_self ..) inits cfg ?_
      rw [Function.update_idem]
      exact update_none_holder connections
  · show wp (do
      let version ← Context.getClientVersion cfg dropped
      Context.destroy cfg (some dropped)
      pure version) _ _ _ _
    rw [wp_bind]
    refine wp_mono (dangling.wp_getClientVersion cfg) (fun _ _ broken => broken.wp_sound ?_)
      (fun _ _ broken => .inr broken) fun _ _ stopped => stopped
    exact keeps_bind (writes_destroy cfg _) fun _ => keeps_pure _

theorem wp_sybaseOpen {datasource : Nat} (closed : world.connections datasource = none)
    (fails : Bool) :
    wp (Context.sybaseOpen cfg datasource fails)
      (fun _ after => Sound after) (fun _ after => Sound after) StopsProperly world := by
  have empty : world.holder (some datasource) = none := by rw [holder, closed, Option.join_none]
  rw [Context.sybaseOpen, wp_bind]
  refine wp_mono (wp_create keeping empty inits cfg) ?_ (fun _ _ absent => absurd absent id)
    fun _ _ stopped => stopped
  rintro context made ⟨connections, ⟨kept, inits⟩ | ⟨dropped, rfl, dangling⟩⟩
  · have restored : ∀ {last : ContextWorld σ}, last.connections = made.connections → ∀ index,
        Function.update (Function.update world.holder (some datasource) context)
          (some datasource) none
          index = last.holder index := by
      intro last same index
      rw [Function.update_idem, ← empty, Function.update_eq_self]
      cases index with
      | none => rfl
      | some other => rw [holder, holder, same, connections]
    rw [wp_bind, wp_get]
    split
    · cases context with
      | none =>
        refine .of_keeping kept inits fun index => ?_
        rw [← restored rfl index, Function.update_idem]
      | some context =>
        refine wp_mono (kept.wp_del (Function.update_self ..) cfg) ?_
          (fun _ _ absent => absurd absent id) fun _ _ stopped => stopped
        rintro _ after ⟨dropped, calls⟩
        exact .of_keeping dropped (calls.inits.mpr inits) (restored calls.connections)
    · rw [wp_modify]
      refine .of_keeping ⟨kept.assigned, kept.below⟩ inits (update_some_holder (some context) ?_)
      rw [connections]
  · rw [wp_bind, wp_get, if_pos (by simp [dangling.raised])]
    exact wp_mono (dangling.wp_del cfg) (fun _ _ broken => .inr broken)
      (fun _ _ broken => .inr broken)
      fun _ _ stopped => stopped

theorem wp_sybaseClose (datasource : Nat) : wp (Context.sybaseClose cfg datasource)
    (fun _ after => Sound after) (fun _ after => Sound after) StopsProperly world := by
  rw [Context.sybaseClose, wp_bind, wp_get, wp_bind, wp_modify]
  rcases holds : (world.connections datasource).join with _ | context
  · refine .of_keeping ⟨keeping.assigned, keeping.below⟩ inits fun index => ?_
    refine Eq.trans ?_ (update_some_holder none rfl index)
    rw [Option.join_none, ← holds]
    exact (congrFun (Function.update_eq_self (some datasource) world.holder) index).symm
  · have closing : Keeping world.holder { world with
        connections := Function.update world.connections datasource none } :=
      ⟨keeping.assigned, keeping.below⟩
    refine wp_mono
      (closing.wp_del (show world.holder (some datasource) = some context from holds) cfg) ?_
      (fun _ _ absent => absurd absent id) fun _ _ stopped => stopped
    rintro _ after ⟨dropped, calls⟩
    exact .of_keeping dropped (calls.inits.mpr inits) (update_some_holder none calls.connections)

end Operations

/-- Every operation leaves the contexts held by the connections, or breaks the discipline where a
`ct_init` failed. -/
theorem Sound.wp_op (sound : Sound world) (cfg : ContextConfig σ) (op : ContextOp) :
    wp (op.run cfg) (fun _ after => Sound after) (fun _ after => Sound after) StopsProperly
      world := by
  rcases sound with ⟨keeping, inits⟩ | broken
  · cases op with
    | getClientVersion => exact (wp_bind _ _).mpr (wp_sybaseGetClientVersion keeping inits cfg)
    | «open» datasource fails =>
      rw [ContextOp.run, wp_bind, wp_get]
      split
      · rename_i closed
        exact wp_sybaseOpen keeping inits cfg (Option.isNone_iff_eq_none.mp closed) fails
      · exact fun _ => keeping.assigned.disciplined
    | close datasource => exact wp_sybaseClose keeping inits cfg datasource
  · exact broken.wp_sound (writes_op cfg op)

/-- No context has been made yet. -/
structure IsStart (world : ContextWorld σ) : Prop where
  log : world.log = []
  connections : world.connections = fun _ => none

/-- The states that operations lead to, each with the exceptions that are pending when it is
called. -/
inductive LeadsTo (cfg : ContextConfig σ) (start : ContextWorld σ) : ContextWorld σ → Prop where
  | start : LeadsTo cfg start start
  | op {world after : ContextWorld σ} {op : ContextOp} (leads : LeadsTo cfg start world)
      (returns : op.run cfg world = (.ok (), after)) (xsink : List QoreException) :
      LeadsTo cfg start { after with xsink := xsink }

theorem LeadsTo.sound {start : ContextWorld σ} (leads : LeadsTo cfg start world)
    (isStart : start.IsStart) :
    Sound world := by
  induction leads with
  | start =>
    have touches : start.touches = [] := by
      rw [ContextWorld.touches, isStart.log, List.filterMap_nil]
    have empty : ∀ index, start.holder index = none := by
      rintro (_ | datasource)
      · rfl
      · rw [holder, isStart.connections, Option.join_none]
    refine .inl ⟨⟨⟨touches ▸ trivial, fun context => ?_, fun first _ context holds => ?_⟩, ?_⟩, ?_⟩
    · simp [touches, outstanding, empty]
    · simp [empty] at holds
    · simp [touches]
    · rw [isStart.log]
      exact fun _ _ member => absurd member List.not_mem_nil
  | op _ returns xsink sound =>
    rcases (wp_iff_forall.mp (sound.wp_op cfg _)).1 _ _ returns with ⟨keeping, inits⟩ | broken
    · exact .inl ⟨⟨keeping.assigned, keeping.below⟩, inits⟩
    · exact .inr ⟨broken.failed, broken.undisciplined⟩

/-- Over any sequence of openings, closings and questions for the version, contexts are used and
dropped only between their allocation and their drop exactly if no `ct_init` has failed. Then those
that are outstanding are the ones that connections hold. -/
theorem disciplined_contexts_iff {start : ContextWorld σ} (leads : LeadsTo cfg start world)
    (isStart : start.IsStart) (op : ContextOp) :
    (InitsSucceed (op.run cfg world).2.log → Disciplined (op.run cfg world).2.touches) ∧
    ∀ after, op.run cfg world = (.ok (), after) →
      (Disciplined after.touches ↔ InitsSucceed after.log) ∧
      (InitsSucceed after.log → ∀ context, context ∈ outstanding after.touches ↔
        ∃ datasource, after.connections datasource = some (some context)) := by
  have proper : ∀ {after : ContextWorld σ}, Sound after → InitsSucceed after.log →
      Keeping after.holder after := fun sound inits =>
    sound.elim And.left fun broken => absurd inits broken.failed
  obtain ⟨returned, thrown, halted⟩ := wp_iff_forall.mp ((leads.sound isStart).wp_op cfg op)
  constructor
  · rcases ended : op.run cfg world with ⟨value | error | reason, last⟩
    · exact fun inits => (proper (returned value last ended) inits).assigned.disciplined
    · exact fun inits => (proper (thrown error last ended) inits).assigned.disciplined
    · exact halted reason last ended
  · intro after returns
    have sound := returned () after returns
    refine ⟨⟨fun disciplined => ?_, fun inits => (proper sound inits).assigned.disciplined⟩,
      fun inits context => ?_⟩
    · exact sound.elim And.right fun broken => absurd disciplined broken.undisciplined
    · rw [(proper sound inits).assigned.held context]
      constructor
      · rintro ⟨_ | datasource, holds⟩
        · cases holds
        · exact ⟨datasource, Option.join_eq_some_iff.mp holds⟩
      · rintro ⟨datasource, holds⟩
        exact ⟨some datasource, Option.join_eq_some_iff.mpr holds⟩

end ContextWorld

/-- A client library that gives the return codes of a list, in their order whatever is called, and
succeeds after the last one. -/
def ContextConfig.scripted : ContextConfig (List Retcode) where
  answer _ codes :=
    match codes with
    | [] => ({ buf := text "ct-lib 1.0", olen := 11 }, [])
    | code :: rest => ({ code := code }, rest)
  debug := true

/-- No Datasource is open yet. -/
def ContextWorld.fresh (codes : List Retcode) : ContextWorld (List Retcode) :=
  ⟨codes, [], [], 0, fun _ => none⟩

/-- Where `ct_init` fails, the version is asked of a context that was dropped, which is then dropped
again. -/
theorem not_disciplined_contexts_failed :
    ¬Disciplined (ContextOp.getClientVersion.run ContextConfig.scripted
      (ContextWorld.fresh [.succeed, .fail])).2.touches ∧
    (ContextOp.getClientVersion.run ContextConfig.scripted
      (ContextWorld.fresh [.succeed, .fail])).2.touches =
        [.release 0, .use 0, .use 0, .release 0, .use 0, .use 0, .acquire 0] := by
  have leads : ContextWorld.LeadsTo ContextConfig.scripted (ContextWorld.fresh [.succeed, .fail])
    (ContextWorld.fresh [.succeed, .fail]) := .start
  obtain ⟨⟨⟩, ran, -⟩ := exists_returned
    (show (ContextOp.getClientVersion.run ContextConfig.scripted
    (ContextWorld.fresh [.succeed, .fail])).1.returns (fun _ => true) = true by decide)
  have settled := (ContextWorld.disciplined_contexts_iff leads ⟨rfl, rfl⟩ .getClientVersion).2 _ ran
  refine ⟨fun disciplined => ?_, by decide⟩
  have succeeded := settled.1.mp disciplined 0 .fail (by decide)
  cases succeeded

end Sybase
