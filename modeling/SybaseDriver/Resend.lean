/-
This file proves how often a request sends its command. The log of a request is read
at the depth of the request, so that the queries of a reconnect are left out, and only
for the sends, the pings, the losses found and the reconnects done. A request retries
after a send that failed, a ping that found the connection down and a reconnect that
succeeded; once a send succeeds nothing is sent any more.
-/

import SybaseDriver.Growth

namespace Sybase

open Program Connection

variable {σ : Type} {cfg : Config σ} {world middle after : World σ}

/-! ### The steps of a request -/

/-- What matters for the question how often a command is sent: a `ct_send` and whether it succeeded,
a ping and whether the connection was up, a loss that is handled, and a finished reconnect. -/
inductive Step where
  | send (succeeded : Bool)
  | ping (up : Bool)
  | lost (tryReconnect : Bool)
  | reconnected (result : Int)
  deriving DecidableEq, Repr

/-- The step an event stands for. -/
def Event.step? : Event → Option Step
  | call (.send _) reply => some (.send (reply.code = .succeed))
  | call .conStatus reply => some (.ping (reply.code = .succeed && reply.connected))
  | lost tryReconnect => some (.lost tryReconnect)
  | reconnected result => some (.reconnected result)
  | _ => none

/-- The step of an entry at a depth. -/
def Entry.stepAt (depth : Nat) (entry : Entry) : Option Step :=
  if entry.depth = depth then entry.event.step? else none

/-- The steps at a depth in a part of the log, in the order they were made. -/
def steps (depth : Nat) (entries : List Entry) : List Step :=
  (entries.filterMap (Entry.stepAt depth)).reverse

theorem steps_append (depth : Nat) (newer older : List Entry) :
    steps depth (newer ++ older) = steps depth older ++ steps depth newer := by
  rw [steps, List.filterMap_append, List.reverse_append]
  rfl

theorem steps_eq_nil {depth : Nat} {entries : List Entry}
    (silent : ∀ entry ∈ entries, entry.stepAt depth = none) : steps depth entries = [] := by
  rw [steps, List.filterMap_eq_nil_iff.mpr silent, List.reverse_nil]

theorem step?_of_isQuiet {call : CtCall} (quiet : call.isQuiet = true) (reply : Reply) :
    (Event.call call reply).step? = none := by
  cases call <;> first | rfl | cases quiet

theorem stepAt_of_isFailedClear {entry : Entry} (isFailed : entry.IsFailedClear) (depth : Nat) :
    entry.stepAt depth = none := by
  obtain ⟨-, cmd, reply, event, -⟩ := isFailed
  rw [Entry.stepAt, event]
  split <;> rfl

/-- A run makes some steps at the depth it began at. -/
structure Runs (world : World σ) (trace : List Step) (after : World σ) : Prop where
  depth : after.depth = world.depth
  log : ∃ new, after.log = new ++ world.log ∧ steps world.depth new = trace

namespace Runs

variable {trace first second : List Step}

theorem trans (earlier : Runs world first middle) (later : Runs middle second after) :
    Runs world (first ++ second) after := by
  obtain ⟨depth, new, log, rfl⟩ := earlier
  obtain ⟨depth', new', log', rfl⟩ := later
  refine ⟨depth'.trans depth, new' ++ new, by rw [log', log, List.append_assoc], ?_⟩
  rw [steps_append, depth]

/-- A run that leaves the log as it is. -/
theorem of_eq (depth : after.depth = world.depth) (log : after.log = world.log) :
    Runs world [] after := ⟨depth, [], log, rfl⟩

theorem refl (world : World σ) : Runs world [] world := of_eq rfl rfl

/-- A run that writes one entry. -/
theorem of_entry {site : Site} {event : Event} (depth : after.depth = world.depth)
    (log : after.log = ⟨world.depth, site, event⟩ :: world.log) :
    Runs world event.step?.toList after := by
  refine ⟨depth, [⟨world.depth, site, event⟩], log, ?_⟩
  rw [steps, List.filterMap_cons, Entry.stepAt, if_pos rfl]
  cases event.step? <;> rfl

theorem of_record (world : World σ) (event : Event) :
    Runs world event.step?.toList (world.record .other event) := .of_entry rfl rfl

theorem of_call (cfg : Config σ) (world : World σ) (site : Site) (call : CtCall) :
    Runs world (Event.call call (cfg.lib.reply call world.env).1).step?.toList
      (world.answered cfg.lib site call) := .of_entry rfl rfl

/-- A run that writes deeper entries. -/
theorem of_logs (depth : after.depth = world.depth)
    (logs : Logs (world.depth + 1) world.log after.log) : Runs world [] after := by
  obtain ⟨new, log, deeper⟩ := logs
  refine ⟨depth, new, log, steps_eq_nil fun entry member => ?_⟩
  have below := (deeper entry member).1
  rw [Entry.stepAt, if_neg (by omega)]

end Runs

/-! ### Programs without a step -/

/-- A run that makes no step. -/
def Silent (world after : World σ) : Prop := Runs world [] after

/-- The process stops without a step. -/
def StopsSilently (_ : Halt) (last after : World σ) : Prop := Silent last after

instance : Std.Refl (Silent (σ := σ)) := ⟨Runs.refl⟩

instance : IsTrans (World σ) Silent := ⟨fun _ _ _ => Runs.trans⟩

namespace Silent

theorem of_call (site : Site) {call : CtCall} (quiet : call.isQuiet = true) :
    Silent world (world.answered cfg.lib site call) := by
  have ran := Runs.of_call cfg world site call
  rwa [step?_of_isQuiet quiet] at ran

theorem quietStable (cfg : Config σ) : QuietStable cfg Silent StopsSilently where
  raise _ _ _ := Runs.of_eq rfl rfl
  discard _ := Runs.of_eq rfl rfl
  halts world _ _ := Runs.refl world
  call _ site _ quiet _ := of_call site quiet
  record world event quiet := by
    have ran := Runs.of_record world event
    cases event <;> first | exact ran | cases quiet
  commands _ _ _ _ _ _ _ := Runs.of_eq rfl rfl
  connection _ _ _ _ _ _ := Runs.of_eq rfl rfl
  statements _ _ _ := Runs.of_eq rfl rfl
  terminated _ _ _ := of_call .clear rfl

/-- A halt after silent steps. -/
theorem of_halted {reason : Halt} (halted : Halted Silent StopsSilently world reason after) :
    Runs world [] after :=
  let ⟨_, kept, stopped⟩ := halted
  Runs.trans kept stopped

/-- A halt after silent steps that keep another relation. -/
theorem of_halted_both {relation : World σ → World σ → Prop}
    {stops : Halt → World σ → World σ → Prop} {reason : Halt}
    (halted : Halted (Both Silent relation) (StopsBoth StopsSilently stops) world reason after) :
    Runs world [] after :=
  let ⟨_, kept, stopped⟩ := halted
  Runs.trans kept.1 stopped.1

/-- A program run one level deeper makes no step at this level. -/
theorem wp_nested {α : Type} {program : Driver σ α} (keeps : Keeps Extends StopsAtClear program)
    (world : World σ) : wp (nested program) (fun _ after => Silent world after)
      (fun _ after => Silent world after) (fun _ after => Silent world after) world := by
  refine (Sybase.wp_nested program).mpr (wp_mono (keeps _) (fun _ _ kept => .of_logs rfl kept.log)
    (fun _ _ kept => .of_logs rfl kept.log) ?_)
  rintro reason after ⟨last, kept, stopped⟩
  have deeper : Silent world { last with depth := world.depth } := .of_logs rfl kept.log
  refine deeper.trans ?_
  rcases stopped with ⟨-, same⟩ | ⟨-, entry, isFailed, -, log⟩
  · exact .of_eq rfl same
  · exact ⟨rfl, [entry], log, steps_eq_nil fun other member =>
      List.mem_singleton.mp member ▸ stepAt_of_isFailedClear isFailed _⟩

end Silent

/-! ### The transaction flag -/

/-- The in-transaction flag of the Datasource does not change while ct-lib is called. -/
def CtLib.FlagConstant (lib : CtLib σ) : Prop :=
  ∀ call env, lib.activeTransaction (lib.answer call env).2 = lib.activeTransaction env

/-- The in-transaction flag is what it was. -/
def FlagKept (lib : CtLib σ) (world after : World σ) : Prop :=
  lib.activeTransaction after.env = lib.activeTransaction world.env

namespace FlagKept

instance (lib : CtLib σ) : Std.Refl (FlagKept lib) := ⟨fun _ => rfl⟩

instance (lib : CtLib σ) : IsTrans (World σ) (FlagKept lib) :=
  ⟨fun _ _ _ first second => Eq.trans second first⟩

theorem of_call (constant : cfg.lib.FlagConstant) (world : World σ) (site : Site) (call : CtCall) :
    FlagKept cfg.lib world (world.answered cfg.lib site call) := by
  rw [FlagKept, answered_env, CtLib.reply]
  split
  · rfl
  · exact constant call world.env

theorem stable (constant : cfg.lib.FlagConstant) : Stable cfg (FlagKept cfg.lib) StopsAnyhow where
  raise _ _ _ := rfl
  discard _ := rfl
  halts _ _ _ := trivial
  call world site call _ _ := of_call constant world site call
  record _ _ _ := rfl
  commands _ _ _ _ _ _ _ := rfl
  connection _ _ _ _ _ _ := rfl
  statements _ _ _ := rfl
  terminated _ _ _ := trivial
  loudCall world site call _ := of_call constant world site call
  loudRecord _ _ _ := rfl
  nested keeps world := (Sybase.wp_nested _).mpr (keeps { world with depth := world.depth + 1 })

theorem keeps_closeAndReconnect (constant : cfg.lib.FlagConstant) (bound : Nat) (cmd : CommandId)
    (tryReconnect : Bool) : Keeps (FlagKept cfg.lib) StopsAnyhow
      (closeAndReconnect cfg bound cmd tryReconnect) :=
  (stable constant).keeps_closeAndReconnect
    (fun tryReconnect reconnects =>
      (stable constant).keeps_reopenConnection (fun _ => rfl) reconnects tryReconnect)
    bound cmd tryReconnect

end FlagKept

/-! ### Reconnecting -/

/-- A reconnect makes two steps; it returns 0 only to a request that retries, and only outside a
transaction. -/
theorem wp_closeAndReconnect (cfg : Config σ) (bound : Nat) (cmd : CommandId)
    (tryReconnect : Bool) (world : World σ) :
    wp (closeAndReconnect cfg bound cmd tryReconnect)
      (fun result after => Runs world [.lost tryReconnect, .reconnected result] after ∧
        (result = 0 → cfg.lib.activeTransaction after.env = false))
      (fun _ after => Runs world [.lost tryReconnect] after)
      (fun _ after => Runs world [] after ∨ Runs world [.lost tryReconnect] after) world := by
  cases bound with
  | zero => exact .inl (Runs.refl world)
  | succ bound =>
    have quiet := Silent.quietStable cfg
    have encoding := (Extends.stable cfg).sessionStable.keeps_setEncoding
      (fun _ => Extends.of_eq rfl rfl) fun query args singleRow =>
        (Extends.stable cfg).keeps_execReadOutput (Extends.keeps_closeAndReconnect cfg bound)
          query args true true false singleRow
    have init := Silent.wp_nested ((Extends.stable cfg).sessionStable.keeps_init encoding)
    have lost : Runs world [.lost tryReconnect] (world.record .other (.lost tryReconnect)) :=
      Runs.of_record world (.lost tryReconnect)
    have finished : ∀ (result : Int) (state : World σ), Runs world [.lost tryReconnect] state →
        Runs world [.lost tryReconnect, .reconnected result]
          (state.record .other (.reconnected result)) :=
      fun result state ran => ran.trans (Runs.of_record state (.reconnected result))
    rw [closeAndReconnect, wp_bind, wp_modify, wp_bind]
    refine wp_mono (quiet.closeStable.keeps_closeConnection cmd _) (fun _ closed close => ?_)
      (fun _ _ kept => lost.trans kept) fun _ _ halted =>
        .inr (lost.trans (Silent.of_halted halted))
    have first := lost.trans close
    rw [wp_bind, reopenConnection, wp_bind]
    refine wp_mono (init closed) (fun failed opened open' => ?_)
      (fun _ _ kept => first.trans kept) fun _ _ kept => .inr (first.trans kept)
    have second := first.trans open'
    split
    · exact ⟨finished (-1) _ (second.trans (.of_eq rfl rfl)), fun zero => absurd zero (by decide)⟩
    · rw [wp_bind, wasInTransaction, wp_bind, wp_get, wp_pure]
      split
      · exact ⟨finished (-1) _ second, fun zero => absurd zero (by decide)⟩
      · rename_i retry
        refine ⟨finished 0 _ (second.trans (.of_eq rfl rfl)), fun _ => ?_⟩
        cases flag : cfg.lib.activeTransaction opened.env with
        | true => exact absurd (by rw [flag, Bool.or_true]) retry
        | false => exact flag

/-! ### Sending -/

/-- The steps of a send that did not lead to a command that was sent, or the first of them: the
connection was up, or it was down and the request reconnected. -/
def Attempt (trace : List Step) : Prop :=
  trace <+: [.send false, .ping true] ∨
    ∃ result, trace <+: [.send false, .ping false, .lost true, .reconnected result]

/-- The steps of a send that is tried again. -/
def retrySteps : List Step := [.send false, .ping false, .lost true, .reconnected 0]

/-- Some sends that are tried again, which is allowed or not, and then some last steps. -/
inductive Retried (mayRetry : Prop) (last : List Step → Prop) : List Step → Prop where
  | last {trace : List Step} (isLast : last trace) : Retried mayRetry last trace
  | retry {trace : List Step} (allowed : mayRetry) (rest : Retried mayRetry last trace) :
      Retried mayRetry last (retrySteps ++ trace)

theorem Retried.mono {mayRetry : Prop} {last last' : List Step → Prop} {trace : List Step}
    (retried : Retried mayRetry last trace) (weaken : ∀ trace, last trace → last' trace) :
    Retried mayRetry last' trace := by
  induction retried with
  | last isLast => exact .last (weaken _ isLast)
  | retry allowed rest inductionHypothesis => exact .retry allowed inductionHypothesis

/-- Further steps after the last ones. -/
theorem Retried.append {mayRetry : Prop} {last last' : List Step → Prop} {trace more : List Step}
    (retried : Retried mayRetry last trace) (extend : ∀ trace, last trace → last' (trace ++ more)) :
    Retried mayRetry last' (trace ++ more) := by
  induction retried with
  | last isLast => exact .last (extend _ isLast)
  | retry allowed rest inductionHypothesis =>
    rw [List.append_assoc]
    exact .retry allowed inductionHypothesis

theorem wp_send (id : CommandId) (world : World σ) :
    wp (Command.send cfg id) (fun _ after => Runs world [.send true] after)
      (fun _ after => Runs world [.send false] after) (fun _ after => Runs world [] after)
        world := by
  rw [Command.send, wp_bind, wp_getCommand]
  refine ⟨fun cmd _ => ?_, fun _ => Runs.refl world⟩
  have sent := Runs.of_call cfg world .other (.send cmd.mCmd)
  rw [wp_bind, wp_ctCall, wp_when, wp_doException]
  refine ⟨fun failed => ?_, fun succeeded => ?_⟩
  · rw [Event.step?, decide_eq_false failed] at sent
    exact sent.trans (.of_eq rfl rfl)
  · rw [Event.step?, decide_eq_true (not_not.mp succeeded)] at sent
    exact sent

/-- Sending a command: it is sent, or is to be set up again, or neither. -/
theorem wp_sendOrReconnect (constant : cfg.lib.FlagConstant) (bound : Nat) (id : CommandId)
    (world : World σ) :
    wp (sendOrReconnect cfg (closeAndReconnect cfg bound) id)
      (fun sent after => if sent then Runs world [.send true] after
        else Runs world retrySteps after ∧ cfg.lib.activeTransaction world.env = false)
      (fun _ after => ∃ trace, Attempt trace ∧ Runs world trace after)
      (fun _ after => ∃ trace, Attempt trace ∧ Runs world trace after) world := by
  have flag := (FlagKept.stable constant).requestStable.toSendStable.keeps_sendOrReconnect
    (FlagKept.keeps_closeAndReconnect constant bound) id
  have ends : wp (sendOrReconnect cfg (closeAndReconnect cfg bound) id)
      (fun sent after => if sent then Runs world [.send true] after
        else Runs world retrySteps after ∧ cfg.lib.activeTransaction after.env = false)
      (fun _ after => ∃ trace, Attempt trace ∧ Runs world trace after)
      (fun _ after => ∃ trace, Attempt trace ∧ Runs world trace after) world := by
    rw [sendOrReconnect, wp_tryCatch, wp_bind]
    refine wp_mono (wp_send id world) (fun _ after sent => sent) (fun error failed sent => ?_)
      fun _ after ran => ⟨[], .inl List.nil_prefix, ran⟩
    rw [wp_bind, ping, wp_bind, wp_ctCall, wp_pure]
    have pinged := sent.trans (Runs.of_call cfg failed .other .conStatus)
    split
    · rename_i up
      rw [Event.step?, up] at pinged
      exact ⟨_, .inl List.prefix_rfl, pinged⟩
    · rename_i down
      rw [Event.step?, Bool.eq_false_iff.mpr down] at pinged
      have attempt : ∀ trace, trace <+: [.lost true, .reconnected 0] →
          Attempt ([.send false, .ping false] ++ trace) := fun trace isPrefix =>
        .inr ⟨0, (List.prefix_append_right_inj _).mpr isPrefix⟩
      rw [wp_bind]
      refine wp_mono (wp_closeAndReconnect cfg bound id true _) (fun result after ran => ?_)
        (fun _ _ ran => ⟨_, attempt [.lost true] (by simp), pinged.trans ran⟩) ?_
      · split
        · exact ⟨_, .inr ⟨result, List.prefix_rfl⟩, pinged.trans ran.1⟩
        · rename_i zero
          obtain rfl := not_not.mp zero
          exact ⟨pinged.trans ran.1, ran.2 rfl⟩
      · rintro _ after (ran | ran)
        · exact ⟨_, attempt [] List.nil_prefix, pinged.trans ran⟩
        · exact ⟨_, attempt [.lost true] (by simp), pinged.trans ran⟩
  refine wp_mono (flag.wp_and ends) (fun sent after both => ?_) (fun _ _ both => both.2)
    fun _ _ both => both.2
  cases sent with
  | true => exact both.2
  | false => exact ⟨both.2.1, both.1 ▸ both.2.2⟩

/-- One pass of `setupCommand`: the command is sent, or set up again, or neither. -/
theorem wp_setupCommandOnce (constant : cfg.lib.FlagConstant) (bound : Nat) (cmdText : Text)
    (args : Option (List QoreValue)) (raw : Bool) (world : World σ) :
    wp (setupCommandOnce cfg (closeAndReconnect cfg bound) cmdText args raw)
      (fun result after => match result with
        | .inl _ => Runs world retrySteps after ∧ cfg.lib.activeTransaction world.env = false
        | .inr none => Runs world [] after
        | .inr (some _) => Runs world [.send true] after)
      (fun _ after => ∃ trace, Attempt trace ∧ Runs world trace after)
      (fun _ after => ∃ trace, Attempt trace ∧ Runs world trace after) world := by
  have quiet := (Silent.quietStable cfg).both (FlagKept.stable constant).toQuietStable
  have silent : ∀ {after}, Runs world [] after → ∃ trace, Attempt trace ∧ Runs world trace after :=
    fun ran => ⟨[], .inl List.nil_prefix, ran⟩
  rw [setupCommandOnce, wp_bind]
  refine wp_mono (quiet.keeps_initQuery cmdText args raw world) (fun query first kept => ?_)
    (fun _ _ kept => silent kept.1) fun _ _ halted => silent (Silent.of_halted_both halted)
  cases query with
  | none => exact kept.1
  | some query =>
    rw [wp_bind]
    refine wp_mono (keeps_after kept quiet.keeps_create) (fun cmd created kept => ?_)
      (fun _ _ kept => silent kept.1) fun _ _ halted => silent (Silent.of_halted_both halted)
    rw [wp_bind, wp_onThrow, wp_bind]
    have destroyed : ∀ {trace state}, Attempt trace → Runs world trace state →
        wp (Command.destroy cfg cmd) (fun _ after => ∃ trace, Attempt trace ∧
          Runs world trace after)
          (fun _ after => ∃ trace, Attempt trace ∧ Runs world trace after)
          (fun _ after => ∃ trace, Attempt trace ∧ Runs world trace after) state :=
      fun attempt ran => wp_mono (((Silent.quietStable cfg).destroyStable cmd).keeps_destroy _)
        (fun _ _ silent => ⟨_, attempt, by simpa using ran.trans silent⟩)
        (fun _ _ silent => ⟨_, attempt, by simpa using ran.trans silent⟩)
        fun _ _ halted => ⟨_, attempt, by simpa using ran.trans (Silent.of_halted halted)⟩
    refine wp_mono (keeps_after kept ((quiet.bindStable cmd).keeps_bindQuery query args))
      (fun _ bound' kept => ?_)
      (fun _ _ kept => destroyed (.inl List.nil_prefix) kept.1)
      fun _ _ halted => silent (Silent.of_halted_both halted)
    refine wp_mono (wp_sendOrReconnect constant bound cmd bound') (fun sent after ran => ?_)
      (fun _ _ ⟨trace, attempt, ran⟩ => destroyed attempt (kept.1.trans ran))
      fun _ _ ⟨trace, attempt, ran⟩ => ⟨trace, attempt, kept.1.trans ran⟩
    cases sent with
    | true => exact kept.1.trans ran
    | false =>
      have retried : Runs world retrySteps after := kept.1.trans ran.1
      have flag : cfg.lib.activeTransaction world.env = false := kept.2 ▸ ran.2
      have attempt : Attempt retrySteps := .inr ⟨0, List.prefix_rfl⟩
      rw [if_neg Bool.false_ne_true, wp_bind]
      refine wp_mono (Program.wp_and (destroyed attempt retried)
        (((Silent.quietStable cfg).destroyStable cmd).keeps_destroy after)) (fun _ _ both =>
          ⟨?_, flag⟩)
        (fun _ _ both => both.1) fun _ _ both => both.1
      simpa using retried.trans both.2

/-- The steps of `setupCommand` when it returns: the command was sent, or there is none. -/
def SetUp (sent : Bool) (trace : List Step) : Prop := trace = if sent then [.send true] else []

/-- Setting up a command: it is sent once, after some sends that are tried again. -/
theorem wp_setupCommand (constant : cfg.lib.FlagConstant) (bound : Nat) (cmdText : Text)
    (args : Option (List QoreValue)) (raw : Bool) (world : World σ) :
    wp (setupCommand cfg (closeAndReconnect cfg bound) cmdText args raw)
      (fun cmd after => ∃ trace, Runs world trace after ∧
        Retried (cfg.lib.activeTransaction world.env = false) (SetUp cmd.isSome) trace)
      (fun _ after => ∃ trace, Runs world trace after ∧
        Retried (cfg.lib.activeTransaction world.env = false) Attempt trace)
      (fun _ after => ∃ trace, Runs world trace after ∧
        Retried (cfg.lib.activeTransaction world.env = false) Attempt trace) world := by
  have reconnects := FlagKept.keeps_closeAndReconnect constant bound
  rw [setupCommand]
  generalize cfg.fuel = fuel
  induction fuel generalizing world with
  | zero => exact ⟨[], Runs.refl world, .last (.inl List.nil_prefix)⟩
  | succ fuel inductionHypothesis =>
    refine wp_iterate_succ.mpr (wp_mono
      (((FlagKept.stable constant).requestStable.toSendStable.keeps_setupCommandOnce reconnects
        cmdText args raw).wp_and (wp_setupCommandOnce constant bound cmdText args raw world)) ?_
      (fun _ _ ⟨_, trace, attempt, ran⟩ => ⟨trace, ran, .last attempt⟩)
      fun _ _ ⟨_, trace, attempt, ran⟩ => ⟨trace, ran, .last attempt⟩)
    rintro (again | cmd) after ⟨flag, post⟩
    · have allowed : cfg.lib.activeTransaction world.env = false := post.2
      have further : ∀ {last trace final}, Runs after trace final →
          Retried (cfg.lib.activeTransaction after.env = false) last trace →
            Runs world (retrySteps ++ trace) final ∧
              Retried (cfg.lib.activeTransaction world.env = false) last (retrySteps ++ trace) :=
        fun ran retried => ⟨post.1.trans ran, .retry allowed (flag ▸ retried)⟩
      exact wp_mono (inductionHypothesis after)
        (fun _ _ ⟨_, ran, retried⟩ => ⟨_, further ran retried⟩)
        (fun _ _ ⟨_, ran, retried⟩ => ⟨_, further ran retried⟩)
        fun _ _ ⟨_, ran, retried⟩ => ⟨_, further ran retried⟩
    · cases cmd with
      | none => exact ⟨_, post, .last rfl⟩
      | some cmd => exact ⟨_, post, .last rfl⟩

/-! ### Reading -/

/-- The steps of a reconnect. -/
def Step.isReconnect : Step → Bool
  | lost _ | reconnected _ => true
  | _ => false

/-- Nothing is sent in these steps, and there is no ping. -/
def NoSend (trace : List Step) : Prop := ∀ step ∈ trace, step.isReconnect = true

/-- Reading: nothing is sent, and when a loss was found, an exception is pending. -/
def ReadsOn (world after : World σ) : Prop :=
  SinkKept world after ∧ ∃ trace, Runs world trace after ∧ NoSend trace ∧
    ∀ tryReconnect, .lost tryReconnect ∈ trace → after.xsink ≠ []

/-- The process stops, and nothing is sent. -/
def StopsUnsent (_ : Halt) (last after : World σ) : Prop := ∃ trace, Runs last trace after ∧
    NoSend trace

namespace ReadsOn

theorem of_silent (kept : SinkKept world after) (silent : Silent world after) :
    ReadsOn world after :=
  ⟨kept, [], silent, fun _ member => absurd member List.not_mem_nil,
    fun _ member => absurd member List.not_mem_nil⟩

instance : Std.Refl (ReadsOn (σ := σ)) := ⟨fun world => of_silent id (Runs.refl world)⟩

theorem trans (first : ReadsOn world middle) (second : ReadsOn middle after) :
    ReadsOn world after := by
  obtain ⟨kept, trace, ran, unsent, raised⟩ := first
  obtain ⟨kept', trace', ran', unsent', raised'⟩ := second
  refine ⟨fun pending => kept' (kept pending), trace ++ trace', ran.trans ran',
    fun sent member => ?_, fun tryReconnect member => ?_⟩
  · exact (List.mem_append.mp member).elim (unsent sent) (unsent' sent)
  · exact (List.mem_append.mp member).elim (fun earlier => kept' (raised _ earlier)) (raised' _)

instance : IsTrans (World σ) ReadsOn := ⟨fun _ _ _ => trans⟩

theorem quietStable (cfg : Config σ) : QuietStable cfg ReadsOn StopsUnsent where
  raise _ _ _ := of_silent (fun _ => List.cons_ne_nil _ _) (.of_eq rfl rfl)
  discard _ := of_silent id (.of_eq rfl rfl)
  halts world _ _ := ⟨[], Runs.refl world, fun _ member => absurd member List.not_mem_nil⟩
  call _ site _ quiet _ := of_silent id (Silent.of_call site quiet)
  record world event quiet := of_silent id ((Silent.quietStable cfg).record world event quiet)
  commands _ _ _ _ _ _ _ := of_silent id (.of_eq rfl rfl)
  connection _ _ _ _ _ _ := of_silent id (.of_eq rfl rfl)
  statements _ _ _ := of_silent id (.of_eq rfl rfl)
  terminated _ _ _ :=
    ⟨[], Silent.of_call .clear rfl, fun _ member => absurd member List.not_mem_nil⟩

end ReadsOn

theorem wp_readNextResult1_disconnect (id : CommandId) {disconnect : Bool}
    (pending : disconnect = true → world.xsink ≠ []) :
    wp (Command.readNextResult1 cfg id disconnect)
      (fun result after => result.2 = true → after.xsink ≠ [])
      (fun _ _ => True) (fun _ _ => True) world := by
  rw [Command.readNextResult1, wp_bind, wp_isException]
  split
  · exact pending
  · rename_i quiet
    have unchanged : disconnect = false := Bool.eq_false_iff.mpr fun lost =>
      quiet (by rw [List.isEmpty_eq_false_iff.mpr (pending lost)]; rfl)
    subst unchanged
    rw [wp_bind, wp_getCommand]
    refine ⟨fun cmd _ => ?_, fun _ => trivial⟩
    split
    · exact nofun
    · rw [wp_bind, wp_ctCall]
      split
      · exact nofun
      · -- the connection is given up only where the cancel failed, and then an exception is raised
        rw [wp_bind]
        refine wp_mono_ok (wp_trivial _ _) fun failed after _ => ?_
        rw [wp_bind, wp_raiseException]
        exact fun _ => List.cons_ne_nil _ _
      · rw [wp_bind]
        exact wp_mono_ok (wp_trivial _ _) fun _ _ _ => nofun
      · rw [wp_bind, wp_doException]
        trivial

/-- Reading the results of a command asks for a reconnect only with an exception pending. -/
theorem wp_readNextResult_disconnect (id : CommandId) (world : World σ) :
    wp (Command.readNextResult cfg id) (fun result after => result.2 = true → after.xsink ≠ [])
      (fun _ _ => True) (fun _ _ => True) world := by
  refine wp_iterate (fun disconnect world => disconnect = true → world.xsink ≠ [])
    (fun _ _ _ => trivial) (fun disconnect world pending => ?_) _ false world nofun
  rw [wp_bind]
  refine wp_mono_ok (wp_readNextResult1_disconnect id pending) fun ⟨res, lost⟩ after pending => ?_
  rw [wp_bind, wp_modifyCommand]
  split
  · exact pending
  · exact pending

theorem keeps_readsOn_readNextResult (cfg : Config σ) (bound : Nat) (cmd : CommandId) :
    Keeps ReadsOn StopsUnsent (readNextResult cfg (closeAndReconnect cfg bound) cmd) := by
  refine keeps_bind keeps_isException fun raised => ?_
  split
  · exact keeps_pure _
  · intro world
    rw [wp_bind]
    refine wp_mono (((ReadsOn.quietStable cfg).readingStable cmd).keeps_readNextResult.wp_and
      (wp_readNextResult_disconnect cmd world)) (fun ⟨rc, disconnect⟩ read both => ?_)
      (fun _ _ both => both.1) fun _ _ both => both.1
    cases disconnect with
    | false => exact both.1
    | true =>
      have pending := both.2 rfl
      have unsent : ∀ steps : List Step, NoSend (.lost false :: steps) ↔ NoSend steps :=
        fun steps =>
        List.forall_mem_cons.trans (and_iff_right rfl)
      have none : NoSend [] := fun _ member => absurd member List.not_mem_nil
      dsimp only
      rw [if_pos rfl, wp_bind]
      refine wp_mono ((SinkKept.keeps_closeAndReconnect cfg bound cmd false).wp_and
        (wp_closeAndReconnect cfg bound cmd false read)) (fun result after both' => ?_)
        (fun _ after both' => ?_) fun _ after both' => ?_
      · refine both.1.trans ⟨both'.1, _, both'.2.1, (unsent _).mpr ?_, fun _ _ => both'.1 pending⟩
        exact fun step member => by rw [List.mem_singleton.mp member]; rfl
      · exact both.1.trans ⟨both'.1, _, both'.2, (unsent _).mpr none, fun _ _ => both'.1 pending⟩
      · refine ⟨read, both.1, ?_⟩
        rcases both'.2 with ran | ran
        · exact ⟨_, ran, none⟩
        · exact ⟨_, ran, (unsent _).mpr none⟩

/-! ### Requests -/

/-- A request that returned: sends that are tried again, then at most one send, which succeeded, and
then reading; when a loss was found while reading, an exception is pending. -/
def Returned (cfg : Config σ) (world after : World σ) : Prop :=
  ∃ sent setUp reads, Runs world (setUp ++ reads) after ∧
    Retried (cfg.lib.activeTransaction world.env = false) (SetUp sent) setUp ∧ NoSend reads ∧
      ∀ tryReconnect, .lost tryReconnect ∈ reads → after.xsink ≠ []

/-- The last steps of a request that did not return: an attempt to send, or a send that succeeded
and reading, or reading without a command. -/
def Finish (trace : List Step) : Prop :=
  Attempt trace ∨ ∃ reads, NoSend reads ∧ (trace = reads ∨ trace = .send true :: reads)

/-- A request that did not return. -/
def Failed (cfg : Config σ) (world after : World σ) : Prop :=
  ∃ trace, Runs world trace after ∧
    Retried (cfg.lib.activeTransaction world.env = false) Finish trace

theorem Failed.of_silent (silent : Silent world after) : Failed cfg world after :=
  ⟨[], silent, .last (.inl (.inl List.nil_prefix))⟩

theorem Returned.of_silent (silent : Silent world after) : Returned cfg world after :=
  ⟨false, [], [], silent, .last rfl, fun _ member => absurd member List.not_mem_nil,
    fun _ member => absurd member List.not_mem_nil⟩

/-- The steps that follow when a command was set up. -/
theorem SetUp.finish {sent : Bool} {reads : List Step} (unsent : NoSend reads) :
    ∀ trace, SetUp sent trace → Finish (trace ++ reads) := by
  rintro _ rfl
  cases sent with
  | false => exact .inr ⟨reads, unsent, .inl rfl⟩
  | true => exact .inr ⟨reads, unsent, .inr rfl⟩

/-- Setting up a command, and then reading. -/
theorem wp_setupCommand_then (constant : cfg.lib.FlagConstant) (bound : Nat) (cmdText : Text)
    (args : Option (List QoreValue)) (raw : Bool) {α : Type} {next : Option CommandId → Driver σ α}
    (reads : ∀ cmd, Keeps ReadsOn StopsUnsent (next cmd))
    (kept : Both Silent (FlagKept cfg.lib) world middle) :
    wp (setupCommand cfg (closeAndReconnect cfg bound) cmdText args raw >>= next)
      (fun _ after => Returned cfg world after) (fun _ after => Failed cfg world after)
      (fun _ after => Failed cfg world after) middle := by
  obtain ⟨silent, flag⟩ := kept
  have same : (cfg.lib.activeTransaction middle.env = false) =
      (cfg.lib.activeTransaction world.env = false) := by rw [flag]
  have failed : ∀ {after : World σ}, (∃ trace, Runs middle trace after ∧
      Retried (cfg.lib.activeTransaction middle.env = false) Attempt trace) →
        Failed cfg world after := by
    rintro after ⟨trace, ran, retried⟩
    exact ⟨trace, silent.trans ran, (same ▸ retried).mono fun _ => .inl⟩
  rw [wp_bind]
  refine wp_mono (wp_setupCommand constant bound cmdText args raw middle) ?_
    (fun _ _ => failed) fun _ _ => failed
  rintro cmd setUp ⟨trace, ran, retried⟩
  have ran := silent.trans ran
  refine wp_mono (reads cmd setUp) ?_ ?_ ?_
  · rintro _ after ⟨-, more, ran', unsent, raised⟩
    exact ⟨cmd.isSome, trace, more, ran.trans ran', same ▸ retried, unsent, raised⟩
  · rintro _ after ⟨-, more, ran', unsent, -⟩
    exact ⟨trace ++ more, ran.trans ran', (same ▸ retried).append (SetUp.finish unsent)⟩
  · rintro _ after ⟨last, ⟨-, more, ran', unsent, -⟩, more', ran'', unsent'⟩
    refine ⟨trace ++ (more ++ more'), ran.trans (ran'.trans ran''),
      (same ▸ retried).append (SetUp.finish fun sent member => ?_)⟩
    exact (List.mem_append.mp member).elim (unsent sent) (unsent' sent)

theorem wp_execReadOutput_sends (constant : cfg.lib.FlagConstant) (bound : Nat) (cmdText : Text)
    (args : Option (List QoreValue)) (needList doBinding cols singleRow : Bool)
    (world : World σ) :
    wp (execReadOutput cfg (closeAndReconnect cfg bound) cmdText args needList doBinding cols
        singleRow) (fun _ after => Returned cfg world after) (fun _ after => Failed cfg world after)
      (fun _ after => Failed cfg world after) world := by
  have quiet := (Silent.quietStable cfg).both (FlagKept.stable constant).toQuietStable
  rw [execReadOutput, wp_bind]
  refine wp_mono (quiet.closeStable.keeps_invalidateStatement world) (fun _ _ kept => ?_)
    (fun _ _ kept => .of_silent kept.1) fun _ _ halted => .of_silent (Silent.of_halted_both halted)
  exact wp_setupCommand_then constant bound _ _ _ (fun cmd =>
    (ReadsOn.quietStable cfg).frameStable.keeps_readOutputAndDestroy
      (keeps_readsOn_readNextResult cfg bound) cmd _ _ _) kept

theorem wp_exec_sends (constant : cfg.lib.FlagConstant) (bound : Nat) (statement : StatementId)
    (query : Option Text) (args : Option (List QoreValue)) (raw : Bool) (world : World σ) :
    wp (Statement.exec cfg (closeAndReconnect cfg bound) statement query args raw)
      (fun _ after => Returned cfg world after) (fun _ after => Failed cfg world after)
      (fun _ after => Failed cfg world after) world := by
  have quiet := (Silent.quietStable cfg).both (FlagKept.stable constant).toQuietStable
  have reading := ReadsOn.quietStable cfg
  have halts : ∀ {reason : Halt} {after : World σ},
      Halted (Both Silent (FlagKept cfg.lib)) (StopsBoth StopsSilently StopsAnyhow) world reason
        after → Failed cfg world after :=
    fun halted => .of_silent (Silent.of_halted_both halted)
  unfold Statement.exec
  rw [wp_bind]
  refine wp_mono (quiet.keeps_checkValid statement world) (fun invalid checked kept => ?_)
    (fun _ _ kept => .of_silent kept.1) fun _ _ halted => halts halted
  split
  · exact Returned.of_silent kept.1
  · rw [wp_bind]
    refine wp_mono (keeps_after kept (quiet.frameStable.keeps_cancelContext statement))
      (fun _ canceled kept => ?_) (fun _ _ kept => .of_silent kept.1) fun _ _ halted => halts halted
    rw [wp_bind]
    refine wp_mono (keeps_after kept quiet.keeps_checkOpen) (fun _ opened kept => ?_)
      (fun _ _ kept => .of_silent kept.1) fun _ _ halted => halts halted
    cases query with
    | none => exact .of_silent kept.1
    | some query =>
      refine wp_setupCommand_then constant bound query args raw (fun cmd => ?_) kept
      refine keeps_bind (reading.frameStable.keeps_resetContext statement cmd) fun _ => ?_
      refine keeps_bind keeps_isException fun raised => ?_
      split
      · exact keeps_pure _
      · refine keeps_bind (reading.frameStable.keeps_readNextResultOf
          (keeps_readsOn_readNextResult cfg bound) cmd)
          fun _ => ?_
        refine keeps_bind keeps_isException fun raised => ?_
        split
        · exact keeps_pure _
        · exact keeps_pure _

/-! ### At most one send that succeeds -/

/-- What the steps of a request say about its sends: after one that succeeds there is none; a second
one follows only a send that failed, a connection found down and a reconnect that succeeded, outside
a transaction; and when the connection is lost in a transaction, there is no second send, and the
request fails. -/
structure SentOnce (inTransaction : Bool) (trace : List Step) (fails : Prop) : Prop where
  afterSuccess : ∀ before later, trace = before ++ .send true :: later →
    ∀ succeeded, .send succeeded ∉ later
  resend : ∀ before succeeded later, trace = before ++ .send succeeded :: later →
    (∃ earlier, .send earlier ∈ before) →
      (∃ start, before = start ++ [.send false, .ping false, .lost true, .reconnected 0]) ∧
        inTransaction = false
  transaction : inTransaction = true → (.ping false ∈ trace ∨ ∃ retry, .lost retry ∈ trace) →
    (∀ before succeeded later, trace = before ++ .send succeeded :: later →
      ∀ earlier, .send earlier ∉ before) ∧ fails

theorem NoSend.notMem {trace : List Step} (unsent : NoSend trace) {step : Step}
    (other : step.isReconnect = false) : step ∉ trace := fun member => by
  rw [unsent step member] at other
  exact Bool.noConfusion other

/-- In the last steps of a request only the first may be a send. -/
theorem Finish.notMem_tail {trace : List Step} (finish : Finish trace) (succeeded : Bool) :
    .send succeeded ∉ trace.tail := by
  have ofPrefix : ∀ steps : List Step, trace <+: .send false :: steps →
      .send succeeded ∉ steps → .send succeeded ∉ trace.tail := by
    intro steps isPrefix absent member
    cases trace with
    | nil => exact List.not_mem_nil member
    | cons step rest => exact absent ((List.cons_prefix_cons.mp isPrefix).2.subset member)
  rcases finish with (isPrefix | ⟨result, isPrefix⟩) | ⟨reads, unsent, rfl | rfl⟩
  · exact ofPrefix _ isPrefix (by simp)
  · exact ofPrefix _ isPrefix (by simp)
  · exact fun member => unsent.notMem rfl (List.mem_of_mem_tail member)
  · exact unsent.notMem rfl

/-- A send is the first one, or it follows one that is tried again; after one that succeeds there is
none. -/
theorem Retried.send {mayRetry : Prop} {trace : List Step} (retried : Retried mayRetry Finish trace)
    {before later : List Step} {succeeded : Bool}
    (split : trace = before ++ .send succeeded :: later) :
    (before = [] ∨ mayRetry ∧ ∃ start, before = start ++ retrySteps) ∧
      (succeeded = true → ∀ again, .send again ∉ later) := by
  induction retried generalizing before with
  | last isLast =>
    subst split
    cases before with
    | nil => exact ⟨.inl rfl, fun _ => isLast.notMem_tail⟩
    | cons first rest =>
      exact absurd (List.mem_append_right rest List.mem_cons_self) (isLast.notMem_tail succeeded)
  | @retry trace allowed rest inductionHypothesis =>
    cases before with
    | nil =>
      obtain rfl : false = succeeded := Step.send.inj (List.cons.inj split).1
      exact ⟨.inl rfl, nofun⟩
    | cons first before =>
      obtain ⟨rfl, inTail⟩ := List.cons.inj split
      have inTail : retrySteps.tail ++ trace = before ++ .send succeeded :: later := inTail
      -- the steps of the retry hold no other send, so the send is one of the rest
      have ofRest : ∀ more, before = retrySteps.tail ++ more →
          (more = [] ∨ mayRetry ∧ ∃ start, more = start ++ retrySteps) →
            ∃ start, .send false :: before = start ++ retrySteps := by
        rintro more rfl (rfl | ⟨-, start, rfl⟩)
        · exact ⟨[], rfl⟩
        · exact ⟨retrySteps ++ start, by rw [List.append_assoc]; rfl⟩
      rcases List.append_eq_append_iff.mp inTail with ⟨more, same, split⟩ | ⟨more, same, split⟩
      · obtain ⟨place, after⟩ := inductionHypothesis split
        exact ⟨.inr ⟨allowed, ofRest more same place⟩, after⟩
      · cases more with
        | nil =>
          have whole : before = retrySteps.tail ++ [] := by
            rw [same, List.append_nil, List.append_nil]
          exact ⟨.inr ⟨allowed, ofRest [] whole (.inl rfl)⟩,
            (@inductionHypothesis [] split.symm).2⟩
        | cons step more =>
          have inside : Step.send succeeded ∈ retrySteps.tail := by
            rw [same, (List.cons.inj split).1]
            exact List.mem_append_right before List.mem_cons_self
          exact absurd inside (by simp [retrySteps])

/-- Without a retry, the steps of a request are the last ones. -/
theorem Retried.isLast {mayRetry : Prop} {last : List Step → Prop} {trace : List Step}
    (retried : Retried mayRetry last trace) (noRetry : ¬mayRetry) : last trace := by
  cases retried with
  | last isLast => exact isLast
  | retry allowed rest => exact absurd allowed noRetry

/-- A call ends in an error: an exception of the driver leaves it, or it returns with one
pending. -/
def EndsInError {α : Type} (ended : Outcome Error Halt α × World σ) : Prop :=
  match ended.1 with
  | .ok _ => ended.2.xsink ≠ []
  | .throw _ => True
  | .halt _ => False

/-- The connection was lost in a transaction. -/
def LostInside (inTransaction : Bool) (trace : List Step) : Prop :=
  inTransaction = true ∧ (.ping false ∈ trace ∨ ∃ retry, .lost retry ∈ trace)

/-- Is an outcome a halt? -/
def isHalt {α : Type} : Outcome Error Halt α → Bool
  | .halt _ => true
  | _ => false

/-- The process stopped: an `assert` failed, an exception left a destructor, or the call did not
come to an end that is defined. -/
def Stops {α : Type} (ended : Outcome Error Halt α × World σ) : Prop := isHalt ended.1 = true

theorem not_endsInError_of_stops {α : Type} {ended : Outcome Error Halt α × World σ}
    (stops : Stops ended) : ¬EndsInError ended := by
  obtain ⟨outcome, after⟩ := ended
  cases outcome with
  | halt reason => exact id
  | ok value => cases stops
  | throw error => cases stops

/-- The steps of a request that does not stop the process after a loss in a transaction. -/
theorem sentOnce_of_retried {inTransaction : Bool} {trace : List Step} {fails : Prop}
    (retried : Retried (inTransaction = false) Finish trace)
    (ends : LostInside inTransaction trace → fails) : SentOnce inTransaction trace fails where
  afterSuccess _ _ split := (retried.send split).2 rfl
  resend before _ _ split again := by
    obtain ⟨earlier, member⟩ := again
    rcases (retried.send split).1 with rfl | ⟨outside, start, same⟩
    · exact absurd member List.not_mem_nil
    · exact ⟨⟨start, same⟩, outside⟩
  transaction inside lost := by
    refine ⟨fun before _ _ split earlier member => ?_, ends ⟨inside, lost⟩⟩
    rcases (retried.send split).1 with rfl | ⟨outside, -⟩
    · exact absurd member List.not_mem_nil
    · exact Bool.noConfusion (inside.symm.trans outside)

/-- The steps of a request whose sends are as they should be, and which keeps its promise about a
transaction if and only if it does not stop the process after a loss in it. -/
structure Accounted {α : Type} (inTransaction : Bool) (trace : List Step)
    (ended : Outcome Error Halt α × World σ) : Prop where
  atMostOnce : SentOnce inTransaction trace (EndsInError ended ∨ Stops ended)
  sentOnce_iff : SentOnce inTransaction trace (EndsInError ended) ↔
    ¬(LostInside inTransaction trace ∧ Stops ended)

theorem accounted_of_retried {α : Type} {inTransaction : Bool} {trace : List Step}
    {ended : Outcome Error Halt α × World σ}
    (retried : Retried (inTransaction = false) Finish trace)
    (ends : LostInside inTransaction trace → EndsInError ended ∨ Stops ended) :
    Accounted inTransaction trace ended where
  atMostOnce := sentOnce_of_retried retried ends
  sentOnce_iff := by
    refine ⟨?_, fun goesOn => sentOnce_of_retried retried fun lost => ?_⟩
    · rintro once ⟨⟨inside, lost⟩, stopped⟩
      exact not_endsInError_of_stops stopped (once.transaction inside lost).2
    · exact (ends lost).resolve_right fun stopped => goesOn ⟨lost, stopped⟩

/-! ### Both kinds of requests -/

/-- A request of the driver: direct SQL, or the execution of a statement. -/
inductive Request where
  | direct (cmdText : Text) (args : Option (List QoreValue))
    (needList doBinding cols singleRow : Bool)
  | execute (statement : StatementId) (query : Option Text) (args : Option (List QoreValue))
    (raw : Bool)

/-- Carry out a request. What it returns is left out. -/
def Request.run (cfg : Config σ) (bound : Nat) : Request → Driver σ Unit
  | direct cmdText args needList doBinding cols singleRow => do
    let _ ← execReadOutput cfg (closeAndReconnect cfg bound) cmdText args needList doBinding cols
      singleRow
    pure ()
  | execute statement query args raw => do
    let _ ← Statement.exec cfg (closeAndReconnect cfg bound) statement query args raw
    pure ()

/-- A request sends its command at most once with success, from its postcondition. -/
theorem accounted_of_wp {α : Type} {program : Driver σ α}
    (ends : wp program (fun _ after => Returned cfg world after)
      (fun _ after => Failed cfg world after) (fun _ after => Failed cfg world after) world) :
    ∃ trace, Runs world trace (program world).2 ∧
      Accounted (cfg.lib.activeTransaction world.env) trace (program world) := by
  unfold wp at ends
  rcases run : program world with ⟨value | error | reason, after⟩ <;> simp only [run] at ends
  · obtain ⟨sent, setUp, reads, ran, retried, unsent, raised⟩ := ends
    refine ⟨setUp ++ reads, ran, accounted_of_retried (retried.append (SetUp.finish unsent)) ?_⟩
    rintro ⟨inside, lost⟩
    have last : SetUp sent setUp := retried.isLast (by simp [inside])
    have setUpSteps : ∀ step ∈ setUp, step = .send true := by
      rw [last]
      cases sent <;> simp
    refine .inl ?_
    rcases lost with down | ⟨retry, lost⟩
    · rcases List.mem_append.mp down with member | member
      · exact Step.noConfusion (setUpSteps _ member)
      · exact absurd member (unsent.notMem rfl)
    · rcases List.mem_append.mp lost with member | member
      · exact Step.noConfusion (setUpSteps _ member)
      · exact raised retry member
  · obtain ⟨trace, ran, retried⟩ := ends
    exact ⟨trace, ran, accounted_of_retried retried fun _ => .inl trivial⟩
  · obtain ⟨trace, ran, retried⟩ := ends
    exact ⟨trace, ran, accounted_of_retried retried fun _ => .inr rfl⟩

/-- A request sends its command at most once with success, sends it again only after a reconnect
outside a transaction, and in a transaction ends in an error after a loss, or stops the process. -/
theorem Request.accounted (constant : cfg.lib.FlagConstant) (bound : Nat) (request : Request)
    (world : World σ) : ∃ trace, Runs world trace (request.run cfg bound world).2 ∧
      Accounted (cfg.lib.activeTransaction world.env) trace (request.run cfg bound world) := by
  refine accounted_of_wp ?_
  cases request with
  | direct =>
    exact (wp_bind _ _).mpr (wp_mono_ok (wp_execReadOutput_sends constant bound _ _ _ _ _ _ world)
      fun _ _ returned => returned)
  | execute => exact (wp_bind _ _).mpr (wp_mono_ok (wp_exec_sends constant bound _ _ _ _ world)
      fun _ _ returned => returned)

end Sybase
