/-
This file proves the rules for reasoning about programs. `wp` says what holds
when a program ends, with one postcondition for each of the three ways to end.
`Keeps` says that every run relates the state before it to the state after it,
however it ends, and halts only as it may; for a preorder it is closed under every
way of putting programs together, so it is proved of a large program by proving it
of the primitives.
-/

import SybaseDriver.Program

namespace Program

variable {σ ε δ α β : Type}

/-- Putting programs together is associative. -/
theorem bind_bind {γ : Type} (program : Program σ ε δ α) (first : α → Program σ ε δ β)
    (second : β → Program σ ε δ γ) :
    program >>= (fun value => first value >>= second) = (program >>= first) >>= second := by
  funext state
  show Program.bind program _ state = Program.bind (Program.bind program first) second state
  unfold Program.bind
  rcases program state with ⟨value | error | reason, after⟩ <;> rfl

/-- A run whose outcome is a return. -/
theorem exists_returned {program : Program σ ε δ α} {state : σ} {test : α → Bool}
    (returns : (program state).1.returns test = true) :
    ∃ value, program state = (.ok value, (program state).2) ∧ test value = true := by
  generalize program state = ended at returns ⊢
  obtain ⟨outcome, after⟩ := ended
  cases outcome with
  | ok value => exact ⟨value, rfl, returns⟩
  | throw error => cases returns
  | halt reason => cases returns

/-- A program goes on after a first part that returns. -/
theorem bind_of_returned {program : Program σ ε δ α} {next : α → Program σ ε δ β} {state middle : σ}
    {value : α} (ran : program state = (.ok value, middle)) :
    (program >>= next) state = next value middle := by
  show Program.bind _ _ _ = _
  rw [Program.bind, ran]

/-- A program ends with the error that its first part throws. -/
theorem bind_of_thrown {program : Program σ ε δ α} {next : α → Program σ ε δ β} {state after : σ}
    {error : ε} (ran : program state = (.throw error, after)) :
    (program >>= next) state = (.throw error, after) := by
  show Program.bind _ _ _ = _
  rw [Program.bind, ran]

/-! ### Postconditions -/

/-- What holds when a program ends: `onOk` of a return, `onThrow` of a throw, `onHalt` of a
halt. -/
def wp (program : Program σ ε δ α) (onOk : α → σ → Prop) (onThrow : ε → σ → Prop)
    (onHalt : δ → σ → Prop) (state : σ) : Prop :=
  match program state with
  | (.ok value, after) => onOk value after
  | (.throw error, after) => onThrow error after
  | (.halt reason, after) => onHalt reason after

section Rules

variable {onOk : α → σ → Prop} {onThrow : ε → σ → Prop} {onHalt : δ → σ → Prop} {state : σ}

@[simp] theorem wp_pure (value : α) :
    wp (pure value : Program σ ε δ α) onOk onThrow onHalt state ↔ onOk value state := Iff.rfl

@[simp] theorem wp_throw (error : ε) :
    wp (throw error : Program σ ε δ α) onOk onThrow onHalt state ↔ onThrow error state := Iff.rfl

@[simp] theorem wp_halt (reason : δ) :
    wp (halt reason : Program σ ε δ α) onOk onThrow onHalt state ↔ onHalt reason state := Iff.rfl

@[simp] theorem wp_get {onState : σ → σ → Prop} :
    wp (get : Program σ ε δ σ) onState onThrow onHalt state ↔ onState state state := Iff.rfl

@[simp] theorem wp_modify (change : σ → σ) {onUnit : Unit → σ → Prop} :
    wp (modify change : Program σ ε δ Unit) onUnit onThrow onHalt state ↔
      onUnit () (change state) := Iff.rfl

@[simp] theorem wp_bind (program : Program σ ε δ α) (next : α → Program σ ε δ β)
    {onNext : β → σ → Prop} :
    wp (program >>= next) onNext onThrow onHalt state ↔
      wp program (fun value after => wp (next value) onNext onThrow onHalt after) onThrow onHalt
        state := by
  show wp (Program.bind program next) onNext onThrow onHalt state ↔ _
  unfold wp Program.bind
  rcases program state with ⟨value | error | reason, after⟩ <;> rfl

@[simp] theorem wp_tryCatch (program : Program σ ε δ α) (handler : ε → Program σ ε δ α) :
    wp (tryCatch program handler) onOk onThrow onHalt state ↔
      wp program onOk (fun error after => wp (handler error) onOk onThrow onHalt after) onHalt
        state := by
  unfold wp tryCatch
  rcases program state with ⟨value | error | reason, after⟩ <;> rfl

@[simp] theorem wp_when (condition : Prop) [Decidable condition] (program : Program σ ε δ Unit)
    {onUnit : Unit → σ → Prop} :
    wp (when condition program) onUnit onThrow onHalt state ↔
      (condition → wp program onUnit onThrow onHalt state) ∧
        (¬condition → onUnit () state) := by
  by_cases holds : condition
  · rw [when, if_pos holds]
    exact ⟨fun post => ⟨fun _ => post, fun fails => absurd holds fails⟩, fun post => post.1 holds⟩
  · rw [when, if_neg holds]
    exact ⟨fun post => ⟨fun held => absurd held holds, fun _ => post⟩, fun post => post.2 holds⟩

@[simp] theorem wp_onThrow (program : Program σ ε δ α) (cleanup : Program σ ε δ Unit) :
    wp (program.onThrow cleanup) onOk onThrow onHalt state ↔
      wp program onOk
        (fun error after => wp cleanup (fun _ last => onThrow error last) onThrow onHalt after)
        onHalt state := by
  rw [Program.onThrow, wp_tryCatch]
  have rethrown : ∀ error after,
      wp (Program.bind cleanup fun _ => (throw error : Program σ ε δ α)) onOk onThrow onHalt after ↔
        wp cleanup (fun _ last => onThrow error last) onThrow onHalt after :=
    fun error after => wp_bind cleanup fun _ => throw error
  simp only [rethrown]

@[simp] theorem wp_ensure (program : Program σ ε δ α) (cleanup : Program σ ε δ Unit) :
    wp (ensure program cleanup) onOk onThrow onHalt state ↔
      wp program
        (fun value after => wp cleanup (fun _ last => onOk value last) onThrow onHalt after)
        (fun error after => wp cleanup (fun _ last => onThrow error last) onThrow onHalt after)
        onHalt state := by
  unfold wp ensure
  rcases program state with ⟨value | error | reason, after⟩
  · exact wp_bind cleanup fun _ => pure value
  · exact wp_bind cleanup fun _ => throw error
  · rfl

/-- A postcondition may be weakened. -/
theorem wp_mono {program : Program σ ε δ α} {onOk' : α → σ → Prop} {onThrow' : ε → σ → Prop}
    {onHalt' : δ → σ → Prop} (holds : wp program onOk onThrow onHalt state)
    (ok : ∀ value after, onOk value after → onOk' value after)
    (thrown : ∀ error after, onThrow error after → onThrow' error after)
    (halted : ∀ reason after, onHalt reason after → onHalt' reason after) :
    wp program onOk' onThrow' onHalt' state := by
  unfold wp at holds ⊢
  rcases run : program state with ⟨value | error | reason, after⟩ <;> simp only [run] at holds ⊢
  · exact ok _ _ holds
  · exact thrown _ _ holds
  · exact halted _ _ holds

/-- What holds of a return may be weakened. -/
theorem wp_mono_ok {program : Program σ ε δ α} {onOk' : α → σ → Prop}
    (holds : wp program onOk onThrow onHalt state)
    (ok : ∀ value after, onOk value after → onOk' value after) :
    wp program onOk' onThrow onHalt state :=
  wp_mono holds ok (fun _ _ post => post) fun _ _ post => post

/-- Two postconditions of one run hold together. -/
theorem wp_and {program : Program σ ε δ α} {onOk' : α → σ → Prop} {onThrow' : ε → σ → Prop}
    {onHalt' : δ → σ → Prop} (first : wp program onOk onThrow onHalt state)
    (second : wp program onOk' onThrow' onHalt' state) :
    wp program (fun value after => onOk value after ∧ onOk' value after)
      (fun error after => onThrow error after ∧ onThrow' error after)
      (fun reason after => onHalt reason after ∧ onHalt' reason after) state := by
  unfold wp at first second ⊢
  rcases run : program state with ⟨value | error | reason, after⟩ <;>
    simp only [run] at first second ⊢ <;> exact ⟨first, second⟩

/-- A run with nothing asked of its end. -/
theorem wp_trivial (program : Program σ ε δ α) (state : σ) :
    wp program (fun _ _ => True) (fun _ _ => True) (fun _ _ => True) state := by
  unfold wp
  rcases program state with ⟨value | error | reason, after⟩ <;> trivial

/-- The rest of a program, whatever its first part does. -/
theorem wp_bind_any {program : Program σ ε δ α} {next : α → Program σ ε δ β}
    {onNext : β → σ → Prop} (rest : ∀ value after,
      wp (next value) onNext (fun _ _ => True) (fun _ _ => True) after) :
    wp (program >>= next) onNext (fun _ _ => True) (fun _ _ => True) state :=
  (wp_bind program next).mpr
    (wp_mono_ok (wp_trivial program state) fun value after _ => rest value after)

/-- A program that has the postcondition, at the end it comes to. -/
theorem wp_iff_forall {program : Program σ ε δ α} :
    wp program onOk onThrow onHalt state ↔
      (∀ value after, program state = (.ok value, after) → onOk value after) ∧
      (∀ error after, program state = (.throw error, after) → onThrow error after) ∧
      (∀ reason after, program state = (.halt reason, after) → onHalt reason after) := by
  unfold wp
  rcases program state with ⟨value | error | reason, after⟩ <;> simp

end Rules

/-! ### Loops -/

section Loops

variable {onOk : β → σ → Prop} {onThrow : ε → σ → Prop} {onHalt : δ → σ → Prop}

/-- A loop whose bound is not reached makes a pass, and goes on or breaks. -/
theorem iterate_succ (exhausted : δ) (body : α → Program σ ε δ (α ⊕ β)) (bound : Nat) (loop : α) :
    iterate exhausted body (bound + 1) loop = (do
      match ← body loop with
      | .inl again => iterate exhausted body bound again
      | .inr result => pure result) := rfl

/-- One pass through a loop whose bound is not reached. -/
theorem wp_iterate_succ {exhausted : δ} {body : α → Program σ ε δ (α ⊕ β)} {bound : Nat}
    {loop : α} {state : σ} :
    wp (iterate exhausted body (bound + 1) loop) onOk onThrow onHalt state ↔
      wp (body loop) (fun result after => match result with
        | .inl again => wp (iterate exhausted body bound again) onOk onThrow onHalt after
        | .inr value => onOk value after) onThrow onHalt state := by
  refine (wp_bind (body loop) _).trans ⟨fun post => ?_, fun post => ?_⟩ <;>
    refine wp_mono_ok post ?_ <;> rintro (again | value) after holds <;> exact holds

/-- The invariant rule. The invariant is indexed by the loop variable; the halt at the bound
has to satisfy the postcondition as well. -/
theorem wp_iterate {exhausted : δ} {body : α → Program σ ε δ (α ⊕ β)} (invariant : α → σ → Prop)
    (bounded : ∀ loop state, invariant loop state → onHalt exhausted state)
    (step : ∀ loop state, invariant loop state →
      wp (body loop) (fun result after => match result with
        | .inl again => invariant again after
        | .inr value => onOk value after) onThrow onHalt state) :
    ∀ bound loop state, invariant loop state →
      wp (iterate exhausted body bound loop) onOk onThrow onHalt state := by
  intro bound
  induction bound with
  | zero => exact fun loop state holds => bounded loop state holds
  | succ bound inductionHypothesis =>
    intro loop state holds
    refine wp_iterate_succ.mpr (wp_mono_ok (step loop state holds) ?_)
    rintro (again | value) after post
    · exact inductionHypothesis again after post
    · exact post

/-- The variant rule. Each pass through the body makes the variant smaller, so a loop whose
bound exceeds the variant never reaches it. -/
theorem wp_iterate_variant {exhausted : δ} {body : α → Program σ ε δ (α ⊕ β)}
    (invariant : Nat → α → σ → Prop)
    (step : ∀ variant loop state, invariant variant loop state →
      wp (body loop) (fun result after => match result with
        | .inl again => ∃ smaller < variant, invariant smaller again after
        | .inr value => onOk value after) onThrow onHalt state) :
    ∀ bound variant loop state, variant < bound → invariant variant loop state →
      wp (iterate exhausted body bound loop) onOk onThrow onHalt state := by
  intro bound
  induction bound with
  | zero => exact fun _ _ _ below => absurd below (Nat.not_lt_zero _)
  | succ bound inductionHypothesis =>
    intro variant loop state below holds
    refine wp_iterate_succ.mpr (wp_mono_ok (step variant loop state holds) ?_)
    rintro (again | value) after post
    · obtain ⟨smaller, less, post⟩ := post
      exact inductionHypothesis smaller again after (by omega) post
    · exact post

end Loops

/-! ### Relations between the state before and the state after -/

/-- A halt: some steps that keep a relation, and a last one in which the process stops. -/
def Halted (relation : σ → σ → Prop) (stops : δ → σ → σ → Prop) (state : σ) (reason : δ)
    (after : σ) : Prop :=
  ∃ last, relation state last ∧ stops reason last after

/-- Every run of the program relates the state before it to the state after it, and if it halts,
then by a last step that may stop the process. -/
def Keeps (relation : σ → σ → Prop) (stops : δ → σ → σ → Prop) (program : Program σ ε δ α) : Prop :=
  ∀ state, wp program (fun _ after => relation state after) (fun _ after => relation state after)
    (Halted relation stops state) state

/-- What a program keeps may be used beside any postcondition of a run. -/
theorem Keeps.wp_and {relation : σ → σ → Prop} {stops : δ → σ → σ → Prop}
    {program : Program σ ε δ α} (keeps : Keeps relation stops program) {state : σ}
    {onOk : α → σ → Prop} {onThrow : ε → σ → Prop} {onHalt : δ → σ → Prop}
    (holds : wp program onOk onThrow onHalt state) :
    wp program (fun value after => relation state after ∧ onOk value after)
      (fun error after => relation state after ∧ onThrow error after)
      (fun reason after => Halted relation stops state reason after ∧ onHalt reason after)
      state :=
  Program.wp_and (keeps state) holds

section Keeps

variable {relation : σ → σ → Prop} {stops : δ → σ → σ → Prop}

section Refl

variable [Std.Refl relation]

theorem keeps_pure (value : α) : Keeps relation stops (pure value : Program σ ε δ α) :=
  fun state => refl_of relation state

theorem keeps_throw (error : ε) : Keeps relation stops (throw error : Program σ ε δ α) :=
  fun state => refl_of relation state

theorem keeps_halt {reason : δ} (mayStop : ∀ state, stops reason state state) :
    Keeps relation stops (halt reason : Program σ ε δ α) :=
  fun state => ⟨state, refl_of relation state, mayStop state⟩

theorem keeps_get : Keeps relation stops (get : Program σ ε δ σ) :=
  fun state => refl_of relation state

theorem keeps_when (condition : Prop) [Decidable condition] {program : Program σ ε δ Unit}
    (keeps : condition → Keeps relation stops program) :
    Keeps relation stops (when condition program) := by
  unfold when
  split
  · exact keeps ‹_›
  · exact keeps_pure ()

end Refl

theorem keeps_modify {change : σ → σ} (related : ∀ state, relation state (change state)) :
    Keeps relation stops (modify change : Program σ ε δ Unit) := related

section Trans

variable [IsTrans σ relation]

/-- The rest of a program, after a run of its first part. -/
theorem keeps_after {program : Program σ ε δ α} {state middle : σ}
    (first : relation state middle) (keeps : Keeps relation stops program) :
    wp program (fun _ after => relation state after) (fun _ after => relation state after)
      (Halted relation stops state) middle :=
  wp_mono (keeps middle) (fun _ _ kept => trans_of relation first kept)
    (fun _ _ kept => trans_of relation first kept)
    fun _ _ ⟨last, kept, stopped⟩ => ⟨last, trans_of relation first kept, stopped⟩

theorem keeps_bind {program : Program σ ε δ α} {next : α → Program σ ε δ β}
    (first : Keeps relation stops program)
    (second : ∀ value, Keeps relation stops (next value)) :
    Keeps relation stops (program >>= next) := fun state =>
  (wp_bind program next).mpr
    (wp_mono_ok (first state) fun value _ kept => keeps_after kept (second value))

theorem keeps_tryCatch {program : Program σ ε δ α} {handler : ε → Program σ ε δ α}
    (first : Keeps relation stops program)
    (second : ∀ error, Keeps relation stops (handler error)) :
    Keeps relation stops (tryCatch program handler) := fun state =>
  (wp_tryCatch program handler).mpr (wp_mono (first state) (fun _ _ kept => kept)
    (fun error _ kept => keeps_after kept (second error)) fun _ _ kept => kept)

theorem keeps_onThrow [Std.Refl relation] {program : Program σ ε δ α}
    {cleanup : Program σ ε δ Unit} (first : Keeps relation stops program)
    (second : Keeps relation stops cleanup) :
    Keeps relation stops (program.onThrow cleanup) :=
  keeps_tryCatch first fun error => keeps_bind second fun _ => keeps_throw error

theorem keeps_ensure {program : Program σ ε δ α} {cleanup : Program σ ε δ Unit}
    (first : Keeps relation stops program) (second : Keeps relation stops cleanup) :
    Keeps relation stops (program.ensure cleanup) := fun state =>
  (wp_ensure program cleanup).mpr (wp_mono (first state)
    (fun _ _ kept => keeps_after kept second) (fun _ _ kept => keeps_after kept second)
    fun _ _ kept => kept)

theorem keeps_iterate [Std.Refl relation] {exhausted : δ} {body : α → Program σ ε δ (α ⊕ β)}
    (mayStop : ∀ state, stops exhausted state state)
    (step : ∀ loop, Keeps relation stops (body loop)) :
    ∀ bound loop, Keeps relation stops (iterate exhausted body bound loop) := by
  intro bound
  induction bound with
  | zero => exact fun _ => keeps_halt mayStop
  | succ bound inductionHypothesis =>
    intro loop
    refine keeps_bind (step loop) fun result => ?_
    cases result with
    | inl again => exact inductionHypothesis again
    | inr value => exact keeps_pure value

end Trans

end Keeps

/-! ### Two relations at once -/

/-- Two relations at once. -/
def Both (first second : σ → σ → Prop) (state after : σ) : Prop :=
  first state after ∧ second state after

/-- The process may stop in two ways at once. -/
def StopsBoth (first second : δ → σ → σ → Prop) (reason : δ) (last after : σ) : Prop :=
  first reason last after ∧ second reason last after

instance (first second : σ → σ → Prop) [Std.Refl first] [Std.Refl second] :
    Std.Refl (Both first second) := ⟨fun state => ⟨refl_of first state, refl_of second state⟩⟩

instance (first second : σ → σ → Prop) [IsTrans σ first] [IsTrans σ second] :
    IsTrans σ (Both first second) :=
  ⟨fun _ _ _ one two => ⟨trans_of first one.1 two.1, trans_of second one.2 two.2⟩⟩

/-! ### Invariants -/

/-- An invariant as a relation: where it holds before, it holds after, and the two states are
related by a frame. -/
def Holding (invariant : σ → Prop) (frame : σ → σ → Prop) (state after : σ) : Prop :=
  invariant state → invariant after ∧ frame state after

/-- From a state in which the invariant holds, the process stops only as it may. -/
def StopsHolding (invariant : σ → Prop) (halted : δ → σ → Prop) (reason : δ) (last after : σ) :
    Prop :=
  invariant last → halted reason after

section Holding

variable {invariant : σ → Prop} {frame : σ → σ → Prop} {halted : δ → σ → Prop}

instance [Std.Refl frame] : Std.Refl (Holding invariant frame) :=
  ⟨fun state holds => ⟨holds, refl_of frame state⟩⟩

instance [IsTrans σ frame] : IsTrans σ (Holding invariant frame) :=
  ⟨fun _ _ _ first second holds =>
    let ⟨held, framed⟩ := first holds
    let ⟨held', framed'⟩ := second held
    ⟨held', trans_of frame framed framed'⟩⟩

/-- A program keeps an invariant if it does so from the states in which the invariant holds. -/
theorem keeps_holding [Std.Refl frame] {program : Program σ ε δ α}
    (keeps : ∀ state, invariant state → wp program
      (fun _ after => invariant after ∧ frame state after)
      (fun _ after => invariant after ∧ frame state after) halted state) :
    Keeps (Holding invariant frame) (StopsHolding invariant halted) program := by
  intro state
  rw [wp_iff_forall]
  refine ⟨fun _ _ run holds => ?_, fun _ _ run holds => ?_, fun reason after run => ?_⟩
  · exact (wp_iff_forall.mp (keeps state holds)).1 _ _ run
  · exact (wp_iff_forall.mp (keeps state holds)).2.1 _ _ run
  · exact ⟨state, refl_of (Holding invariant frame) state, fun holds =>
      (wp_iff_forall.mp (keeps state holds)).2.2 _ _ run⟩

/-- What a program does from a state in which an invariant that it keeps holds. -/
theorem Keeps.holding {program : Program σ ε δ α}
    (keeps : Keeps (Holding invariant frame) (StopsHolding invariant halted) program) {state : σ}
    (holds : invariant state) : wp program (fun _ after => invariant after ∧ frame state after)
      (fun _ after => invariant after ∧ frame state after) halted state :=
  wp_mono (keeps state) (fun _ _ kept => kept holds) (fun _ _ kept => kept holds)
    fun _ _ ⟨_, kept, stopped⟩ => stopped (kept holds).1

end Holding

/-! ### A relation and postconditions -/

/-- A run from a state that keeps a relation, with postconditions. -/
def Reaches (relation : σ → σ → Prop) (stops : δ → σ → σ → Prop) (program : Program σ ε δ α)
    (onOk : α → σ → Prop) (onThrow : σ → Prop) (state : σ) : Prop :=
  wp program (fun value after => relation state after ∧ onOk value after)
    (fun _ after => relation state after ∧ onThrow after) (Halted relation stops state) state

namespace Reaches

variable {relation : σ → σ → Prop} {stops : δ → σ → σ → Prop} {onOk : α → σ → Prop}
  {onThrow : σ → Prop} {state middle : σ}

theorem mono {program : Program σ ε δ α} {onOk' : α → σ → Prop} {onThrow' : σ → Prop}
    (reaches : Reaches relation stops program onOk onThrow state)
    (ok : ∀ value after, onOk value after → onOk' value after)
    (thrown : ∀ after, onThrow after → onThrow' after) :
    Reaches relation stops program onOk' onThrow' state :=
  wp_mono reaches (fun _ _ post => ⟨post.1, ok _ _ post.2⟩)
    (fun _ _ post => ⟨post.1, thrown _ post.2⟩) fun _ _ post => post

/-- The postconditions may speak of the state at the start. -/
theorem related {program : Program σ ε δ α}
    (reaches : Reaches relation stops program onOk onThrow state) :
    Reaches relation stops program (fun value after => relation state after ∧ onOk value after)
      (fun after => relation state after ∧ onThrow after) state :=
  wp_mono reaches (fun _ _ post => ⟨post.1, post⟩) (fun _ _ post => ⟨post.1, post⟩)
    fun _ _ halted => halted

/-- A run of a program that keeps the relation. -/
theorem of_keeps {program : Program σ ε δ α} (keeps : Keeps relation stops program) (state : σ) :
    Reaches relation stops program (fun _ _ => True) (fun _ => True) state :=
  wp_mono (keeps state) (fun _ _ kept => ⟨kept, trivial⟩) (fun _ _ kept => ⟨kept, trivial⟩)
    fun _ _ halted => halted

section Refl

variable [Std.Refl relation]

theorem pure {value : α} (post : onOk value state) :
    Reaches relation stops (Pure.pure value : Program σ ε δ α) onOk onThrow state :=
  ⟨refl_of relation state, post⟩

theorem throw {error : ε} (post : onThrow state) :
    Reaches relation stops (Program.throw error : Program σ ε δ α) onOk onThrow state :=
  ⟨refl_of relation state, post⟩

theorem halt {reason : δ} (mayStop : stops reason state state) :
    Reaches relation stops (Program.halt reason : Program σ ε δ α) onOk onThrow state :=
  ⟨state, refl_of relation state, mayStop⟩

theorem when {condition : Prop} [Decidable condition] {program : Program σ ε δ Unit}
    {onUnit : Unit → σ → Prop}
    (holds : condition → Reaches relation stops program onUnit onThrow state)
    (fails : ¬condition → onUnit () state) :
    Reaches relation stops (Program.when condition program) onUnit onThrow state :=
  (wp_when condition program).mpr ⟨holds, fun not => ⟨refl_of relation state, fails not⟩⟩

end Refl

section Trans

variable [IsTrans σ relation]

/-- A run that begins with some steps that keep the relation. -/
theorem after {program : Program σ ε δ α}
    (reaches : Reaches relation stops program onOk onThrow middle) (first : relation state middle) :
    wp program (fun value after => relation state after ∧ onOk value after)
      (fun _ after => relation state after ∧ onThrow after) (Halted relation stops state) middle :=
  wp_mono reaches (fun _ _ post => ⟨trans_of relation first post.1, post.2⟩)
    (fun _ _ post => ⟨trans_of relation first post.1, post.2⟩)
    fun _ _ ⟨last, kept, stopped⟩ => ⟨last, trans_of relation first kept, stopped⟩

theorem bind {program : Program σ ε δ α} {next : α → Program σ ε δ β} {onNext : β → σ → Prop}
    (first : Reaches relation stops program onOk onThrow state)
    (second : ∀ value after, onOk value after →
      Reaches relation stops (next value) onNext onThrow after) :
    Reaches relation stops (program >>= next) onNext onThrow state :=
  (wp_bind program next).mpr
    (wp_mono_ok first fun value _ post => (second value _ post.2).after post.1)

theorem tryCatch {program : Program σ ε δ α} {handler : ε → Program σ ε δ α}
    {onCatch : σ → Prop} (first : Reaches relation stops program onOk onCatch state)
    (second : ∀ error after, onCatch after →
      Reaches relation stops (handler error) onOk onThrow after) :
    Reaches relation stops (Program.tryCatch program handler) onOk onThrow state :=
  (wp_tryCatch program handler).mpr (wp_mono first (fun _ _ post => post)
    (fun error _ post => (second error _ post.2).after post.1) fun _ _ halted => halted)

/-- A program that throws is cleaned up after. -/
theorem cleanedUp {program : Program σ ε δ α} {cleanup : Program σ ε δ Unit}
    {onFail onError : σ → Prop} (first : Reaches relation stops program onOk onFail state)
    (cleaned : ∀ after, onFail after →
      Reaches relation stops cleanup (fun _ => onError) onError after) :
    Reaches relation stops (program.onThrow cleanup) onOk onError state :=
  (wp_onThrow program cleanup).mpr (wp_mono first (fun _ _ post => post)
    (fun _ after post => (cleaned after post.2).after post.1) fun _ _ halted => halted)

/-- A program is cleaned up after, however it ends. -/
theorem ensure {program : Program σ ε δ α} {cleanup : Program σ ε δ Unit} {onEnd onError : σ → Prop}
    (first : Reaches relation stops program (fun _ => onEnd) onEnd state)
    (cleaned : ∀ after, onEnd after →
      Reaches relation stops cleanup (fun _ => onError) onError after) :
    Reaches relation stops (Program.ensure program cleanup) (fun _ => onError) onError state :=
  (wp_ensure program cleanup).mpr (wp_mono first
    (fun _ after post => (cleaned after post.2).after post.1)
    (fun _ after post => (cleaned after post.2).after post.1) fun _ _ halted => halted)

/-- A change of the state, and then a program. -/
theorem modify {change : σ → σ} {next : Unit → Program σ ε δ β} {onNext : β → σ → Prop}
    (related : relation state (change state))
    (rest : Reaches relation stops (next ()) onNext onThrow (change state)) :
    Reaches relation stops (Program.modify change >>= next) onNext onThrow state :=
  (wp_bind _ next).mpr (rest.after related)

/-- The invariant rule for a loop. -/
theorem iterate [Std.Refl relation] {exhausted : δ} {body : α → Program σ ε δ (α ⊕ β)}
    {onResult : β → σ → Prop} (invariant : α → σ → Prop)
    (mayStop : ∀ state, stops exhausted state state)
    (step : ∀ loop state, invariant loop state →
      Reaches relation stops (body loop) (Sum.elim invariant onResult) onThrow state) :
    ∀ bound loop state, invariant loop state →
      Reaches relation stops (Program.iterate exhausted body bound loop) onResult onThrow
        state := by
  intro bound
  induction bound with
  | zero => exact fun _ state _ => halt (mayStop state)
  | succ bound inductionHypothesis =>
    intro loop state holds
    refine bind (step loop state holds) ?_
    rintro (again | value) after post
    · exact inductionHypothesis again after post
    · exact pure post

end Trans

/-- A program that keeps an invariant and a frame. -/
theorem of_holding {invariant : σ → Prop} {program : Program σ ε δ α}
    (keeps : Keeps (Holding invariant relation) stops program) (holds : invariant state) :
    Reaches relation stops program (fun _ after => invariant after) invariant state :=
  wp_mono (keeps state) (fun _ _ kept => ⟨(kept holds).2, (kept holds).1⟩)
    (fun _ _ kept => ⟨(kept holds).2, (kept holds).1⟩)
    fun _ _ ⟨last, kept, stopped⟩ => ⟨last, (kept holds).2, stopped⟩

end Reaches

/-! ### Programs that do not throw -/

/-- The program never throws. -/
def NeverThrows (program : Program σ ε δ α) : Prop :=
  ∀ state, wp program (fun _ _ => True) (fun _ _ => False) (fun _ _ => True) state

section NeverThrows

theorem neverThrows_pure (value : α) : NeverThrows (pure value : Program σ ε δ α) :=
  fun _ => trivial

theorem neverThrows_halt (reason : δ) : NeverThrows (halt reason : Program σ ε δ α) :=
  fun _ => trivial

theorem neverThrows_get : NeverThrows (get : Program σ ε δ σ) := fun _ => trivial

theorem neverThrows_modify (change : σ → σ) :
    NeverThrows (modify change : Program σ ε δ Unit) := fun _ => trivial

theorem neverThrows_bind {program : Program σ ε δ α} {next : α → Program σ ε δ β}
    (first : NeverThrows program) (second : ∀ value, NeverThrows (next value)) :
    NeverThrows (program >>= next) := fun state =>
  (wp_bind program next).mpr (wp_mono_ok (first state) fun value after _ => second value after)

theorem neverThrows_when (condition : Prop) [Decidable condition] {program : Program σ ε δ Unit}
    (never : NeverThrows program) : NeverThrows (when condition program) := fun state =>
  (wp_when condition program).mpr ⟨fun _ => never state, fun _ => trivial⟩

theorem neverThrows_tryCatch {program : Program σ ε δ α} {handler : ε → Program σ ε δ α}
    (never : ∀ error, NeverThrows (handler error)) : NeverThrows (tryCatch program handler) := by
  intro state
  rw [wp_tryCatch, wp_iff_forall]
  exact ⟨fun _ _ _ => trivial, fun error after _ => never error after, fun _ _ _ => trivial⟩

/-- A program that keeps a relation and never throws. -/
theorem Keeps.returns {relation : σ → σ → Prop} {stops : δ → σ → σ → Prop}
    {program : Program σ ε δ α} (keeps : Keeps relation stops program)
    (never : NeverThrows program) (state : σ) :
    wp program (fun _ after => relation state after) (fun _ _ => False)
      (Halted relation stops state) state :=
  wp_mono (Program.wp_and (keeps state) (never state)) (fun _ _ post => post.1)
    (fun _ _ post => post.2) fun _ _ post => post.1

end NeverThrows

end Program
