/-
This file proves which parameters of a command are bound. Each `%v` should be
bound once, under the name the rewriting gave it, to the argument of its number.
That is so unless the argument list is absent, which keeps `set_params` from being
called, or an explicit date stands before another `%v`, because the branch for an
explicit date returns from `set_params` instead of going on with the next
parameter.
-/

import SybaseDriver.DateText
import SybaseDriver.Scanning
import SybaseDriver.WorldLogic

namespace Sybase

open Program SybaseQuery

namespace Command

/-! ### The parameters in a log -/

/-- The parameter an entry of the log passes to ct-lib. -/
def param? (entry : Entry) : Option (Text × Binding) :=
  match entry.event with
  | .call (.param _ name datatype format maxlength data) _ =>
    some (name, ⟨datatype, format, maxlength, data⟩)
  | _ => none

/-- The parameters bound in a part of the log, in the order of the calls. -/
def boundParams (log : List Entry) : List (Text × Binding) := log.reverse.filterMap param?

theorem boundParams_append (later earlier : List Entry) :
    boundParams (later ++ earlier) = boundParams earlier ++ boundParams later := by
  rw [boundParams, List.reverse_append, List.filterMap_append]
  rfl

variable {σ : Type} (cfg : Config σ)

/-- The text of a date: its time in the zone of the server can be read back from it. -/
def CarriesText (binding : Binding) (date : DateTime) : Prop :=
  binding.datatype = .char ∧ ∃ str : Text, binding.data = .chars str ∧
    binding.maxlength = str.length ∧
    ((cfg.qore.getInfo date cfg.serverTz).IsCalendar →
      readDateText str = cfg.qore.getInfo date cfg.serverTz)

/-- A `CS_DATETIME` within a tick of an absolute date. -/
def CarriesDatetime (binding : Binding) (date : DateTime) : Prop :=
  binding.datatype = .datetime ∧ ∃ value, binding.data = .datetime value ∧ date.relative = false ∧
    (0 ≤ date.microseconds ∧ date.microseconds < 1000000 → |(value.ticks : ℚ) - date.ticks| ≤ 1)

/-- An integer: as such in a type that it fits, or rounded to a float where ct-lib has none. -/
def CarriesInt (binding : Binding) (value : Int) : Prop :=
  binding.datatype = .bigint ∧ binding.data = .int64 value ∨
    binding.datatype = .int ∧ binding.data = .int32 value ∧ -2147483648 ≤ value ∧
    value < 2147483648 ∨
    binding.datatype = .float ∧ binding.data = .floatOfInt value ∧ cfg.build.bigint = false ∧
      (value ≤ -2147483648 ∨ 2147483648 ≤ value)

/-- What `ct_param` has to be given for a value: SQL NULL for no value, and the value itself, in a
data type that holds it, for any other. -/
def Carries (enc : Encoding) (value : QoreValue) (binding : Binding) : Prop :=
  match value with
  | .nothing | .null => binding.data = .null
  | .string value => binding.datatype = .char ∧ ∃ str : Text,
      cfg.qore.convertEncoding enc value = some str ∧ binding.data = .chars str ∧
        binding.maxlength = str.length
  | .number digits => binding.datatype = .char ∧ binding.data = .chars digits ∧
      binding.maxlength = digits.length + 1
  | .date date => CarriesText cfg binding date ∨ CarriesDatetime binding date
  | .int value => CarriesInt cfg binding value
  | .boolean value => binding.datatype = .int ∧ binding.data = .int64 (if value then 1 else 0)
  | .float value => binding.datatype = .float ∧ binding.data = .float value
  | .binary bytes => binding.datatype = .binary ∧ binding.data = .binary bytes ∧
      binding.maxlength = bytes.length
  | .hash entries => Hash.getKeyValue entries (text "type") = .string (text "date") ∧
      ∃ date, Hash.getKeyValue entries (text "value") = .date date ∧ CarriesText cfg binding date
  | .list _ => False

/-- The numbers of the `%v` of a list of specifications, after some others. -/
def valueNumbers : List Char → Nat → List Nat
  | [], _ => []
  | 'd' :: rest, index => valueNumbers rest (index + 1)
  | _ :: rest, index => index :: valueNumbers rest (index + 1)

/-- The parameters for a list of specifications: one for each `%v`, in order, with the name of its
number, that carries the argument of its number. -/
def ServeParams (enc : Encoding) (args : Option (List QoreValue)) (params : List (Text × Binding))
    (letters : List Char) (index : Nat) : Prop :=
  List.Forall₂ (fun param number => param.1 = parName (number + 1) ∧
    Carries cfg enc (argument args number) param.2) params (valueNumbers letters index)

/-- What it means that a command text was set up: every specification is served by the argument of
its number. In the rewritten text, a `%v` became the name of its parameter and the others the text
of their argument; and the parameters bound are those that the `%v` need. -/
structure Served (args : Option (List QoreValue)) (enc : Encoding) (pieces : List Piece)
    (query : SybaseQuery) (log : List Entry) : Prop where
  mCmd : query.mCmd = output cfg.qore args pieces 0
  params : ServeParams cfg enc args (boundParams log) (letters pieces) 0

/-- An explicit bind of a date. -/
def isExplicitDate : QoreValue → Bool
  | .hash entries =>
    match Hash.getKeyValue entries (text "type") with
    | .string type => type = text "date"
    | _ => false
  | _ => false

/-- Every `%v` is bound: there is an argument list, or nothing to bind; and no `%v` with an explicit
date comes before another `%v`. -/
structure BindsEvery (args : Option (List QoreValue)) (letters : List Char) : Prop where
  present : args = none → 'v' ∉ letters
  dates : ∀ first second : Nat, first < second → letters[first]? = some 'v' →
    letters[second]? = some 'v' → isExplicitDate (argument args first) = false

/-! ### Binding one value -/

variable {cfg}

/-- Only an explicit date ends the binding of parameters. -/
theorem isExplicitDate_of_lastParam {enc : Encoding} {value : QoreValue} {binding : Binding}
    (bound : bindValue cfg enc value = .lastParam binding) : isExplicitDate value = true := by
  unfold bindValue at bound
  split at bound
  all_goals (try split at bound) <;> try exact absurd bound (by simp)
  · exact absurd bound (by split <;> simp)
  · rename_i entries
    unfold bindHash at bound
    unfold isExplicitDate
    split at bound
    · rename_i type isString
      split at bound
      · rename_i isDate
        simp only [isString, isDate, decide_true]
      · exact absurd bound (by simp)
    · exact absurd bound (by simp)

/-- A parameter after which the binding goes on is no explicit date. -/
theorem isExplicitDate_of_param {enc : Encoding} {value : QoreValue} {binding : Binding}
    (bound : bindValue cfg enc value = .param binding) : isExplicitDate value = false := by
  cases value with
  | hash entries =>
    have noParam : bindHash cfg entries ≠ .param binding := by
      unfold bindHash
      split
      · split
        · split <;> simp
        · simp
      · simp
    exact absurd bound noParam
  | _ => rfl

/-- The text of a date carries it. -/
theorem carriesText_dateBinding (date : DateTime) : CarriesText cfg (dateBinding cfg date) date :=
  ⟨rfl, _, rfl, rfl, readDateText_dateText⟩

/-- The `CS_DATETIME` of a date carries it. -/
theorem carriesDatetime_of_ok {date : DateTime} {value : CsDatetime}
    (converted : Conversions.dateTimeToDatetime cfg.qore.format date = .ok value) :
    CarriesDatetime ⟨.datetime, .unused, -1, .datetime value⟩ date := by
  have absolute : date.relative = false := by
    by_contra relative
    rw [Conversions.dateTimeToDatetime, if_pos (by simpa using relative)] at converted
    cases converted
  refine ⟨rfl, value, rfl, absolute, fun range => ?_⟩
  have accepted : Conversions.checkEpoch cfg.qore.format date.seconds date = none := by
    by_contra refused
    obtain ⟨raised, refused⟩ := Option.ne_none_iff_exists'.mp refused
    rw [Conversions.dateTimeToDatetime, if_neg (by simp [absolute]), refused] at converted
    cases converted
  rw [dateTimeToDatetime_eq ⟨absolute, accepted, range⟩] at converted
  cases converted
  exact ticks_near range

theorem carriesInt_intBinding (value : Int) : CarriesInt cfg (intBinding cfg value) value := by
  rw [intBinding]
  split
  · exact .inl ⟨rfl, rfl⟩
  · rename_i noBigint
    split
    · exact .inr (.inl ⟨rfl, rfl, by omega, by omega⟩)
    · exact .inr (.inr ⟨rfl, rfl, by simpa using noBigint, by omega⟩)

/-- What `set_params` binds for a value carries it. -/
theorem carries_of_bound {enc : Encoding} {value : QoreValue} {binding : Binding}
    (bound : bindValue cfg enc value = .param binding ∨
      bindValue cfg enc value = .lastParam binding) :
    Carries cfg enc value binding := by
  cases value with
  | nothing | null =>
    have null : (nullBinding cfg).data = .null := by
      rw [nullBinding]
      split <;> rfl
    rcases bound with bound | bound
    · cases bound
      exact null
    · cases bound
  | string value =>
    cases converted : cfg.qore.convertEncoding enc value with
    | none => simp [bindValue, converted] at bound
    | some str =>
      simp only [bindValue, converted, Bound.param.injEq, reduceCtorEq, or_false] at bound
      subst bound
      exact ⟨rfl, str, converted, rfl, rfl⟩
  | number digits =>
    rcases bound with bound | bound
    · cases bound
      exact ⟨rfl, rfl, rfl⟩
    · cases bound
  | date date =>
    rw [bindValue] at bound
    split at bound
    · simp only [Bound.param.injEq, reduceCtorEq, or_false] at bound
      exact .inl (bound ▸ carriesText_dateBinding date)
    · split at bound
      · rename_i converted
        simp only [Bound.param.injEq, reduceCtorEq, or_false] at bound
        exact .inr (bound ▸ carriesDatetime_of_ok converted)
      · simp at bound
  | int value =>
    simp only [bindValue, Bound.param.injEq, reduceCtorEq, or_false] at bound
    exact bound ▸ carriesInt_intBinding value
  | boolean value | float value =>
    rcases bound with bound | bound
    · cases bound
      exact ⟨rfl, rfl⟩
    · cases bound
  | binary bytes =>
    rcases bound with bound | bound
    · cases bound
      exact ⟨rfl, rfl, rfl⟩
    · cases bound
  | hash entries =>
    rw [bindValue, bindHash] at bound
    split at bound
    · rename_i type isType
      split at bound
      · rename_i isDate
        subst isDate
        split at bound
        · rename_i date isValue
          simp only [reduceCtorEq, Bound.lastParam.injEq, false_or] at bound
          exact ⟨isType, date, isValue, bound ▸ carriesText_dateBinding date⟩
        · simp at bound
      · simp at bound
    · simp at bound
  | list elements => simp [bindValue] at bound

/-! ### The loop over the parameters -/

/-- No `%v` with an explicit date comes before another one, counted from a number on. -/
def DatesLast (args : Option (List QoreValue)) (letters : List Char) (index : Nat) : Prop :=
  ∀ first second : Nat, first < second → letters[first]? = some 'v' →
    letters[second]? = some 'v' → isExplicitDate (argument args (index + first)) = false

theorem datesLast_cons (args : Option (List QoreValue)) (letter : Char) (letters : List Char)
    (index : Nat) : DatesLast args (letter :: letters) index ↔
      (letter = 'v' → 'v' ∈ letters → isExplicitDate (argument args index) = false) ∧
        DatesLast args letters (index + 1) := by
  constructor
  · intro dates
    refine ⟨fun isValue member => ?_, fun first second less atFirst atSecond => ?_⟩
    · obtain ⟨second, below, atSecond⟩ := List.getElem_of_mem member
      exact dates 0 (second + 1) (Nat.succ_pos _) (congrArg some isValue)
        (by rw [List.getElem?_cons_succ, List.getElem?_eq_getElem below, atSecond])
    · have moved := dates (first + 1) (second + 1) (Nat.succ_lt_succ less) atFirst atSecond
      rwa [Nat.add_comm first, ← Nat.add_assoc] at moved
  · rintro ⟨here, later⟩ first second less atFirst atSecond
    cases second with
    | zero => exact absurd less (Nat.not_lt_zero _)
    | succ second =>
      cases first with
      | zero => exact here (Option.some_inj.mp atFirst) (List.mem_of_getElem? atSecond)
      | succ first =>
        rw [Nat.add_comm first, ← Nat.add_assoc]
        exact later first second (Nat.lt_of_succ_lt_succ less) atFirst atSecond

/-- The list of parameters has letters for bound and for inlined specifications only. -/
def IsParamList (letters : List Char) : Prop := ∀ letter ∈ letters, letter = 'v' ∨ letter = 'd'

theorem letters_isParamList (pieces : List Piece) : IsParamList (letters pieces) := by
  intro letter member
  obtain ⟨piece, -, lettered⟩ := List.mem_filterMap.mp member
  cases piece <;> cases lettered <;> simp

theorem valueNumbers_eq_nil {letters : List Char} (isParamList : IsParamList letters)
    (index : Nat) :
    valueNumbers letters index = [] ↔ 'v' ∉ letters := by
  induction letters generalizing index with
  | nil => simp [valueNumbers]
  | cons letter letters inductionHypothesis =>
    have rest := inductionHypothesis (fun other member =>
      isParamList other (List.mem_cons_of_mem _ member)) (index + 1)
    rcases isParamList letter List.mem_cons_self with rfl | rfl
    · simp [valueNumbers]
    · rw [valueNumbers, rest, List.mem_cons, not_or, and_iff_right (by decide)]

theorem serveParams_nil {enc : Encoding} {args : Option (List QoreValue)} {letters : List Char}
    (isParamList : IsParamList letters) (index : Nat) :
    ServeParams cfg enc args [] letters index ↔ 'v' ∉ letters := by
  rw [ServeParams, List.forall₂_nil_left_iff, valueNumbers_eq_nil isParamList]

/-- A `%v` is served by the first parameter, if that carries its argument. -/
theorem serveParams_value {enc : Encoding} {args : Option (List QoreValue)} {letters : List Char}
    {index : Nat} {binding : Binding} {params : List (Text × Binding)}
    (carries : Carries cfg enc (argument args index) binding) :
    ServeParams cfg enc args ((parName (index + 1), binding) :: params) ('v' :: letters) index ↔
      ServeParams cfg enc args params letters (index + 1) := by
  rw [ServeParams, valueNumbers.eq_3 _ _ _ (by decide), List.forall₂_cons]
  exact and_iff_right ⟨rfl, carries⟩

variable {world : World σ} {id : CommandId}

/-- One call of `ct_param`. -/
theorem wp_ctParam (index : Nat) (binding : Binding) :
    wp (ctParam cfg id index binding) (fun _ after => ∃ entry,
        after.log = entry :: world.log ∧ param? entry = some (parName (index + 1), binding) ∧
          after.connection = world.connection)
      (fun _ _ => True) (fun _ _ => True) world := by
  rw [ctParam, wp_bind, wp_getCommand]
  exact ⟨fun cmd _ => ⟨_, rfl, rfl, rfl⟩, fun _ => trivial⟩

/-- The parameters `set_params` binds are the needed ones if and only if no explicit date comes
before another parameter. -/
theorem wp_setParamsFrom (args : Option (List QoreValue)) {letters : List Char}
    (isParamList : IsParamList letters) (index : Nat) :
    wp (setParamsFrom cfg id args letters index) (fun _ after => ∃ new,
        after.log = new ++ world.log ∧
          (ServeParams cfg world.connection.enc args (boundParams new) letters index ↔
            DatesLast args letters index))
      (fun _ _ => True) (fun _ _ => True) world := by
  induction letters generalizing index world with
  | nil => exact ⟨[], rfl, by simp [boundParams, ServeParams, valueNumbers, DatesLast]⟩
  | cons letter letters inductionHypothesis =>
    have restIsParamList : IsParamList letters := fun other member =>
      isParamList other (List.mem_cons_of_mem _ member)
    rcases isParamList letter List.mem_cons_self with rfl | rfl
    · rw [setParamsFrom.eq_3 _ _ _ _ _ _ (by decide), wp_bind, wp_get]
      cases bound : bindValue cfg world.connection.enc (argument args index) with
      | param binding =>
        have carries := carries_of_bound (.inl bound)
        have noDate := isExplicitDate_of_param bound
        simp only [wp_bind]
        refine wp_mono_ok (wp_ctParam index binding) ?_
        rintro code after ⟨entry, log, isParam, connection⟩
        rw [wp_when]
        refine ⟨fun _ => by simp only [wp_doException], fun _ => ?_⟩
        refine wp_mono_ok (inductionHypothesis restIsParamList (index + 1)) ?_
        rintro _ last ⟨new, lastLog, bindsRest⟩
        refine ⟨new ++ [entry], by rw [lastLog, log, List.append_assoc]; rfl, ?_⟩
        have bound : boundParams (new ++ [entry]) =
            (parName (index + 1), binding) :: boundParams new := by
          rw [boundParams_append, boundParams, List.reverse_singleton, List.filterMap_cons,
            isParam]
          rfl
        rw [connection] at bindsRest
        rw [bound, serveParams_value carries, datesLast_cons, ← bindsRest, noDate]
        simp
      | lastParam binding =>
        have carries := carries_of_bound (.inr bound)
        have isDate := isExplicitDate_of_lastParam bound
        simp only [wp_bind]
        refine wp_mono_ok (wp_ctParam index binding) ?_
        rintro code after ⟨entry, log, isParam, -⟩
        refine ⟨[entry], log, ?_⟩
        have bound : boundParams [entry] = [(parName (index + 1), binding)] := by
          rw [boundParams, List.reverse_singleton, List.filterMap_cons, isParam]
          rfl
        rw [bound, serveParams_value carries, serveParams_nil restIsParamList,
          datesLast_cons, isDate]
        simp only [true_imp_iff, Bool.true_eq_false, imp_false]
        refine ⟨fun none => ⟨none, fun first second _ _ atSecond => ?_⟩, And.left⟩
        exact absurd (List.mem_of_getElem? atSecond) none
      | error err desc => simp only [wp_doException]
      | raised raised err desc => exact trivial
    · rw [setParamsFrom.eq_2]
      refine wp_mono_ok (inductionHypothesis restIsParamList (index + 1)) ?_
      rintro _ after ⟨new, log, binds⟩
      refine ⟨new, log, binds.trans ?_⟩
      rw [datesLast_cons]
      exact ⟨fun dates => ⟨fun same => absurd same (by decide), dates⟩, And.right⟩

/-- Setting up a query binds what it needs if and only if every parameter is bound. -/
theorem wp_bindQuery (query : SybaseQuery) (args : Option (List QoreValue))
    (isParamList : IsParamList query.paramList) :
    wp (bindQuery cfg id query args) (fun _ after => ∃ new, after.log = new ++ world.log ∧
        (ServeParams cfg world.connection.enc args (boundParams new) query.paramList 0 ↔
          BindsEvery args query.paramList))
      (fun _ _ => True) (fun _ _ => True) world := by
  rw [bindQuery, wp_bind, wp_modifyCommand, wp_bind, initiateLanguageCommand]
  simp only [wp_bind, wp_assert, wp_getCommand, wp_ctCall, wp_when, wp_doException, implies_true,
    true_and, and_true]
  intro _ cmd _ _
  have nothing : boundParams [⟨world.depth, .other, .call (.command cmd.mCmd query.mCmd)
    (cfg.lib.reply (.command cmd.mCmd query.mCmd) world.env).1⟩] = [] := rfl
  refine ⟨fun present => ?_, fun absent => ?_⟩
  · refine wp_mono_ok (wp_setParamsFrom args isParamList 0) ?_
    rintro _ after ⟨new, log, binds⟩
    refine ⟨new ++ [⟨world.depth, .other, .call (.command cmd.mCmd query.mCmd)
      (cfg.lib.reply (.command cmd.mCmd query.mCmd) world.env).1⟩], ?_, ?_⟩
    · rw [log, List.append_assoc]
      rfl
    · rw [boundParams_append, nothing, List.nil_append]
      refine Iff.trans binds ⟨fun dates => ⟨fun none => ?_, fun first second => ?_⟩, ?_⟩
      · rw [none] at present
        exact absurd present (by decide)
      · simpa only [Nat.zero_add] using dates first second
      · rintro ⟨-, dates⟩ first second
        simpa only [Nat.zero_add] using dates first second
  · have none : args = none := Option.not_isSome_iff_eq_none.mp absent
    refine ⟨[⟨world.depth, .other, .call (.command cmd.mCmd query.mCmd)
      (cfg.lib.reply (.command cmd.mCmd query.mCmd) world.env).1⟩], rfl, ?_⟩
    rw [nothing, serveParams_nil isParamList]
    refine ⟨fun noValue => ⟨fun _ => noValue, fun first _ _ atFirst _ => ?_⟩,
      fun every => every.present none⟩
    exact absurd (List.mem_of_getElem? atFirst) noValue

/-! ### Setting up a query -/

/-- Setting up a query serves every specification of its text, whenever it finishes without an
error: the query is initialized in one state, and a command binds it in another. -/
def SetUpServes (cfg : Config σ) (id : CommandId) (cmdText : Text)
    (args : Option (List QoreValue)) (before world : World σ) : Prop :=
  ∀ query between after, SybaseQuery.init cfg cmdText args before = (.ok (some query), between) →
    bindQuery cfg id query args world = (.ok (), after) →
      ∃ new pieces, after.log = new ++ world.log ∧ Splits pieces ∧ source pieces = cmdText ∧
        Served cfg args world.connection.enc pieces query new

/-- The text is a list of pieces, every `%v` of it is bound, and no text that is inlined has a zero
byte. -/
def BindsEveryOf (qore : QoreLib) (args : Option (List QoreValue)) (cmdText : Text) : Prop :=
  ∃ pieces, Splits pieces ∧ source pieces = cmdText ∧ BindsEvery args (letters pieces) ∧
    InlinesWhole qore args pieces 0

/-- Setting up a query that finishes serves every specification of its text if and only if every
`%v` is bound and every text is inlined as a whole. -/
theorem setUpServes_iff (cfg : Config σ) (id : CommandId) {cmdText : Text}
    {args : Option (List QoreValue)} {query : SybaseQuery} {before between world after : World σ}
    (noZero : '\x00' ∉ cmdText)
    (initialized : SybaseQuery.init cfg cmdText args before = (.ok (some query), between))
    (bound : bindQuery cfg id query args world = (.ok (), after)) :
    SetUpServes cfg id cmdText args before world ↔ BindsEveryOf cfg.qore args cmdText := by
  have finished := (scanned_of_init initialized).1
  have binds : ∀ pieces, letters pieces = query.paramList →
      ∃ new, after.log = new ++ world.log ∧
        (ServeParams cfg world.connection.enc args (boundParams new) (letters pieces) 0 ↔
          BindsEvery args (letters pieces)) := by
    intro pieces same
    have binds : wp (bindQuery cfg id query args) _ _ _ world :=
      wp_bindQuery query args (by rw [← same]; exact letters_isParamList pieces)
    rw [wp, bound, ← same] at binds
    exact binds
  constructor
  · intro serves
    obtain ⟨new, pieces, log, splits, rfl, served⟩ := serves query between after initialized bound
    have whole : InlinesWhole cfg.qore args pieces 0 :=
      inlinesWhole_of_noZero (served.mCmd ▸ noZero_scanLoop noZero finished)
    have same : letters pieces = query.paramList := by rw [scan_splits splits noZero whole finished]
    obtain ⟨new', log', binds⟩ := binds pieces same
    rw [List.append_cancel_right (log.symm.trans log')] at served
    exact ⟨pieces, splits, rfl, binds.mp served.params, whole⟩
  · rintro ⟨pieces, splits, rfl, every, whole⟩ query' between' after' initialized' bound'
    cases (Outcome.ok.inj (congrArg Prod.fst (initialized.symm.trans initialized')))
    cases (congrArg Prod.snd (bound.symm.trans bound'))
    have isOutput := scan_splits splits noZero whole finished
    obtain ⟨new, log, binds⟩ := binds pieces (by rw [isOutput])
    exact ⟨new, pieces, log, splits, rfl, by rw [isOutput], binds.mpr every⟩

/-- A state in which a command has been allocated. -/
def allocatedWorld (replies : List Reply) : World (List Reply) :=
  { World.opened replies with
    commands := Function.update (fun _ => none) 0
      (some ⟨none, some 0, -1, .resNone, ⟨true, []⟩, []⟩) }

theorem setUpServes_one :
    SetUpServes (Config.sample (CtLib.scripted false) true 1) 0 (text "%v") (some [.int 1])
      (allocatedWorld [{}, {}]) (allocatedWorld [{}, {}]) := by
  refine (setUpServes_iff _ 0 (by decide) rfl rfl).mpr
    ⟨[.value], .cons trivial .nil, rfl, ⟨fun none => absurd none (by simp), ?_⟩,
      fun _ absent => absurd absent List.not_mem_nil⟩
  intro first second less _ atSecond
  have below := (List.getElem?_eq_some_iff.mp atSecond).1
  exact absurd less (by simp [letters, Piece.letter?] at below; omega)

/-- An explicit date before another parameter. -/
def dateFirst : List QoreValue :=
  [.hash [(text "type", .string (text "date")), (text "value", .date ⟨false, 0, 0, none, false⟩)],
    .int 1]

/-- The second of two parameters is not bound when the first one is an explicit date. -/
theorem not_setUpServes_dateFirst :
    ¬SetUpServes (Config.sample (CtLib.scripted false) true 1) 0 (text "%v,%v") (some dateFirst)
      (allocatedWorld [{}, {}, {}]) (allocatedWorld [{}, {}, {}]) := by
  intro serves
  obtain ⟨new, pieces, log, splits, isText, served⟩ := serves _ _ _ rfl rfl
  have whole : InlinesWhole QoreLib.plain (some dateFirst) pieces 0 :=
    inlinesWhole_of_noZero (served.mCmd ▸ by decide)
  have isOutput : (⟨text "@par1,@par2", ['v', 'v'], []⟩ : SybaseQuery) =
      ⟨output QoreLib.plain (some dateFirst) pieces 0, letters pieces, names pieces⟩ :=
    scan_splits splits (by rw [isText]; decide) whole (by rw [isText]; rfl)
  have counts := List.Forall₂.length_eq served.params
  rw [← (SybaseQuery.mk.inj isOutput).2.1, ← log.trans (List.append_nil new)] at counts
  exact absurd counts (by decide)

end Command

end Sybase
