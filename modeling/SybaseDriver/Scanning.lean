/-
This file proves how the scanner of a command text ends, for every text. A marker
is looked at where it stands outside the quoted literals: the scanner raises an
exception if and only if one of those it reaches is not in order, and it leaves
the buffer if and only if they all are and it does not come to the end of the
text. The scanner leaves out characters where an argument it inlines has a zero
byte; a text is read so too here, and with nothing left out it is the text as it
stands.
-/

import SybaseDriver.Rewriting

namespace Sybase

namespace SybaseQuery

/-! ### Outside the quoted literals -/

/-- How many characters are left out after a specification, by its number and its letter. -/
abbrev Skip := Nat → Char → Nat

/-- Nothing is left out. -/
def noSkip : Skip := fun _ _ => 0

/-- What the scanner leaves out: as many characters as the text of the argument has from its first
zero byte on. -/
def leftOut (qore : QoreLib) (args : Option (List QoreValue)) : Skip := fun number second =>
  excess (replacement qore args number second)

/-- A specification with its letter. -/
def isSpecification (char : Char) : Bool := char = 'v' || char = 'd' || char = 's'

/-- A remainder of a text, after so many specifications, that is read outside the quoted literals of
another text, after so many. -/
inductive Outside (skip : Skip) : Nat → Text → Nat → Text → Prop where
  | here {number : Nat} {text : Text} : Outside skip number text number text
  | quoted {quote : Char} {body rest after : Text} {number later : Nat}
      (isQuote : isQuote quote = true) (closed : QuoteBody quote body)
      (outside : Outside skip number rest later after) :
      Outside skip number (quote :: (body ++ quote :: rest)) later after
  | specification {second : Char} {rest after : Text} {number later : Nat}
      (outside : Outside skip (number + 1) (rest.drop (skip number second)) later after) :
      Outside skip number ('%' :: second :: rest) later after
  | other {char : Char} {rest after : Text} {number later : Nat} (notQuote : isQuote char = false)
      (notPercent : char ≠ '%') (outside : Outside skip number rest later after) :
      Outside skip number (char :: rest) later after

/-- A text that is read to its end: its quoted literals are closed, and after each specification
there is as much as is left out there. -/
inductive Closes (skip : Skip) : Nat → Text → Prop where
  | nil {number : Nat} : Closes skip number []
  | quoted {quote : Char} {body rest : Text} {number : Nat} (isQuote : isQuote quote = true)
      (closed : QuoteBody quote body) (after : Closes skip number rest) :
      Closes skip number (quote :: (body ++ quote :: rest))
  | specification {second : Char} {rest : Text} {number : Nat}
      (isSpecification : isSpecification second = true) (enough : skip number second ≤ rest.length)
      (after : Closes skip (number + 1) (rest.drop (skip number second))) :
      Closes skip number ('%' :: second :: rest)
  | other {char : Char} {rest : Text} {number : Nat} (notQuote : isQuote char = false)
      (notPercent : char ≠ '%') (after : Closes skip number rest) :
        Closes skip number (char :: rest)

/-- A text that does not begin with a marker that is out of order: after a `%` stands a
specification, the argument of a `%s` has a text, and after a `:` stands a name. -/
structure Accepts (qore : QoreLib) (args : Option (List QoreValue)) (number : Nat)
    (after : Text) : Prop where
  percent : ∀ rest, after = '%' :: rest → ∃ ch ∈ rest.head?,
    ch = 'v' ∨ ch = 'd' ∨ ch = 's' ∧ (qore.concatString (argument args number)).isSome
  colon : ∀ rest, after = ':' :: rest → ∃ ch ∈ rest.head?, isNameChar ch = true

/-- The markers that are read outside the quoted literals of a text that comes after some
specifications are in order. -/
def IsScannable (skip : Skip) (qore : QoreLib) (args : Option (List QoreValue)) (before : Nat)
    (text : Text) : Prop :=
  ∀ number after, Outside skip before text number after → Accepts qore args number after

/-- A quoted literal ends in one place only. -/
theorem QuoteBody.unique {quote : Char} {body body' rest rest' : Text} (notEscape : quote ≠ '\\')
    (closed : QuoteBody quote body) (closed' : QuoteBody quote body')
    (same : body ++ quote :: rest = body' ++ quote :: rest') : body = body' ∧ rest = rest' := by
  induction closed generalizing body' with
  | nil =>
    cases closed' with
    | nil => exact ⟨rfl, (List.cons.inj same).2⟩
    | escaped later => exact absurd (List.cons.inj same).1 notEscape
    | plain noEscape noQuote later => exact absurd (List.cons.inj same).1.symm noQuote
  | @escaped char body later inductionHypothesis =>
    cases closed' with
    | nil => exact absurd (List.cons.inj same).1.symm notEscape
    | @escaped char' body' later' =>
      obtain ⟨rfl, tails⟩ := List.cons.inj (List.cons.inj same).2
      obtain ⟨rfl, rests⟩ := inductionHypothesis later' tails
      exact ⟨rfl, rests⟩
    | plain noEscape noQuote later' => exact absurd (List.cons.inj same).1.symm noEscape
  | @plain char body noEscape noQuote later inductionHypothesis =>
    cases closed' with
    | nil => exact absurd (List.cons.inj same).1 noQuote
    | escaped later' => exact absurd (List.cons.inj same).1 noEscape
    | @plain char' body' noEscape' noQuote' later' =>
      obtain ⟨rfl, tails⟩ := List.cons.inj same
      obtain ⟨rfl, rests⟩ := inductionHypothesis later' tails
      exact ⟨rfl, rests⟩

/-- A quote is no escape. -/
theorem ne_escape_of_isQuote {quote : Char} (quotes : isQuote quote = true) : quote ≠ '\\' := by
  rintro rfl
  exact absurd quotes (by decide)

/-- A quote that nothing closes. -/
def Unclosed (quote : Char) (rest : Text) : Prop :=
  ∀ body after, QuoteBody quote body → rest ≠ body ++ quote :: after

/-! ### Reading to the end -/

section Closes

variable {skip : Skip} {number : Nat} {rest : Text} {char quote second : Char}

/-- A quoted literal at the start of a text: it is the one the text begins with. -/
theorem closes_quoted {body : Text} (quotes : isQuote quote = true)
    (bodyCloses : QuoteBody quote body) :
    Closes skip number (quote :: (body ++ quote :: rest)) ↔ Closes skip number rest := by
  refine ⟨fun closes => ?_, .quoted quotes bodyCloses⟩
  generalize same : quote :: (body ++ quote :: rest) = whole at closes
  cases closes with
  | nil => cases same
  | quoted quotes' bodyCloses' after =>
    obtain ⟨rfl, tails⟩ := List.cons.inj same
    obtain ⟨-, rfl⟩ := bodyCloses.unique (ne_escape_of_isQuote quotes) bodyCloses' tails
    exact after
  | specification =>
    obtain ⟨rfl, -⟩ := List.cons.inj same
    exact absurd quotes (by decide)
  | other notQuote =>
    obtain ⟨rfl, -⟩ := List.cons.inj same
    exact absurd quotes (by rw [notQuote]; exact Bool.false_ne_true)

theorem closes_other (notQuote : isQuote char = false) (notPercent : char ≠ '%') :
    Closes skip number (char :: rest) ↔ Closes skip number rest := by
  refine ⟨fun closes => ?_, .other notQuote notPercent⟩
  cases closes with
  | quoted isQuote => exact absurd isQuote (by rw [notQuote]; exact Bool.false_ne_true)
  | specification => exact absurd rfl notPercent
  | other _ _ after => exact after

theorem closes_specification (isSpecification : isSpecification second = true) :
    Closes skip number ('%' :: second :: rest) ↔ skip number second ≤ rest.length ∧
      Closes skip (number + 1) (rest.drop (skip number second)) := by
  refine ⟨fun closes => ?_, fun both => .specification isSpecification both.1 both.2⟩
  generalize same : '%' :: second :: rest = whole at closes
  cases closes with
  | nil => cases same
  | quoted quotes =>
    obtain ⟨rfl, -⟩ := List.cons.inj same
    exact absurd quotes (by decide)
  | specification _ enough after =>
    cases same
    exact ⟨enough, after⟩
  | other _ notPercent =>
    obtain ⟨rfl, -⟩ := List.cons.inj same
    exact absurd rfl notPercent

theorem Unclosed.not_closes (quotes : isQuote quote = true) (unclosed : Unclosed quote rest) :
    ¬Closes skip number (quote :: rest) := by
  intro closes
  cases closes with
  | quoted _ bodyCloses after => exact unclosed _ _ bodyCloses rfl
  | specification => exact absurd quotes (by decide)
  | other notQuote => exact absurd quotes (by rw [notQuote]; exact Bool.false_ne_true)

/-- A name is skipped. -/
theorem closes_name {name : Text} (isName : ∀ char ∈ name, isNameChar char = true) :
    Closes skip number (name ++ rest) ↔ Closes skip number rest := by
  induction name with
  | nil => exact Iff.rfl
  | cons char name inductionHypothesis =>
    have here := isName char List.mem_cons_self
    have notPercent : char ≠ '%' := by
      rintro rfl
      exact absurd here (by decide)
    rw [List.cons_append, closes_other (isQuote_of_isNameChar here) notPercent]
    exact inductionHypothesis fun other member => isName other (List.mem_cons_of_mem _ member)

end Closes

/-! ### Markers in order -/

section Scannable

variable {skip : Skip} {qore : QoreLib} {args : Option (List QoreValue)} {before : Nat}
    {rest : Text}
  {char quote second : Char}

/-- A text that begins with no marker is accepted. -/
theorem accepts_of_head (noPercent : rest.head? ≠ some '%') (noColon : rest.head? ≠ some ':') :
    Accepts qore args before rest where
  percent after same := absurd (by rw [same]; rfl) noPercent
  colon after same := absurd (by rw [same]; rfl) noColon

/-- A quote is no marker. -/
theorem accepts_quote (quotes : isQuote quote = true) : Accepts qore args before
    (quote :: rest) := by
  refine accepts_of_head ?_ ?_
  · rintro head
    cases head
    exact absurd quotes (by decide)
  · rintro head
    cases head
    exact absurd quotes (by decide)

theorem isScannable_nil : IsScannable skip qore args before [] := by
  intro number after outside
  cases outside
  exact accepts_of_head (by simp) (by simp)

theorem isScannable_other (notQuote : isQuote char = false) (notPercent : char ≠ '%') :
    IsScannable skip qore args before (char :: rest) ↔
      Accepts qore args before (char :: rest) ∧ IsScannable skip qore args before rest := by
  constructor
  · intro scannable
    exact ⟨scannable _ _ .here,
      fun number after outside => scannable number after (.other notQuote notPercent outside)⟩
  · rintro ⟨accepts, scannable⟩ number after outside
    cases outside with
    | here => exact accepts
    | quoted quotes => exact absurd quotes (by rw [notQuote]; exact Bool.false_ne_true)
    | specification => exact absurd rfl notPercent
    | other _ _ later => exact scannable number after later

theorem isScannable_specification :
    IsScannable skip qore args before ('%' :: second :: rest) ↔
      Accepts qore args before ('%' :: second :: rest) ∧
        IsScannable skip qore args (before + 1) (rest.drop (skip before second)) := by
  constructor
  · intro scannable
    exact ⟨scannable _ _ .here, fun number after outside => scannable number after
      (.specification outside)⟩
  · rintro ⟨accepts, scannable⟩ number after outside
    generalize same : '%' :: second :: rest = whole at outside
    cases outside with
    | here => exact same ▸ accepts
    | quoted quotes =>
      obtain ⟨rfl, -⟩ := List.cons.inj same
      exact absurd quotes (by decide)
    | specification later =>
      cases same
      exact scannable number after later
    | other _ notPercent =>
      obtain ⟨rfl, -⟩ := List.cons.inj same
      exact absurd rfl notPercent

theorem isScannable_quoted {body : Text} (quotes : isQuote quote = true)
    (closed : QuoteBody quote body) :
    IsScannable skip qore args before (quote :: (body ++ quote :: rest)) ↔
      IsScannable skip qore args before rest := by
  constructor
  · exact fun scannable number after outside =>
      scannable number after (.quoted quotes closed outside)
  · intro scannable number after outside
    generalize same : quote :: (body ++ quote :: rest) = whole at outside
    cases outside with
    | here =>
      rw [← same]
      exact accepts_quote quotes
    | quoted quotes' closed' later =>
      obtain ⟨rfl, tails⟩ := List.cons.inj same
      obtain ⟨-, rfl⟩ := closed.unique (ne_escape_of_isQuote quotes) closed' tails
      exact scannable number after later
    | specification =>
      obtain ⟨rfl, -⟩ := List.cons.inj same
      exact absurd quotes (by decide)
    | other notQuote =>
      obtain ⟨rfl, -⟩ := List.cons.inj same
      exact absurd quotes (by rw [notQuote]; exact Bool.false_ne_true)

/-- Nothing after a quote that nothing closes stands outside the literals. -/
theorem Unclosed.isScannable (quotes : isQuote quote = true) (unclosed : Unclosed quote rest) :
    IsScannable skip qore args before (quote :: rest) := by
  intro number after outside
  cases outside with
  | here => exact accepts_quote quotes
  | quoted _ closed later => exact absurd rfl (unclosed _ _ closed)
  | specification => exact absurd quotes (by decide)
  | other notQuote => exact absurd quotes (by rw [notQuote]; exact Bool.false_ne_true)

/-- A name is skipped. -/
theorem isScannable_name {name : Text} (isName : ∀ char ∈ name, isNameChar char = true) :
    IsScannable skip qore args before (name ++ rest) ↔ IsScannable skip qore args before rest := by
  induction name with
  | nil => exact Iff.rfl
  | cons char name inductionHypothesis =>
    have here := isName char List.mem_cons_self
    have notPercent : char ≠ '%' := by
      rintro rfl
      exact absurd here (by decide)
    have notColon : char ≠ ':' := by
      rintro rfl
      exact absurd here (by decide)
    have accepted : Accepts qore args before (char :: (name ++ rest)) :=
      accepts_of_head (by simpa using notPercent) (by simpa using notColon)
    rw [List.cons_append, isScannable_other (isQuote_of_isNameChar here) notPercent,
      inductionHypothesis fun other member => isName other (List.mem_cons_of_mem _ member)]
    exact ⟨fun scannable => scannable.2, fun scannable => ⟨accepted, scannable⟩⟩

end Scannable

/-! ### A quote that nothing closes -/

/-- The scanner leaves the buffer in a literal that is not closed. -/
theorem skipQuoted_of_unclosed {quote : Char} {rest : Text} (quotes : isQuote quote = true)
    (unclosed : Unclosed quote rest) (done : Text) (bound : Nat) :
    skipQuoted (done ++ rest) quote bound done.length = none := by
  induction bound generalizing done rest with
  | zero => rfl
  | succ bound inductionHypothesis =>
    rw [skipQuoted]
    cases rest with
    | nil =>
      have zero : ¬ '\x00' = quote := by
        rintro rfl
        exact absurd quotes (by decide)
      have past : skipQuoted (done ++ []) quote bound (done.length + 1) = none := by
        cases bound with
        | zero => rfl
        | succ bound => rw [skipQuoted, charAt, if_neg (by simp), if_neg (by simp)]; rfl
      rw [charAt_length]
      simpa [zero] using past
    | cons char rest =>
      rw [charAt_append]
      by_cases escape : char = '\\'
      · subst escape
        cases rest with
        | nil =>
          have past : skipQuoted (done ++ ['\\']) quote bound (done.length + 2) = none := by
            cases bound with
            | zero => rfl
            | succ bound => rw [skipQuoted, charAt, if_neg (by simp), if_neg (by simp)]; rfl
          simp [past]
        | cons hidden rest =>
          have moved := @inductionHypothesis rest
            (fun body after closed same => unclosed _ _ (.escaped closed) (by rw [same]; rfl))
            (done ++ ['\\', hidden])
          rw [List.append_assoc, List.length_append] at moved
          simpa [charAt_succ] using moved
      · by_cases isEnd : char = quote
        · subst isEnd
          exact absurd rfl (unclosed [] rest .nil)
        · have moved := @inductionHypothesis rest
            (fun body after closed same =>
              unclosed _ _ (.plain escape isEnd closed) (by rw [same]; rfl)) (done ++ [char])
          rw [List.append_assoc, List.length_append] at moved
          simpa [escape, isEnd] using moved

/-! ### How the scanner ends -/

section Ends

variable {qore : QoreLib} {args : Option (List QoreValue)} {before before' : Nat}
  {done rest rest' : Text} {paramList : List Char} {placeholders : List Text}

/-- What an ending of the scanner says of a text that comes after some specifications. -/
def EndsAs (qore : QoreLib) (args : Option (List QoreValue)) (before : Nat) (rest : Text) :
    Option Scanned → Prop
  | some (.finished _) => Closes (leftOut qore args) before rest ∧
      IsScannable (leftOut qore args) qore args before rest
  | some (.exception _) => ¬IsScannable (leftOut qore args) qore args before rest
  | some .overrun => ¬Closes (leftOut qore args) before rest ∧
      IsScannable (leftOut qore args) qore args before rest
  | some (.next _) => False
  | none => False

/-- Texts that agree on their literals and markers end alike. -/
theorem EndsAs.of_iff {outcome : Option Scanned} (ends : EndsAs qore args before' rest' outcome)
    (closes : Closes (leftOut qore args) before rest ↔ Closes (leftOut qore args) before' rest')
    (scannable : IsScannable (leftOut qore args) qore args before rest ↔
      IsScannable (leftOut qore args) qore args before' rest') :
    EndsAs qore args before rest outcome := by
  unfold EndsAs at ends ⊢
  rwa [closes, scannable]

/-- A quote that nothing closes stops the scanner outside the buffer. -/
theorem scanStep_unclosed {quote : Char} (quotes : isQuote quote = true)
    (unclosed : Unclosed quote rest) :
    scanStep qore args (between done (quote :: rest) paramList placeholders) = .overrun := by
  have noZero : quote ≠ '\x00' := by
    rintro rfl
    exact absurd quotes (by decide)
  have skipped := skipQuoted_of_unclosed quotes unclosed (done ++ [quote])
    ((done ++ quote :: rest).length + 2)
  have one : (done ++ [quote]).length = done.length + 1 := by simp
  rw [List.append_assoc, List.singleton_append, one] at skipped
  rw [isQuote] at quotes
  rw [scanStep, between, charAt_append]
  simp only [if_neg noZero, quotes, if_true]
  rw [skipped]

/-- The passes that remain end as they should. -/
def EndsAfter (qore : QoreLib) (args : Option (List QoreValue)) (bound : Nat) : Prop :=
  ∀ (done rest : Text) (paramList : List Char) (placeholders : List Text), '\x00' ∉ rest →
    rest.length < bound → EndsAs qore args paramList.length rest
      (scanLoop qore args bound (between done rest paramList placeholders))

/-- A specification that is passed: the text after it, but for what is left out, decides. -/
theorem EndsAfter.inlined {bound : Nat} (endsAfter : EndsAfter qore args bound)
    {second letter : Char} {str : Text} (noZero : '\x00' ∉ '%' :: second :: rest)
    (enough : ('%' :: second :: rest).length < bound + 1)
    (accepts : Accepts qore args paramList.length ('%' :: second :: rest))
    (isSpecification : isSpecification second = true)
    (replaced : replacement qore args paramList.length second = str) :
    EndsAs qore args paramList.length ('%' :: second :: rest)
      (scanLoop qore args bound (inlined done rest str (paramList ++ [letter]) placeholders)) := by
  have skips : leftOut qore args paramList.length second = excess str := by rw [leftOut, replaced]
  have scannable : IsScannable (leftOut qore args) qore args paramList.length
      ('%' :: second :: rest) ↔
      IsScannable (leftOut qore args) qore args (paramList.length + 1)
        (rest.drop (excess str)) := by
    rw [isScannable_specification, skips]
    exact ⟨fun both => both.2, fun later => ⟨accepts, later⟩⟩
  have closes := @closes_specification (leftOut qore args) paramList.length rest
    second isSpecification
  rw [skips] at closes
  rw [List.length_cons, List.length_cons] at enough
  by_cases fits : excess str ≤ rest.length
  · rw [inlined_eq_between fits]
    have later := endsAfter (done ++ cString str ++ rest.take (excess str)) (rest.drop (excess str))
      (paramList ++ [letter]) placeholders
      (fun member => noZero (List.mem_cons_of_mem _
        (List.mem_cons_of_mem _ (List.mem_of_mem_drop member))))
      (by rw [List.length_drop]; omega)
    rw [List.length_append, List.length_singleton] at later
    exact later.of_iff (closes.trans (and_iff_right fits)) scannable
  · obtain ⟨bound, rfl⟩ := Nat.exists_eq_add_one_of_ne_zero (by omega : bound ≠ 0)
    rw [scanLoop, scanStep_inlined (Nat.lt_of_not_le fits)]
    refine ⟨fun closed => fits (closes.mp closed).1, scannable.mpr ?_⟩
    rw [List.drop_of_length_le (by omega)]
    exact isScannable_nil

/-- The scanner at a `%`. -/
theorem EndsAfter.percent {bound : Nat} (endsAfter : EndsAfter qore args bound)
    (noZero : '\x00' ∉ '%' :: rest) (enough : ('%' :: rest).length < bound + 1) :
    EndsAs qore args paramList.length ('%' :: rest)
      (scanLoop qore args (bound + 1) (between done ('%' :: rest) paramList placeholders)) := by
  rw [scanLoop]
  cases rest with
  | nil =>
    rw [scanStep_percent]
    intro scannable
    obtain ⟨ch, absent, -⟩ := (scannable _ _ .here).percent _ rfl
    cases absent
  | cons second rest =>
    have accepted (follows : second = 'v' ∨ second = 'd' ∨ second = 's' ∧
        (qore.concatString (argument args paramList.length)).isSome) :
        Accepts qore args paramList.length ('%' :: second :: rest) := by
      refine ⟨fun after same => ?_, fun after same => ?_⟩
      · obtain ⟨-, rfl⟩ := List.cons.inj same
        exact ⟨second, rfl, follows⟩
      · cases same
    by_cases isValue : second = 'v'
    · subst isValue
      rw [scanStep_value]
      exact endsAfter.inlined noZero enough (accepted (.inl rfl)) rfl rfl
    by_cases isNumeric : second = 'd'
    · subst isNumeric
      rw [scanStep_numeric]
      exact endsAfter.inlined noZero enough (accepted (.inr (.inl rfl))) rfl rfl
    have rejected (follows : second = 's' →
        (qore.concatString (argument args paramList.length)).isSome = false) :
        ¬IsScannable (leftOut qore args) qore args paramList.length ('%' :: second :: rest) := by
      intro scannable
      obtain ⟨ch, isHead, specified⟩ := (scannable _ _ .here).percent _ rfl
      cases isHead
      rcases specified with rfl | rfl | ⟨rfl, converts⟩
      · exact isValue rfl
      · exact isNumeric rfl
      · exact Bool.false_ne_true ((follows rfl).symm.trans converts)
    by_cases isString : second = 's'
    · subst isString
      cases found : qore.concatString (argument args paramList.length) with
      | none =>
        rw [scanStep_string_none found]
        exact rejected fun _ => by rw [found]; rfl
      | some value =>
        rw [scanStep_string found]
        have replaced : replacement qore args paramList.length 's' = value := by
          rw [replacement, if_neg (by decide), if_neg (by decide), if_pos rfl, found]
          rfl
        exact endsAfter.inlined noZero enough (accepted (.inr (.inr ⟨rfl, by rw [found]; rfl⟩))) rfl
          replaced
    · rw [scanStep_bad isValue isNumeric isString]
      exact rejected fun same => absurd same isString

/-- The scanner at a `:`. -/
theorem EndsAfter.colon {bound : Nat} (endsAfter : EndsAfter qore args bound)
    (noZero : '\x00' ∉ ':' :: rest) (enough : (':' :: rest).length < bound + 1) :
    EndsAs qore args paramList.length (':' :: rest)
      (scanLoop qore args (bound + 1) (between done (':' :: rest) paramList placeholders)) := by
  obtain ⟨name, after, isName, ended, rfl⟩ := exists_name rest
  rw [scanLoop, scanStep_placeholder isName ended]
  have here : IsScannable (leftOut qore args) qore args paramList.length (':' :: (name ++ after)) ↔
      Accepts qore args paramList.length (':' :: (name ++ after)) ∧
        IsScannable (leftOut qore args) qore args paramList.length after := by
    rw [isScannable_other (by decide) (by decide), isScannable_name isName]
  cases name with
  | nil =>
    rw [if_pos rfl]
    intro scannable
    obtain ⟨ch, isHead, isName⟩ := (here.mp scannable).1.colon _ rfl
    exact Bool.false_ne_true ((ended ch isHead).symm.trans isName)
  | cons first name =>
    rw [if_neg (List.cons_ne_nil _ _)]
    have accepts : Accepts qore args paramList.length (':' :: (first :: name ++ after)) := by
      refine ⟨fun _ same => ?_, fun _ same => ?_⟩
      · cases same
      · obtain ⟨-, rfl⟩ := List.cons.inj same
        exact ⟨first, rfl, isName first List.mem_cons_self⟩
    have later := endsAfter (done ++ '@' :: first :: name) after paramList
      (placeholders ++ [first :: name])
      (fun member => noZero (List.mem_cons_of_mem _ (List.mem_append_right _ member)))
      (by simp only [List.length_cons, List.length_append] at enough; omega)
    refine later.of_iff ?_ (here.trans ⟨fun both => both.2, fun scannable => ⟨accepts, scannable⟩⟩)
    rw [closes_other (by decide) (by decide), closes_name isName]

/-- The scanner ends, as the rest of the text says. -/
theorem endsAfter_all (bound : Nat) : EndsAfter qore args bound := by
  induction bound with
  | zero => exact fun _ _ _ _ _ none => absurd none (Nat.not_lt_zero _)
  | succ bound inductionHypothesis =>
    intro done rest paramList placeholders noZero enough
    cases rest with
    | nil =>
      rw [scanLoop, scanStep_end]
      exact ⟨.nil, isScannable_nil⟩
    | cons char rest =>
      have noZeroRest : '\x00' ∉ rest := fun member => noZero (List.mem_cons_of_mem _ member)
      by_cases quotes : isQuote char = true
      · by_cases unclosed : Unclosed char rest
        · rw [scanLoop, scanStep_unclosed quotes unclosed]
          exact ⟨unclosed.not_closes quotes, unclosed.isScannable quotes⟩
        · simp only [Unclosed, not_forall, not_not] at unclosed
          obtain ⟨body, after, closed, rfl⟩ := unclosed
          rw [scanLoop, scanStep_quoted quotes closed]
          have later := inductionHypothesis (done ++ (char :: body ++ [char])) after paramList
            placeholders
            (fun member => noZeroRest (by simp [member]))
            (by simp only [List.length_cons, List.length_append] at enough; omega)
          exact later.of_iff (closes_quoted quotes closed) (isScannable_quoted quotes closed)
      · have notQuote : isQuote char = false := by simpa using quotes
        by_cases percent : char = '%'
        · subst percent
          exact inductionHypothesis.percent noZero enough
        by_cases colon : char = ':'
        · subst colon
          exact inductionHypothesis.colon noZero enough
        have notZero : char ≠ '\x00' := fun zero => noZero (zero ▸ List.mem_cons_self)
        have accepts : Accepts qore args paramList.length (char :: rest) :=
          accepts_of_head (by simpa using percent) (by simpa using colon)
        rw [scanLoop, scanStep_plain notZero notQuote percent colon]
        have later := inductionHypothesis (done ++ [char]) rest paramList placeholders noZeroRest
          (by simp only [List.length_cons] at enough; omega)
        exact later.of_iff (closes_other notQuote percent)
          ((isScannable_other notQuote percent).trans
          ⟨fun both => both.2, fun scannable => ⟨accepts, scannable⟩⟩)

/-- How the scanner ends on a command text. -/
theorem scan_endsAs {cmdText : Text} (noZero : '\x00' ∉ cmdText) :
    EndsAs qore args 0 cmdText (scan qore args cmdText) :=
  endsAfter_all (cmdText.length + 1) [] cmdText [] [] noZero (Nat.lt_succ_self _)

/-- The pieces of a text whose markers are in order are read by the scanner as they stand, where no
text it inlines has a zero byte. -/
theorem Splits.read {pieces : List Piece} (splits : Splits pieces)
    (whole : InlinesWhole qore args pieces before)
    (scannable : IsScannable noSkip qore args before (source pieces)) :
    Closes (leftOut qore args) before (source pieces) ∧
      IsScannable (leftOut qore args) qore args before (source pieces) := by
  induction splits generalizing before with
  | nil => exact ⟨.nil, isScannable_nil⟩
  | @cons piece pieces begins rest inductionHypothesis =>
    have text : source (piece :: pieces) = piece.source ++ source pieces := List.flatMap_cons
    rw [text] at scannable ⊢
    -- a specification whose replacement has no zero byte
    have passes : ∀ second, isSpecification second = true →
        leftOut qore args before second = 0 → InlinesWhole qore args pieces (before + 1) →
        IsScannable noSkip qore args before ('%' :: second :: source pieces) →
        Closes (leftOut qore args) before ('%' :: second :: source pieces) ∧
          IsScannable (leftOut qore args) qore args before ('%' :: second :: source pieces) := by
      intro second isSpecification nothing whole scannable
      obtain ⟨accepts, scannable⟩ := isScannable_specification.mp scannable
      obtain ⟨closes, later⟩ := inductionHypothesis whole scannable
      rw [closes_specification isSpecification, isScannable_specification, nothing]
      exact ⟨⟨Nat.zero_le _, closes⟩, accepts, later⟩
    cases piece with
    | plain char =>
      obtain ⟨accepts, scannable⟩ := (isScannable_other begins.1 begins.2.1).mp scannable
      obtain ⟨closes, later⟩ := inductionHypothesis whole scannable
      exact ⟨.other begins.1 begins.2.1 closes, (isScannable_other begins.1 begins.2.1).mpr
        ⟨accepts, later⟩⟩
    | quoted quote body =>
      rw [Piece.source, List.append_assoc, List.cons_append, List.singleton_append] at scannable ⊢
      obtain ⟨closes, later⟩ := inductionHypothesis whole
        ((isScannable_quoted begins.1 begins.2).mp scannable)
      exact ⟨.quoted begins.1 begins.2 closes, (isScannable_quoted begins.1 begins.2).mpr later⟩
    | value => exact passes 'v' rfl (excess_of_noZero (noZero_parName _)) whole scannable
    | numeric =>
      obtain ⟨here, whole⟩ := List.forall_mem_cons.mp whole
      exact passes 'd' rfl (excess_of_noZero here) whole scannable
    | string =>
      obtain ⟨here, whole⟩ := List.forall_mem_cons.mp whole
      exact passes 's' rfl (excess_of_noZero here) whole scannable
    | placeholder name =>
      rw [Piece.source, List.cons_append] at scannable ⊢
      have colon : isQuote ':' = false := by decide
      have notPercent : ':' ≠ '%' := by decide
      rw [isScannable_other colon notPercent, isScannable_name begins.2.1] at scannable
      obtain ⟨closes, later⟩ := inductionHypothesis whole scannable.2
      rw [closes_other colon notPercent, closes_name begins.2.1, isScannable_other colon notPercent,
        isScannable_name begins.2.1]
      exact ⟨closes, scannable.1, later⟩

end Ends

/-! ### `sybase_query::init` -/

section Init

variable {σ : Type} {cfg : Config σ} {args : Option (List QoreValue)} {cmdText : Text}
  {world : World σ}

/-- `init` returns a query. -/
def InitSucceeds (cfg : Config σ) (args : Option (List QoreValue)) (cmdText : Text)
    (world : World σ) : Prop := ∃ query after, init cfg cmdText args world =
    (.ok (some query), after)

/-- `init` returns a query if and only if the text is read to its end, with what is left out, and
the markers that are read are in order. -/
theorem initSucceeds_iff (noZero : '\x00' ∉ cmdText) : InitSucceeds cfg args cmdText world ↔
    Closes (leftOut cfg.qore args) 0 cmdText ∧
      IsScannable (leftOut cfg.qore args) cfg.qore args 0 cmdText := by
  have ends : EndsAs cfg.qore args 0 cmdText (scan cfg.qore args cmdText) := scan_endsAs noZero
  unfold InitSucceeds init
  cases scanned : scan cfg.qore args cmdText with
  | none => exact (scanned ▸ ends : EndsAs _ _ _ _ none).elim
  | some outcome =>
    rw [scanned] at ends
    cases outcome with
    | next scan => exact ends.elim
    | overrun =>
      refine iff_of_false ?_ fun both => ends.1 both.1
      rintro ⟨query, after, ran⟩
      cases ran
    | exception raised =>
      refine iff_of_false ?_ fun both => ends both.2
      rintro ⟨query, after, ran⟩
      cases ran
    | finished query => exact iff_of_true ⟨query, world, rfl⟩ ends

/-- A query that `init` returns was scanned, and leaves the state as it was. -/
theorem scanned_of_init {query : SybaseQuery} {after : World σ}
    (ran : init cfg cmdText args world = (.ok (some query), after)) :
    scan cfg.qore args cmdText = some (.finished query) ∧ after = world := by
  unfold init at ran
  cases scanned : scan cfg.qore args cmdText with
  | none =>
    rw [scanned] at ran
    cases ran
  | some outcome =>
    rw [scanned] at ran
    cases outcome with
    | finished query =>
      cases ran
      exact ⟨rfl, rfl⟩
    | next scan | overrun | exception raised => cases ran

/-- A command text is rewritten as it should be: `init` returns 0 if and only if the markers outside
the quoted literals are in order, and what it returns then is the output of the pieces of the
text. -/
structure Rewritten (cfg : Config σ) (args : Option (List QoreValue)) (cmdText : Text)
    (world : World σ) : Prop where
  succeeds : InitSucceeds cfg args cmdText world ↔ IsScannable noSkip cfg.qore args 0 cmdText
  output : ∀ query after, init cfg cmdText args world = (.ok (some query), after) →
    after = world ∧ ∃ pieces, Splits pieces ∧ source pieces = cmdText ∧
      query = ⟨output cfg.qore args pieces 0, letters pieces, names pieces⟩

/-- No text that is inlined has a zero byte; or the markers are not in order, as they stand, nor is
the text in order as the scanner reads it. -/
def InlinesInOrder (qore : QoreLib) (args : Option (List QoreValue)) (cmdText : Text) : Prop :=
  (IsScannable noSkip qore args 0 cmdText →
    ∃ pieces, Splits pieces ∧ source pieces = cmdText ∧ InlinesWhole qore args pieces 0) ∧
  (¬IsScannable noSkip qore args 0 cmdText →
    ¬(Closes (leftOut qore args) 0 cmdText ∧ IsScannable (leftOut qore args) qore args 0 cmdText))

/-- A command text is rewritten as it should be if and only if no text that is inlined has a zero
byte, or its markers are out of order however it is read. -/
theorem init_rewrites_iff (noZero : '\x00' ∉ cmdText) :
    Rewritten cfg args cmdText world ↔ InlinesInOrder cfg.qore args cmdText := by
  constructor
  · intro rewritten
    refine ⟨fun scannable => ?_, fun notScannable read => ?_⟩
    · obtain ⟨query, after, ran⟩ := rewritten.succeeds.mpr scannable
      obtain ⟨-, pieces, splits, isText, rfl⟩ := rewritten.output query after ran
      exact ⟨pieces, splits, isText,
        inlinesWhole_of_noZero (noZero_scanLoop noZero (scanned_of_init ran).1)⟩
    · exact notScannable (rewritten.succeeds.mp ((initSucceeds_iff noZero).mpr read))
  · rintro ⟨inOrder, outOfOrder⟩
    by_cases scannable : IsScannable noSkip cfg.qore args 0 cmdText
    · obtain ⟨pieces, splits, rfl, whole⟩ := inOrder scannable
      refine ⟨iff_of_true ((initSucceeds_iff noZero).mpr (splits.read whole scannable)) scannable,
        fun query after ran => ?_⟩
      obtain ⟨finished, same⟩ := scanned_of_init ran
      exact ⟨same, pieces, splits, rfl, scan_splits splits noZero whole finished⟩
    · have fails : ¬InitSucceeds cfg args cmdText world := fun succeeds =>
        outOfOrder scannable ((initSucceeds_iff noZero).mp succeeds)
      exact ⟨iff_of_false fails scannable, fun query after ran => absurd ⟨query, after, ran⟩ fails⟩

/-- A quoted `%`, a placeholder and a `%v`. -/
def sampleText : Text := ['"', '%', '"', ':', 'a', ' ', '%', 'v']

theorem isScannable_sampleText {qore : QoreLib} : IsScannable noSkip qore none 0 sampleText := by
  have value : IsScannable noSkip qore none 0 ['%', 'v'] := by
    refine isScannable_specification.mpr ⟨⟨?_, ?_⟩, isScannable_nil⟩
    · rintro rest same
      cases same
      exact ⟨'v', rfl, .inl rfl⟩
    · rintro rest same
      cases same
  have blank : IsScannable noSkip qore none 0 [' ', '%', 'v'] :=
    (isScannable_other rfl (by decide)).mpr ⟨accepts_of_head (by decide) (by decide), value⟩
  have named : IsScannable noSkip qore none 0 [':', 'a', ' ', '%', 'v'] := by
    refine (isScannable_other rfl (by decide)).mpr ⟨⟨?_, ?_⟩, ?_⟩
    · rintro rest same
      cases same
    · rintro rest same
      cases same
      exact ⟨'a', rfl, rfl⟩
    · exact (@isScannable_name noSkip qore none 0 [' ', '%', 'v'] ['a'] (by simp; decide)).mpr blank
  exact (@isScannable_quoted noSkip qore none 0 [':', 'a', ' ', '%', 'v'] '"' ['%'] rfl
    (.plain (by decide) (by decide) .nil)).mpr named

theorem init_rewrites_iff_sample :
    Rewritten (Config.sample (CtLib.scripted false) true 1) none sampleText (World.opened []) := by
  have splits : Splits [.quoted '"' ['%'], .placeholder ['a'], .plain ' ', .value] :=
    .cons ⟨rfl, .plain (by decide) (by decide) .nil⟩
      (.cons ⟨by decide, by simp; decide, by simp [source, Piece.source]; decide⟩
        (.cons ⟨rfl, by decide, by decide⟩ (.cons trivial .nil)))
  exact (init_rewrites_iff (by decide)).mpr
    ⟨fun _ => ⟨_, splits, rfl, fun str absent => absurd absent List.not_mem_nil⟩,
      fun notScannable => absurd isScannable_sampleText notScannable⟩

/-- The argument of a `%s` has a zero byte: the scanner goes on behind the end of the text. -/
theorem not_rewritten_zeroByte : ¬Rewritten (Config.sample (CtLib.scripted false) true 1)
    (some [.string ['a', '\x00', 'b']]) (text "%s") (World.opened []) := by
  intro rewritten
  have scannable : IsScannable noSkip QoreLib.plain (some [.string ['a', '\x00', 'b']]) 0
      (text "%s") := by
    refine isScannable_specification.mpr ⟨⟨?_, ?_⟩, isScannable_nil⟩
    · rintro rest same
      cases same
      exact ⟨'s', rfl, .inr (.inr ⟨rfl, rfl⟩)⟩
    · rintro rest same
      cases same
  obtain ⟨query, after, ran⟩ := rewritten.succeeds.mpr scannable
  cases ran

/-- `init` returns: with a query, or with an exception that was raised. -/
def InitReturns (cfg : Config σ) (args : Option (List QoreValue)) (cmdText : Text)
    (world : World σ) : Prop :=
  ∃ result after, init cfg cmdText args world = (.ok result, after) ∧
    (result = none → ∃ raised, after.xsink = raised :: world.xsink)

/-- `init` returns, without leaving the buffer, if and only if the text is read to its end, with
what is left out after a text with a zero byte, or one of the markers that are read is out of
order. -/
theorem initReturns_iff (noZero : '\x00' ∉ cmdText) :
    InitReturns cfg args cmdText world ↔
      Closes (leftOut cfg.qore args) 0 cmdText ∨
        ¬IsScannable (leftOut cfg.qore args) cfg.qore args 0 cmdText := by
  have ends : EndsAs cfg.qore args 0 cmdText (scan cfg.qore args cmdText) := scan_endsAs noZero
  unfold InitReturns init
  cases scanned : scan cfg.qore args cmdText with
  | none => exact (scanned ▸ ends : EndsAs _ _ _ _ none).elim
  | some outcome =>
    rw [scanned] at ends
    cases outcome with
    | next scan => exact ends.elim
    | overrun =>
      constructor
      · rintro ⟨result, after, ran, -⟩
        cases ran
      · rintro (closes | notScannable)
        · exact absurd closes ends.1
        · exact absurd ends.2 notScannable
    | exception raised =>
      exact ⟨fun _ => .inr ends, fun _ => ⟨none, _, rfl, fun _ => ⟨_, rfl⟩⟩⟩
    | finished query =>
      exact ⟨fun _ => .inl ends.1, fun _ => ⟨some query, world, rfl, by simp⟩⟩

theorem initReturns_percent :
    InitReturns (Config.sample (CtLib.scripted false) true 1) none
      ['%', '"'] (World.opened []) := by
  refine (initReturns_iff (by decide)).mpr (.inr fun scannable => ?_)
  obtain ⟨ch, isHead, specified⟩ := (scannable _ _ .here).percent _ rfl
  cases isHead
  rcases specified with same | same | ⟨same, -⟩ <;> cases same

/-- A quote that nothing closes. -/
theorem not_initReturns_unclosed :
    ¬ InitReturns (Config.sample (CtLib.scripted false) true 1) none (text "'")
      (World.opened []) := by
  rintro ⟨result, after, ran, -⟩
  cases ran

end Init

end SybaseQuery

end Sybase
