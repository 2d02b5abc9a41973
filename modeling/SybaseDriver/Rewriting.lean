/-
This file proves what the rewriting of a command text does. A text whose quotes are
closed is a list of pieces: characters copied as they are, quoted strings,
specifications and placeholders. The scanner works on positions in the buffer it
rewrites; it is shown to treat the pieces of the text one after another, each
specification with the argument of its own number, whatever the pieces before it
were replaced by. An argument whose text has a zero byte is the exception: only what
comes before that is inlined, but the scanner goes on by the length of the whole.
-/

import Mathlib
import SybaseDriver.Query

namespace Sybase

namespace SybaseQuery

/-! ### Pieces -/

/-- A piece of a command text. -/
inductive Piece where
  | plain (char : Char)
  | quoted (quote : Char) (body : Text)
  | value
  | numeric
  | string
  | placeholder (name : Text)
  deriving DecidableEq, Repr

/-- The text of a piece in the command text. -/
def Piece.source : Piece → Text
  | plain char => [char]
  | quoted quote body => quote :: body ++ [quote]
  | value => ['%', 'v']
  | numeric => ['%', 'd']
  | string => ['%', 's']
  | placeholder name => ':' :: name

/-- The text of a list of pieces. -/
def source (pieces : List Piece) : Text := pieces.flatMap Piece.source

/-- The letter a specification leaves in the list of parameters. -/
def Piece.letter? : Piece → Option Char
  | value => some 'v'
  | numeric => some 'd'
  | string => some 'd'
  | _ => none

/-- The letters of the specifications of a text. -/
def letters (pieces : List Piece) : List Char := pieces.filterMap Piece.letter?

/-- The name of a placeholder. -/
def Piece.name? : Piece → Option Text
  | placeholder name => some name
  | _ => none

/-- The names of the placeholders of a text. -/
def names (pieces : List Piece) : List Text := pieces.filterMap Piece.name?

/-- The rewritten text of a list of pieces, after some specifications. -/
def output (qore : QoreLib) (args : Option (List QoreValue)) : List Piece → Nat → Text
  | [], _ => []
  | .plain char :: rest, index => char :: output qore args rest index
  | .quoted quote body :: rest, index =>
    (quote :: body ++ [quote]) ++ output qore args rest index
  | .value :: rest, index => parName (index + 1) ++ output qore args rest (index + 1)
  | .numeric :: rest, index =>
    qore.concatNumeric (argument args index) ++ output qore args rest (index + 1)
  | .string :: rest, index =>
    (qore.concatString (argument args index)).getD [] ++ output qore args rest (index + 1)
  | .placeholder name :: rest, index => ('@' :: name) ++ output qore args rest index

/-- The texts of the arguments that are inlined for a list of pieces, after some specifications. -/
def inlinedTexts (qore : QoreLib) (args : Option (List QoreValue)) : List Piece → Nat → List Text
  | [], _ => []
  | .value :: rest, index => inlinedTexts qore args rest (index + 1)
  | .numeric :: rest, index =>
    qore.concatNumeric (argument args index) :: inlinedTexts qore args rest (index + 1)
  | .string :: rest, index =>
    (qore.concatString (argument args index)).getD [] :: inlinedTexts qore args rest (index + 1)
  | .plain _ :: rest, index | .quoted _ _ :: rest, index | .placeholder _ :: rest, index =>
    inlinedTexts qore args rest index

/-- No text that is inlined has a zero byte. -/
def InlinesWhole (qore : QoreLib) (args : Option (List QoreValue)) (pieces : List Piece)
    (index : Nat) : Prop := ∀ str ∈ inlinedTexts qore args pieces index, '\x00' ∉ str

/-- The inside of a quoted string: a backslash stands before any character, the quote only after
one. -/
inductive QuoteBody (quote : Char) : Text → Prop where
  | nil : QuoteBody quote []
  | escaped {char : Char} {body : Text} (rest : QuoteBody quote body) :
      QuoteBody quote ('\\' :: char :: body)
  | plain {char : Char} {body : Text} (noEscape : char ≠ '\\') (noQuote : char ≠ quote)
      (rest : QuoteBody quote body) : QuoteBody quote (char :: body)

/-- Whether a character opens a quoted string. -/
def isQuote (char : Char) : Bool := char = '"' || char = '\''

/-- A piece that the scanner reads as such when it begins a text with a certain remainder. -/
def Piece.Begins (rest : Text) : Piece → Prop
  | .plain char => isQuote char = false ∧ char ≠ '%' ∧ char ≠ ':'
  | .quoted quote body => isQuote quote = true ∧ QuoteBody quote body
  | .placeholder name => name ≠ [] ∧ (∀ char ∈ name, isNameChar char = true) ∧
      ∀ char ∈ rest.head?, isNameChar char = false
  | _ => True

/-- The pieces of a text, read from its start. -/
inductive Splits : List Piece → Prop where
  | nil : Splits []
  | cons {piece : Piece} {pieces : List Piece} (begins : piece.Begins (source pieces))
      (rest : Splits pieces) : Splits (piece :: pieces)

/-- The text that a specification is replaced by, after so many others. -/
def replacement (qore : QoreLib) (args : Option (List QoreValue)) (number : Nat) (second : Char) :
    Text :=
  if second = 'v' then parName (number + 1)
  else if second = 'd' then qore.concatNumeric (argument args number)
  else if second = 's' then (qore.concatString (argument args number)).getD []
  else []

/-! ### The buffer -/

/-- The character at the position where the rest of a buffer begins. -/
theorem charAt_append (done : Text) (char : Char) (rest : Text) :
    charAt (done ++ char :: rest) done.length = some char := by
  rw [charAt, if_pos (by simp)]
  simp

/-- The terminating zero. -/
theorem charAt_length (done : Text) : charAt (done ++ []) done.length = some '\x00' := by
  rw [List.append_nil, charAt, if_neg (Nat.lt_irrefl _), if_pos rfl]

theorem charAt_succ (done : Text) (first char : Char) (rest : Text) :
    charAt (done ++ first :: char :: rest) (done.length + 1) = some char := by
  have moved := charAt_append (done ++ [first]) char rest
  rwa [List.append_assoc, List.length_append] at moved

/-- Replacing the piece at the start of the rest of a buffer. -/
theorem replace_append (done old rest replacement : Text) :
    replace (done ++ (old ++ rest)) done.length old.length replacement =
      (done ++ replacement) ++ rest := by
  rw [replace, List.take_left, List.drop_append, Nat.add_sub_cancel_left, List.drop_left,
    List.drop_of_length_le (by omega), List.nil_append]

/-- A quoted string is skipped to the end of its closing quote. -/
theorem skipQuoted_append {quote : Char} {body : Text} (closed : QuoteBody quote body)
    (notEscape : quote ≠ '\\') (done rest : Text) (bound : Nat)
    (enough : body.length < bound) :
    skipQuoted (done ++ (body ++ quote :: rest)) quote bound done.length =
      some (done.length + body.length + 1) := by
  induction closed generalizing done bound with
  | nil =>
    obtain ⟨bound, rfl⟩ := Nat.exists_eq_add_of_lt enough
    rw [List.length_nil, Nat.zero_add, List.nil_append, skipQuoted, charAt_append]
    simp only [Option.bind_eq_bind, Option.bind_some, if_neg notEscape, if_true, Nat.add_zero]
  | @escaped char body closed inductionHypothesis =>
    obtain ⟨bound, rfl⟩ := Nat.exists_eq_add_of_lt enough
    have moved := inductionHypothesis (done ++ ['\\', char]) (body.length + 1 + bound + 1)
      (by omega)
    rw [List.append_assoc, List.length_append] at moved
    rw [List.cons_append, List.cons_append, skipQuoted, charAt_append]
    simp only [Option.bind_eq_bind, Option.bind_some, if_true]
    rw [charAt_succ]
    simp only [Option.bind_some]
    refine Eq.trans ?_ (moved.trans (congrArg some ?_))
    · simp [Nat.add_comm, Nat.add_left_comm]
    · simp only [List.length_cons, List.length_nil]
      omega
  | @plain char body noEscape noQuote closed inductionHypothesis =>
    obtain ⟨bound, rfl⟩ := Nat.exists_eq_add_of_lt enough
    have moved := inductionHypothesis (done ++ [char]) (body.length + 1 + bound) (by omega)
    rw [List.append_assoc, List.length_append] at moved
    rw [List.cons_append, skipQuoted, charAt_append]
    simp only [Option.bind_eq_bind, Option.bind_some, if_neg noEscape, if_neg noQuote]
    refine Eq.trans ?_ (moved.trans (congrArg some ?_))
    · simp [Nat.add_comm]
    · simp only [List.length_cons, List.length_nil]
      omega

/-- The name of a placeholder ends at the first character that cannot be part of it. -/
theorem skipName_append (name : Text) (isName : ∀ char ∈ name, isNameChar char = true)
    {rest : Text} (ended : ∀ char ∈ rest.head?, isNameChar char = false) (done : Text)
    (bound : Nat) (enough : name.length ≤ bound) :
    skipName (done ++ (name ++ rest)) bound done.length = done.length + name.length := by
  induction name generalizing done bound with
  | nil =>
    cases bound with
    | zero => rfl
    | succ bound =>
      cases rest with
      | nil =>
        rw [List.nil_append, skipName, charAt_length]
        rfl
      | cons char rest =>
        have stops := ended char rfl
        rw [List.nil_append, skipName, charAt_append]
        simp only [stops, Bool.false_eq_true, if_false, List.length_nil, Nat.add_zero]
  | cons char name inductionHypothesis =>
    obtain ⟨bound, rfl⟩ := Nat.exists_eq_add_of_le enough
    have moved := inductionHypothesis (fun other member => isName other
      (List.mem_cons_of_mem _ member)) (done ++ [char]) (name.length + bound) (by omega)
    rw [List.append_assoc, List.length_append] at moved
    have goesOn := isName char List.mem_cons_self
    rw [List.length_cons, Nat.add_right_comm, List.cons_append, skipName, charAt_append]
    simp only [goesOn, if_true]
    refine Eq.trans ?_ (moved.trans ?_)
    · simp
    · simp [Nat.add_comm, Nat.add_left_comm]

/-! ### Zero bytes -/

/-- How many bytes a text has from its first zero byte on. -/
def excess (str : Text) : Nat := (str.dropWhile fun char => char ≠ '\x00').length

theorem cString_length_add_excess (str : Text) :
    (cString str).length + excess str = str.length := by
  rw [cString, excess, ← List.length_append, List.takeWhile_append_dropWhile]

theorem noZero_cString (str : Text) : '\x00' ∉ cString str := by
  intro member
  have kept := List.mem_takeWhile_imp member
  simp at kept

theorem cString_of_noZero {str : Text} (noZero : '\x00' ∉ str) : cString str = str := by
  rw [cString, List.takeWhile_eq_self_iff]
  intro char member
  exact decide_eq_true fun zero => noZero (zero ▸ member)

theorem excess_of_noZero {str : Text} (noZero : '\x00' ∉ str) : excess str = 0 := by
  have whole := cString_length_add_excess str
  rw [cString_of_noZero noZero] at whole
  omega

/-- The name of a parameter has no zero byte. -/
theorem noZero_parName (number : Nat) : '\x00' ∉ parName number := by
  rw [parName, List.mem_append]
  rintro (member | member)
  · exact absurd member (by decide)
  · have digit := Nat.isDigit_of_mem_toDigits (by decide) (by decide) member
    exact absurd digit (by decide)

/-! ### One pass of the scanner -/

section Steps

variable {qore : QoreLib} {args : Option (List QoreValue)} {done rest : Text}
  {paramList : List Char} {placeholders : List Text}

/-- The scanner between two pieces: what it has rewritten, and the rest of the text. -/
def between (done rest : Text) (paramList : List Char) (placeholders : List Text) : Scan :=
  ⟨done ++ rest, done.length, paramList, placeholders⟩

theorem scanStep_end : scanStep qore args (between done [] paramList placeholders) =
    .finished ⟨done, paramList, placeholders⟩ := by
  rw [scanStep, between, charAt_length]
  simp

theorem scanStep_plain {char : Char} (noZero : char ≠ '\x00') (noQuote : isQuote char = false)
    (noPercent : char ≠ '%') (noColon : char ≠ ':') :
    scanStep qore args (between done (char :: rest) paramList placeholders) =
      .next (between (done ++ [char]) rest paramList placeholders) := by
  rw [scanStep, between, charAt_append]
  rw [isQuote] at noQuote
  simp [noZero, noQuote, noPercent, noColon, between]

theorem scanStep_quoted {quote : Char} {body : Text} (isQuote : isQuote quote = true)
    (closed : QuoteBody quote body) :
    scanStep qore args (between done (quote :: (body ++ quote :: rest)) paramList placeholders) =
      .next (between (done ++ (quote :: body ++ [quote])) rest paramList placeholders) := by
  have noZero : quote ≠ '\x00' := by
    rintro rfl
    exact absurd isQuote (by decide)
  have notEscape : quote ≠ '\\' := by
    rintro rfl
    exact absurd isQuote (by decide)
  have skipped := skipQuoted_append closed notEscape (done ++ [quote]) rest
    ((done ++ quote :: (body ++ quote :: rest)).length + 2)
    (by simp only [List.length_append, List.length_cons]; omega)
  have one : (done ++ [quote]).length = done.length + 1 := by simp
  rw [List.append_assoc, List.singleton_append, one] at skipped
  rw [SybaseQuery.isQuote] at isQuote
  rw [scanStep, between, charAt_append]
  simp only [if_neg noZero, isQuote, if_true]
  rw [skipped]
  simp [between, Nat.add_comm, Nat.add_left_comm]

/-- The scanner after a specification was replaced by a text. -/
def inlined (done rest str : Text) (paramList : List Char) (placeholders : List Text) : Scan :=
  ⟨done ++ cString str ++ rest, done.length + str.length, paramList, placeholders⟩

theorem inline_append (letter second : Char) (replacement : Text) :
    (between done ('%' :: second :: rest) paramList placeholders).inline done.length letter
        replacement =
      inlined done rest replacement (paramList ++ [letter]) placeholders := by
  have replaced := replace_append done ['%', second] rest (cString replacement)
  rw [Scan.inline, between, inlined]
  exact congrArg (fun mCmd => (⟨mCmd, _, _, _⟩ : Scan)) replaced

/-- A text without a zero byte is inlined as a whole. -/
theorem inlined_of_noZero {str : Text} (noZero : '\x00' ∉ str) :
    inlined done rest str paramList placeholders =
      between (done ++ str) rest paramList placeholders := by
  rw [inlined, cString_of_noZero noZero, between, List.length_append]

/-- After a text with a zero byte, as many characters are left out as the text has from there on. -/
theorem inlined_eq_between {str : Text} (enough : excess str ≤ rest.length) :
    inlined done rest str paramList placeholders =
      between (done ++ cString str ++ rest.take (excess str)) (rest.drop (excess str)) paramList
        placeholders := by
  have whole := cString_length_add_excess str
  rw [inlined, between, List.append_assoc _ (rest.take _), List.take_append_drop,
    List.length_append, List.length_append, List.length_take, Nat.min_eq_left enough,
    Nat.add_assoc, whole]

/-- Where not so many characters are left, the scanner leaves the buffer. -/
theorem scanStep_inlined {str : Text} (short : rest.length < excess str) :
    scanStep qore args (inlined done rest str paramList placeholders) = .overrun := by
  have whole := cString_length_add_excess str
  have beyond : (done ++ cString str ++ rest).length < done.length + str.length := by
    rw [List.length_append, List.length_append]
    omega
  have nothing : charAt (done ++ cString str ++ rest) (done.length + str.length) = none := by
    rw [charAt, if_neg (by omega), if_neg (by omega)]
  rw [scanStep, inlined]
  simp only [nothing]

theorem scanStep_specification (second : Char) :
    scanStep qore args (between done ('%' :: second :: rest) paramList placeholders) =
      scanSpecification qore args (between done ('%' :: second :: rest) paramList placeholders)
        done.length := by
  rw [scanStep]
  simp only [between, charAt_append]
  rfl

theorem scanStep_value : scanStep qore args (between done ('%' :: 'v' :: rest) paramList
      placeholders) =
    .next (inlined done rest (parName (paramList.length + 1)) (paramList ++ ['v'])
      placeholders) := by
  rw [scanStep_specification, scanSpecification, between, charAt_succ]
  exact congrArg Scanned.next (inline_append 'v' 'v' _)

theorem scanStep_numeric : scanStep qore args (between done ('%' :: 'd' :: rest) paramList
      placeholders) =
    .next (inlined done rest (qore.concatNumeric (argument args paramList.length))
      (paramList ++ ['d']) placeholders) := by
  rw [scanStep_specification, scanSpecification, between, charAt_succ]
  exact congrArg Scanned.next (inline_append 'd' 'd' _)

theorem scanStep_string {value : Text}
    (found : qore.concatString (argument args paramList.length) = some value) :
    scanStep qore args (between done ('%' :: 's' :: rest) paramList placeholders) =
      .next (inlined done rest value (paramList ++ ['d']) placeholders) := by
  rw [scanStep_specification, scanSpecification, between, charAt_succ]
  simp only [found, show ¬ 's' = 'v' by decide, show ¬ 's' = 'd' by decide, if_false, if_true]
  exact congrArg Scanned.next (inline_append 'd' 's' _)

theorem scanStep_string_none
    (missing : qore.concatString (argument args paramList.length) = none) :
    scanStep qore args (between done ('%' :: 's' :: rest) paramList placeholders) =
      .exception badString := by
  rw [scanStep_specification, scanSpecification, between, charAt_succ]
  simp only [missing, show ¬ 's' = 'v' by decide, show ¬ 's' = 'd' by decide, if_false, if_true]

theorem scanStep_bad {second : Char} (noValue : second ≠ 'v') (noNumeric : second ≠ 'd')
    (noString : second ≠ 's') :
    scanStep qore args (between done ('%' :: second :: rest) paramList placeholders) =
      .exception badSpecification := by
  rw [scanStep_specification, scanSpecification, between, charAt_succ]
  simp only [if_neg noValue, if_neg noNumeric, if_neg noString]

theorem scanStep_percent : scanStep qore args (between done ['%'] paramList placeholders) =
    .exception badSpecification := by
  have atEnd : charAt (done ++ ['%']) (done.length + 1) = some '\x00' := by
    have zero := charAt_length (done ++ ['%'])
    rwa [List.append_nil, List.length_append, List.length_singleton] at zero
  rw [scanStep, between, charAt_append]
  dsimp only
  rw [if_neg (by decide), if_neg (by decide), if_pos rfl, scanSpecification, atEnd]
  rfl

theorem scanStep_placeholder {name : Text} (isName : ∀ char ∈ name, isNameChar char = true)
    (ended : ∀ char ∈ rest.head?, isNameChar char = false) :
    scanStep qore args (between done (':' :: (name ++ rest)) paramList placeholders) =
      if name = [] then .exception missingName
      else .next (between (done ++ '@' :: name) rest paramList (placeholders ++ [name])) := by
  have stop := skipName_append name isName ended (done ++ [':'])
    ((done ++ ':' :: (name ++ rest)).length + 1 - (done.length + 1))
    (by simp only [List.length_append, List.length_cons]; omega)
  have one : (done ++ [':']).length = done.length + 1 := by simp
  rw [List.append_assoc, List.singleton_append, one] at stop
  rw [scanStep, between, charAt_append]
  dsimp only
  rw [if_neg (by decide), if_neg (by decide), if_neg (by decide), if_pos rfl, scanPlaceholder]
  simp only [stop]
  by_cases empty : name = []
  · rw [if_pos (by rw [empty]; rfl), if_pos empty]
  · have longer : ¬done.length + 1 + name.length = done.length + 1 := by
      intro same
      exact empty (List.eq_nil_of_length_eq_zero (by omega))
    have replaced := replace_append done [':'] (name ++ rest) (text "@")
    have dropped : (done ++ ':' :: (name ++ rest)).drop (done.length + 1) = name ++ rest := by
      rw [List.drop_append, Nat.add_sub_cancel_left, List.drop_of_length_le (by omega)]
      rfl
    rw [if_neg longer, if_neg empty, dropped, Nat.add_sub_cancel_left, List.take_left]
    refine congrArg Scanned.next ?_
    rw [between, Scan.mk.injEq]
    refine ⟨replaced.trans (by rw [List.append_assoc, List.append_assoc]; rfl), ?_, rfl, rfl⟩
    simp [Nat.add_comm, Nat.add_left_comm]

end Steps

/-! ### The whole text -/

/-- A character of a name is no quote. -/
theorem isQuote_of_isNameChar {char : Char} (isName : isNameChar char = true) :
    isQuote char = false := by
  by_contra quote
  have quote := Bool.not_eq_false _ ▸ quote
  rw [isQuote, Bool.or_eq_true, decide_eq_true_eq, decide_eq_true_eq] at quote
  rcases quote with rfl | rfl <;> exact absurd isName (by decide)

/-- A text split after the name it begins with. -/
theorem exists_name (text : Text) : ∃ name rest, (∀ char ∈ name, isNameChar char = true) ∧
    (∀ char ∈ rest.head?, isNameChar char = false) ∧ text = name ++ rest := by
  refine ⟨text.takeWhile isNameChar, text.dropWhile isNameChar,
    fun char member => List.mem_takeWhile_imp member, ?_, List.takeWhile_append_dropWhile.symm⟩
  intro char head
  have stops := List.head?_dropWhile_not isNameChar text
  rwa [Option.mem_def.mp head] at stops

section Whole

variable {qore : QoreLib} {args : Option (List QoreValue)} {done : Text}
  {paramList : List Char} {placeholders : List Text} {query : SybaseQuery}

/-- A scan of a list of pieces goes on after its first piece. -/
theorem scanLoop_cons {bound : Nat} {next : Scan} {scan : Scan}
    (finished : scanLoop qore args bound scan = some (.finished query))
    (step : scanStep qore args scan = .next next) :
    ∃ bound, scanLoop qore args bound next = some (.finished query) := by
  cases bound with
  | zero => exact absurd finished (by simp [scanLoop])
  | succ bound =>
    rw [scanLoop, step] at finished
    exact ⟨bound, finished⟩

/-- However a text is read as a list of pieces, the query is the output of these pieces, where no
text that is inlined has a zero byte. -/
theorem scanLoop_splits {pieces : List Piece} (splits : Splits pieces)
    (noZero : '\x00' ∉ source pieces) (whole : InlinesWhole qore args pieces paramList.length)
    {bound : Nat}
    (finished : scanLoop qore args bound (between done (source pieces) paramList placeholders) =
      some (.finished query)) :
    query = ⟨done ++ output qore args pieces paramList.length, paramList ++ letters pieces,
      placeholders ++ names pieces⟩ := by
  induction splits generalizing bound done paramList placeholders with
  | nil =>
    cases bound with
    | zero => exact absurd finished (by simp [scanLoop])
    | succ bound =>
      rw [scanLoop, source, List.flatMap_nil, scanStep_end] at finished
      rw [← Scanned.finished.inj (Option.some_inj.mp finished)]
      simp [output, letters, names]
  | @cons piece pieces begins rest inductionHypothesis =>
    have noZeroRest : '\x00' ∉ source pieces := fun member => noZero (by
      rw [source, List.flatMap_cons]
      exact List.mem_append_right _ member)
    have text : source (piece :: pieces) = piece.source ++ source pieces := List.flatMap_cons
    rw [text] at finished noZero
    have counted : ∀ letter : Char, (paramList ++ [letter]).length = paramList.length + 1 :=
      fun _ => by
      rw [List.length_append, List.length_singleton]
    cases piece with
    | plain char =>
      have notZero : char ≠ '\x00' := fun zero => noZero (zero ▸ List.mem_cons_self)
      obtain ⟨bound, later⟩ := scanLoop_cons finished
        (scanStep_plain notZero begins.1 begins.2.1 begins.2.2)
      rw [inductionHypothesis noZeroRest whole later, List.append_assoc]
      rfl
    | quoted quote body =>
      rw [Piece.source, List.append_assoc, List.cons_append] at finished
      obtain ⟨bound, later⟩ := scanLoop_cons finished (scanStep_quoted begins.1 begins.2)
      rw [inductionHypothesis noZeroRest whole later, List.append_assoc]
      rfl
    | value =>
      obtain ⟨bound, later⟩ := scanLoop_cons finished scanStep_value
      rw [inlined_of_noZero (noZero_parName _)] at later
      rw [inductionHypothesis noZeroRest (counted _ ▸ whole) later, List.append_assoc,
        List.append_assoc, counted]
      rfl
    | numeric =>
      obtain ⟨here, whole⟩ := List.forall_mem_cons.mp whole
      obtain ⟨bound, later⟩ := scanLoop_cons finished scanStep_numeric
      rw [inlined_of_noZero here] at later
      rw [inductionHypothesis noZeroRest (counted _ ▸ whole) later, List.append_assoc,
        List.append_assoc, counted]
      rfl
    | string =>
      obtain ⟨here, whole⟩ := List.forall_mem_cons.mp whole
      cases found : qore.concatString (argument args paramList.length) with
      | none =>
        cases bound with
        | zero => exact absurd finished (by simp [scanLoop])
        | succ bound =>
          have failed : scanStep qore args (between done ('%' :: 's' :: source pieces) paramList
            placeholders) = .exception badString := scanStep_string_none found
          rw [scanLoop] at finished
          exact absurd finished (by rw [Piece.source, List.cons_append, List.cons_append,
            List.nil_append, failed]; simp)
      | some value =>
        have here : '\x00' ∉ value := by rwa [found] at here
        obtain ⟨bound, later⟩ := scanLoop_cons finished (scanStep_string found)
        rw [inlined_of_noZero here] at later
        rw [inductionHypothesis noZeroRest (counted _ ▸ whole) later, List.append_assoc,
          List.append_assoc, counted, output, found]
        rfl
    | placeholder name =>
      obtain ⟨notEmpty, isName, ended⟩ := begins
      have step : scanStep qore args (between done (':' :: (name ++ source pieces)) paramList
        placeholders) = _ := scanStep_placeholder isName ended
      rw [if_neg notEmpty] at step
      obtain ⟨bound, later⟩ := scanLoop_cons finished step
      rw [inductionHypothesis noZeroRest whole later, List.append_assoc, List.append_assoc]
      rfl

/-- The rewriting of a list of pieces. -/
theorem scan_splits {pieces : List Piece} (splits : Splits pieces)
    (noZero : '\x00' ∉ source pieces) (whole : InlinesWhole qore args pieces 0)
    (finished : scan qore args (source pieces) = some (.finished query)) :
    query = ⟨output qore args pieces 0, letters pieces, names pieces⟩ := by
  have started : scanLoop qore args _ (between [] (source pieces) [] []) = _ := finished
  exact scanLoop_splits splits noZero whole started

/-! ### The rewritten text has no zero byte -/

theorem noZero_replace {buffer replacement : Text} {offset len : Nat} (noZero : '\x00' ∉ buffer)
    (noZero' : '\x00' ∉ replacement) : '\x00' ∉ replace buffer offset len replacement := by
  rw [replace, List.mem_append, List.mem_append]
  rintro ((member | member) | member)
  · exact noZero (List.mem_of_mem_take member)
  · exact noZero' member
  · exact noZero (List.mem_of_mem_drop member)

/-- No pass of the scanner writes a zero byte. -/
theorem noZero_scanStep {scan : Scan} (noZero : '\x00' ∉ scan.mCmd) :
    (∀ next, scanStep qore args scan = .next next → '\x00' ∉ next.mCmd) ∧
      ∀ query, scanStep qore args scan = .finished query → '\x00' ∉ query.mCmd := by
  have inline : ∀ offset letter str, '\x00' ∉ (scan.inline offset letter str).mCmd := fun _ _ str =>
    noZero_replace noZero (noZero_cString str)
  have specification : (∀ next, scanSpecification qore args scan scan.s = .next next →
      '\x00' ∉ next.mCmd) ∧ ∀ query, scanSpecification qore args scan scan.s ≠ .finished query := by
    unfold scanSpecification
    repeat' split
    all_goals simp [inline]
  have placeholder : (∀ next, scanPlaceholder scan scan.s = .next next → '\x00' ∉ next.mCmd) ∧
      ∀ query, scanPlaceholder scan scan.s ≠ .finished query := by
    unfold scanPlaceholder
    refine ⟨fun next same => ?_, fun query => ?_⟩
    · dsimp only at same
      split at same
      · cases same
      · cases same
        exact noZero_replace noZero (by decide)
    · dsimp only
      split <;> simp
  unfold scanStep
  split
  · simp
  · split
    · simp [noZero]
    · split
      · split <;> simp [noZero]
      · split
        · exact ⟨specification.1, fun query same => absurd same (specification.2 query)⟩
        · split
          · exact ⟨placeholder.1, fun query same => absurd same (placeholder.2 query)⟩
          · simp [noZero]

theorem noZero_scanLoop {scan : Scan} {bound : Nat} (noZero : '\x00' ∉ scan.mCmd)
    (finished : scanLoop qore args bound scan = some (.finished query)) : '\x00' ∉ query.mCmd := by
  induction bound generalizing scan with
  | zero => exact absurd finished (by simp [scanLoop])
  | succ bound inductionHypothesis =>
    obtain ⟨goesOn, ends⟩ := @noZero_scanStep qore args scan noZero
    rw [scanLoop] at finished
    split at finished
    · rename_i next step
      exact inductionHypothesis (goesOn next step) finished
    · rename_i step
      exact ends query (Option.some_inj.mp finished)

/-- An output without a zero byte has inlined whole texts. -/
theorem inlinesWhole_of_noZero {pieces : List Piece} {index : Nat}
    (noZero : '\x00' ∉ output qore args pieces index) : InlinesWhole qore args pieces index := by
  induction pieces generalizing index with
  | nil => exact fun _ absent => absurd absent List.not_mem_nil
  | cons piece pieces inductionHypothesis =>
    cases piece with
    | plain char => exact inductionHypothesis fun member => noZero (List.mem_cons_of_mem _ member)
    | quoted quote body | value | placeholder name =>
      exact inductionHypothesis fun member => noZero (List.mem_append_right _ member)
    | numeric | string =>
      exact List.forall_mem_cons.mpr ⟨fun member => noZero (List.mem_append_left _ member),
        inductionHypothesis fun member => noZero (List.mem_append_right _ member)⟩

end Whole

end SybaseQuery

end Sybase
