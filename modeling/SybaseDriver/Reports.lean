/-
This file proves what the driver reports of the queued messages of ct-lib where it does not ignore
them. `do_exception` puts the severe ones into the text of the error, those of the client first,
each in the order of its queue, and `purge_messages` raises an exception for each of them. Trimming
the text after each message never reaches into the one before.
-/

import SybaseDriver.Messages

namespace Sybase

namespace Connection

/-! ### Trimming -/

/-- Trimming these characters leaves something of a line. -/
def Kept (chars : List Char) (line : String) : Prop := ∃ char ∈ line.toList, char ∉ chars

namespace Kept

variable {chars : List Char} {first second : String}

theorem left (kept : Kept chars first) (second : String) : Kept chars (first ++ second) := by
  obtain ⟨char, member, outside⟩ := kept
  exact ⟨char, by rw [String.toList_append]; exact List.mem_append_left _ member, outside⟩

theorem right (kept : Kept chars second) (first : String) : Kept chars (first ++ second) := by
  obtain ⟨char, member, outside⟩ := kept
  exact ⟨char, by rw [String.toList_append]; exact List.mem_append_right _ member, outside⟩

end Kept

/-- Trimming does not reach past a line that it leaves something of. -/
theorem trimEnd_append {chars : List Char} {line : String} (kept : Kept chars line)
    (before : String) : trimEnd chars (before ++ line) = before ++ trimEnd chars line := by
  obtain ⟨char, member, outside⟩ := kept
  have left : (line.toList.reverse.dropWhile chars.contains).isEmpty = false := by
    rw [List.isEmpty_eq_false_iff, ne_eq, List.dropWhile_eq_nil_iff]
    intro all
    exact outside (List.contains_iff_mem.mp (all char (List.mem_reverse.mpr member)))
  rw [trimEnd, trimEnd, String.toList_append, List.reverse_append, List.dropWhile_append, left,
    if_neg Bool.false_ne_true, List.reverse_append, List.reverse_reverse, String.ofList_append,
    String.ofList_toList]

/-! ### Lines -/

/-- What the text of an error says about a client message. -/
def clientLine (msg : ClientMsg) : String :=
  let line := trimEnd ['.']
    s!"client message {msg.number}: severity {msg.severity}: {msg.msgstring}"
  if msg.osnumber ≠ 0 ∧ msg.osstring ≠ "" then
    s!"{line}, OS error {msg.osnumber}: {msg.osstring}"
  else line

/-- What the text of an error says about a server message. -/
def serverLine (msg : ServerMsg) : String :=
  let name := if msg.svrname = "" then "" else s!"{msg.svrname}: "
  let state := s!"state {msg.state}, server message {msg.msgnumber}, "
  let line := if msg.line = 0 then "" else s!"line {msg.line}, "
  let severity := s!"severity {msg.severity}"
  let body := if msg.text = "" then "" else s!": {msg.text}"
  trimEnd ['\n', '.'] (name ++ (state ++ (line ++ (severity ++ body))))

/-- A report with one more line. -/
def Report.add (report : Report) (line : String) : Report :=
  ⟨report.estr ++ report.separator ++ line, report.count + 1⟩

theorem client_eq (report : Report) (msg : ClientMsg) :
    report.client msg = if 10 < msg.severity then report.add (clientLine msg) else report := by
  have named : Kept ['.'] (toString "client message ") := ⟨'c', by decide, by decide⟩
  have kept : Kept ['.']
      (s!"client message {msg.number}: severity {msg.severity}: {msg.msgstring}") :=
    ((((named.left _).left _).left _).left _).left _
  have same : ∀ line : String, toString line = line := fun _ => rfl
  by_cases severe : 10 < msg.severity
  · rw [if_pos severe, Report.client, if_neg (by omega)]
    simp only [trimEnd_append kept, Report.add, clientLine]
    split
    · simp only [same, String.append_assoc]
    · rfl
  · rw [if_neg severe, Report.client, if_pos (by omega)]

theorem server_eq (report : Report) (msg : ServerMsg) :
    report.server msg = if 10 < msg.severity then report.add (serverLine msg) else report := by
  have named : Kept ['\n', '.'] (toString "state ") := ⟨'s', by decide, by decide⟩
  have regroup : ∀ estr separator name state line severity body : String,
      estr ++ separator ++ name ++ state ++ line ++ severity ++ body =
        estr ++ separator ++ (name ++ (state ++ (line ++ (severity ++ body)))) := by
    intro estr separator name state line severity body
    simp only [String.append_assoc]
  by_cases severe : 10 < msg.severity
  · rw [if_pos severe, Report.server, if_neg (by omega)]
    dsimp only
    rw [regroup, trimEnd_append ((((((named.left _).left _).left _).left _).left _).right _)]
    rfl
  · rw [if_neg severe, Report.server, if_pos (by omega)]

/-! ### Reports -/

/-- The report of lines. -/
def Report.of (start : String) (lines : List String) : Report :=
  ⟨start ++ ", ".intercalate lines, lines.length⟩

theorem Report.add_of (start : String) (lines : List String) (line : String) :
    (Report.of start lines).add line = Report.of start (lines ++ [line]) := by
  cases lines with
  | nil => simp [Report.of, Report.add, Report.separator]
  | cons first rest =>
    rw [Report.of, Report.of, Report.add, Report.separator, if_neg (by simp),
      String.intercalate_append_of_ne_nil (List.cons_ne_nil first rest) (List.cons_ne_nil line []),
      String.intercalate_singleton, List.length_append, List.length_singleton]
    simp only [String.append_assoc]

/-- The lines of the severe ones of a list of messages. -/
def severeLines {msg : Type} (severity : msg → Int) (line : msg → String) (messages : List msg) :
    List String :=
  (messages.filter (10 < severity ·)).map line

/-- Reporting messages one after the other adds the lines of the severe ones. -/
theorem foldl_report {msg : Type} {severity : msg → Int} {line : msg → String}
    {report : Report → msg → Report} (adds : ∀ before message, report before message =
      if 10 < severity message then before.add (line message) else before)
    (messages : List msg) (start : String) (lines : List String) :
    messages.foldl report (Report.of start lines) =
      Report.of start (lines ++ severeLines severity line messages) := by
  induction messages generalizing lines with
  | nil => rw [List.foldl_nil, severeLines, List.filter_nil, List.map_nil, List.append_nil]
  | cons message rest inductionHypothesis =>
    rw [List.foldl_cons, adds, severeLines]
    by_cases severe : 10 < severity message
    · rw [if_pos severe, Report.add_of, inductionHypothesis,
        List.filter_cons_of_pos (by simpa using severe), List.map_cons, List.append_assoc,
        List.singleton_append, severeLines]
    · rw [if_neg severe, inductionHypothesis,
        List.filter_cons_of_neg (by simpa using severe), severeLines]

/-- The text of an error with these lines. -/
def reportText (fmt : String) (lines : List String) : String :=
  if lines = [] then fmt else fmt ++ ": " ++ ", ".intercalate lines

theorem finish_of (fmt : String) (lines : List String) :
    (Report.of (fmt ++ ": ") lines).finish = reportText fmt lines := by
  cases lines with
  | nil =>
    have ends : (fmt ++ ": ").toList = (fmt.toList ++ [':']) ++ [' '] := by
      rw [String.toList_append, List.append_assoc]
      rfl
    rw [reportText, if_pos rfl, Report.of, Report.finish, List.length_nil, if_pos rfl,
      String.intercalate_nil, String.append_empty, ends, List.dropLast_concat, List.dropLast_concat,
      String.ofList_toList]
  | cons first rest =>
    rw [reportText, if_neg (List.cons_ne_nil first rest), Report.of, Report.finish,
      if_neg (by simp)]

end Connection

open Program Connection

/-- The severe messages that are queued. -/
def queuedLines {σ : Type} (world : World σ) : List String :=
  severeLines ClientMsg.severity clientLine world.clientMsgs ++
    severeLines ServerMsg.severity serverLine world.serverMsgs

theorem errorText_eq {σ : Type} (fmt : String) (world : World σ) :
    errorText fmt world = reportText fmt (queuedLines world) := by
  have start : (⟨fmt ++ ": ", 0⟩ : Report) = Report.of (fmt ++ ": ") [] := by
    rw [Report.of, String.intercalate_nil, String.append_empty, List.length_nil]
  rw [errorText, start, foldl_report client_eq, foldl_report server_eq, finish_of, List.nil_append,
    queuedLines]

/-- The severe messages that are queued are reported. The error of `do_exception` reports all of
them, those of the client first, each in the order of its queue, and no other message;
`purge_messages` raises an exception for each of them in the same order. Both leave no message
queued. -/
theorem severe_reported {σ : Type} (err fmt : String) (world : World σ) :
    doException err fmt world = (.throw ⟨err, reportText fmt (queuedLines world)⟩,
      world.discarded) ∧
    purgeMessages world = (.ok (if hasSevere world then -1 else 0),
      { world.discarded with xsink := purgedExceptions world ++ world.xsink }) := by
  constructor
  · rw [← errorText_eq]
    rfl
  · have post : wp purgeMessages (fun value after =>
        value = (if hasSevere world then -1 else 0) ∧ after = world.purged)
        (fun _ _ => False) (fun _ _ => False) world := wp_purgeMessages.mpr ⟨rfl, rfl⟩
    obtain ⟨returned, thrown, halted⟩ := wp_iff_forall.mp post
    rcases ended : purgeMessages world with ⟨value | error | reason, after⟩
    · obtain ⟨rfl, rfl⟩ := returned value after ended
      rfl
    · exact (thrown error after ended).elim
    · exact (halted reason after ended).elim

end Sybase
