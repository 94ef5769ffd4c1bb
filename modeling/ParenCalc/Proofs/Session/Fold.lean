import ParenCalc.Proofs.Session.Survival
import ParenCalc.Proofs.Source.Lines

/-!
This module contains that a session is the sequence of its lines: which of them are processed, what
is replied to each, and that a reply depends on nothing but its line and how the session was set up.
-/

namespace ParenCalc

namespace Session

open Console (Event)

inductive Reply
  | leaves
  | farewell
  | nothing
  | help
  | value (v : Nat)
  | message (message : String)
  deriving DecidableEq, Repr

namespace Reply

def ofOutcome (outcome : Outcome) : Reply :=
  match outcome.value? with
  | some v => .value v
  | none => .message (outcome.message?.getD "")

def out (settings : Settings) : Reply → String
  | .farewell => "\n"
  | .help => helpText settings
  | .value v => toString v ++ "\n"
  | _ => ""

def err (paint : String → String) : Reply → String
  | .message text => paint text ++ "\n"
  | _ => ""

def isValue : Reply → Bool
  | .value _ => true
  | _ => false

def isMessage : Reply → Bool
  | .message _ => true
  | _ => false

def count (reply : Reply) : Nat :=
  [reply].countP isValue + [reply].countP isMessage

def ofRequest (limit : Nat) : Request → Reply
  | .leave => .leaves
  | .nothing => .nothing
  | .help => .help
  | .endOfInput => .farewell
  | .program text => .ofOutcome (Run.ofSource limit (.ofText text)).outcome

end Reply

def reply (settings : Settings) (limit : Nat) (line : List Char) : Reply :=
  let line := Text.trim line
  let word := line.takeWhile isWordChar
  if line = settings.exitCommand.toList then .leaves
  else if word = endWord then .farewell
  else if line = [] then .nothing
  else if line.head? = some '?' ∨ word = helpWord then .help
  else .ofOutcome (Run.ofSource limit (.ofText line)).outcome

instance (settings : Settings) (line : List Char) : Decidable (Ordinary settings line) :=
  decidable_of_iff
    (Text.trim line ≠ settings.exitCommand.toList ∧
      (Text.trim line).takeWhile isWordChar ≠ endWord)
    ⟨fun h => ⟨h.1, h.2⟩, fun h => ⟨h.stays, h.goesOn⟩⟩

/--
The lines that are processed: up to the first one that asks to leave or for the end of the input,
which is processed as well. Where there is none, the end of the input counts as a line.
-/
def processed (settings : Settings) : List (List Char) → List (List Char)
  | [] => [endWord]
  | line :: lines => if Ordinary settings line then line :: processed settings lines else [line]

theorem ofRequest_ofTrimmed (limit : Nat) (line : List Char) :
    Reply.ofRequest limit (.ofTrimmed line) =
      if line.takeWhile isWordChar = endWord then .farewell
      else if line = [] then .nothing
      else if line.head? = some '?' ∨ line.takeWhile isWordChar = helpWord then .help
      else .ofOutcome (Run.ofSource limit (.ofText line)).outcome := by
  unfold Request.ofTrimmed
  split
  . rfl
  . next rest =>
    have hword : ('?' :: rest).takeWhile isWordChar ≠ endWord := fun h => by cases h
    rw [if_neg hword, if_neg (List.cons_ne_nil _ _), if_pos (.inl rfl)]
    rfl
  . next hempty hmark =>
    have hnonempty : ¬ line = [] := hempty
    have hhead : line.head? ≠ some '?' := by
      intro hhead
      obtain ⟨rest, hrest⟩ := List.head?_eq_some_iff.mp hhead
      exact hmark rest hrest
    simp only [if_neg hnonempty, hhead, false_or]
    by_cases hhelp : line.takeWhile isWordChar = helpWord
    . have hend : line.takeWhile isWordChar ≠ endWord := by
        rw [hhelp]
        decide
      rw [if_pos hhelp, if_neg hend, if_pos hhelp]
      rfl
    . rw [if_neg hhelp, if_neg hhelp]
      split <;> rfl

theorem reply_eq (settings : Settings) (limit : Nat) (line : List Char) :
    reply settings limit line = .ofRequest limit (.ofLine settings line) := by
  unfold reply Request.ofLine
  simp only
  rw [← ofRequest_ofTrimmed]
  split <;> rfl

structure Settles (session : Session) (step : Step) (reply : Reply) : Prop where
  stdout : Console.stdout step.events = reply.out session.settings
  errors : Console.errors step.events = reply.err session.paint
  session : step.session = { session with programCount := session.programCount + reply.count }

section Request

variable {session : Session}

theorem settles_program {text : List Char}
    (h : ∀ v, (Run.ofSource session.limit (.ofText text)).outcome.value? = some v →
      (toString v).length ≤ maxDigits) :
    Settles session (session.request (.program text))
      (.ofRequest session.limit (.program text)) := by
  have hreaches := Run.reaches_ofText session.limit text
  unfold request Reply.ofRequest Reply.ofOutcome
  simp only
  generalize Run.ofSource session.limit (.ofText text) = run at hreaches h ⊢
  rcases hreaches.finished_or_message with ⟨e, houtcome⟩ | ⟨-, message, hmessage⟩
  . rw [houtcome] at h ⊢
    simp only [answer, Outcome.message?, Outcome.value?, writeValue_eq_ok (h _ rfl)]
    refine ⟨?_, ?_, rfl⟩
    . rw [Console.stdout_append, Console.stdout_log]
      exact String.empty_append
    . rw [Console.errors_append, Console.errors_log]
      rfl
  . simp only [answer, hmessage, Outcome.value?_of_message hmessage]
    refine ⟨?_, ?_, rfl⟩
    . rw [Console.stdout_append, Console.stdout_log]
      rfl
    . rw [Console.errors_append, Console.errors_log]
      exact String.empty_append

theorem settles_request (request : Request)
    (h : ∀ text v, request = .program text →
      (Run.ofSource session.limit (.ofText text)).outcome.value? = some v →
      (toString v).length ≤ maxDigits) :
    Settles session (session.request request) (.ofRequest session.limit request) := by
  cases request with
  | program text => exact settles_program fun v => h text v rfl
  | leave => exact ⟨rfl, rfl, rfl⟩
  | nothing => exact ⟨rfl, rfl, rfl⟩
  | help => exact ⟨String.empty_append, rfl, rfl⟩
  | endOfInput => exact ⟨rfl, rfl, rfl⟩

theorem quiet_answer (paint : String → String) (count : Nat) (outcome : Outcome) :
    Log.Quiet (Console.logged (answer paint count outcome).1) := by
  unfold answer
  split
  . exact Log.quiet_singleton (.inl rfl)
  . split
    . exact Log.quiet_nil
    . exact Log.quiet_nil
  . exact Log.quiet_nil

theorem quiet_request (session : Session) (request : Request) :
    Log.Quiet (Console.logged (session.request request).events) := by
  cases request with
  | program text =>
    unfold Session.request
    simp only
    rw [Console.logged_append, Console.logged_log]
    exact (Run.quiet_log _ _).append (quiet_answer _ _ _)
  | leave | nothing | help | endOfInput => exact Log.quiet_nil

end Request

section Step

variable {session : Session} {settings : Settings} {line : List Char}

theorem request_of_not_ordinary (h : ¬ Ordinary settings line) :
    Request.ofLine settings line = .leave ∨ Request.ofLine settings line = .endOfInput := by
  unfold Request.ofLine
  simp only
  by_cases hleave : Text.trim line = settings.exitCommand.toList
  . exact .inl (if_pos hleave)
  . have hword : (Text.trim line).takeWhile isWordChar = endWord := by
      apply Decidable.byContradiction
      intro hword
      exact h ⟨hleave, hword⟩
    rw [if_neg hleave]
    unfold Request.ofTrimmed
    split
    . next hempty =>
      rw [hempty] at hword
      cases hword
    . next rest hmark =>
      rw [hmark] at hword
      cases hword
    . have hhelp : ¬ endWord = helpWord := by decide
      simp only
      rw [hword, if_neg hhelp, if_pos rfl]
      exact .inr rfl

theorem ordinary_of_request_program {text : List Char}
    (h : Request.ofLine settings line = .program text) :
    Ordinary settings line ∧ IsProgram line ∧ text = Text.trim line := by
  by_cases hordinary : Ordinary settings line
  . by_cases hprogram : IsProgram line
    . rw [hordinary.request_program hprogram] at h
      exact ⟨hordinary, hprogram, (Request.program.inj h).symm⟩
    . rcases hordinary.request_command hprogram with hrequest | hrequest
      . cases hrequest.symm.trans h
      . cases hrequest.symm.trans h
  . rcases request_of_not_ordinary hordinary with hrequest | hrequest
    . cases hrequest.symm.trans h
    . cases hrequest.symm.trans h

theorem settles_step (h : Ordinary session.settings line → ¬ TooLong session.limit line) :
    Settles session (session.step line) (reply session.settings session.limit line) := by
  rw [reply_eq]
  apply settles_request
  intro text v hrequest hvalue
  obtain ⟨hordinary, hprogram, rfl⟩ := ordinary_of_request_program hrequest
  apply Nat.le_of_not_lt
  intro hlength
  exact h hordinary ⟨hprogram, v, hvalue, hlength⟩

theorem quiet_step (session : Session) (line : List Char) :
    Log.Quiet (Console.logged (session.step line).events) :=
  quiet_request session _

theorem verdict_step_of_not_ordinary (h : ¬ Ordinary session.settings line) :
    (session.step line).verdict = .ends := by
  unfold step
  rcases request_of_not_ordinary h with hrequest | hrequest
  . rw [hrequest]
    rfl
  . rw [hrequest]
    rfl

theorem converse_cons_of_stop (h : (session.step line).verdict ≠ .goesOn) (lines : List (List Char))
    (fault : Option Text.Utf8.Fault) :
    converse session (line :: lines) fault =
      (session.step line).behind [.out session.settings.prompt] := by
  unfold converse
  rw [converse.go]
  generalize session.step line = step at h ⊢
  obtain ⟨session', events, verdict⟩ := step
  cases verdict with
  | goesOn => exact absurd rfl h
  | ends | aborts => simp [Step.behind]

theorem converse_nil (session : Session) :
    converse session [] none = (session.step endWord).behind [.out session.settings.prompt] := by
  unfold converse
  rw [converse.go]
  simp [Step.behind]

theorem quiet_converse (session : Session) (lines : List (List Char))
    (fault : Option Text.Utf8.Fault) :
    Log.Quiet (Console.logged (converse session lines fault).events) := by
  induction lines generalizing session with
  | nil =>
    cases fault with
    | none =>
      rw [converse_nil]
      exact quiet_step session endWord
    | some fault => exact Log.quiet_nil
  | cons line lines ih =>
    by_cases hgoesOn : (session.step line).verdict = .goesOn
    . rw [converse_cons hgoesOn]
      unfold Step.behind
      simp only
      rw [Console.logged_append]
      exact (quiet_step session line).append (ih _)
    . rw [converse_cons_of_stop hgoesOn]
      exact quiet_step session line

end Step

section Process

def process (session : Session) : List (List Char) → Session × List Event
  | [] => (session, [])
  | line :: lines =>
    let step := session.step line
    let (session', events) := process step.session lines
    (session', .out session.settings.prompt :: step.events ++ events)

variable {session : Session} {settings : Settings} {line : List Char} {lines : List (List Char)}

theorem processed_cons_of_ordinary (h : Ordinary settings line) (lines : List (List Char)) :
    processed settings (line :: lines) = line :: processed settings lines := by
  rw [processed, if_pos h]

theorem processed_cons_of_not_ordinary (h : ¬ Ordinary settings line) (lines : List (List Char)) :
    processed settings (line :: lines) = [line] := by
  rw [processed, if_neg h]

theorem processed_split (settings : Settings) (lines : List (List Char)) :
    ∃ before last, processed settings lines = before ++ [last] ∧
      (∀ line ∈ before, Ordinary settings line) ∧
      (before = lines ∧ last = endWord ∨
        ∃ rest, lines = before ++ last :: rest ∧ ¬ Ordinary settings last) := by
  induction lines with
  | nil => exact ⟨[], endWord, rfl, by simp, .inl ⟨rfl, rfl⟩⟩
  | cons line lines ih =>
    by_cases hline : Ordinary settings line
    . obtain ⟨before, last, hprocessed, hbefore, hlast⟩ := ih
      refine ⟨line :: before, last, ?_, ?_, ?_⟩
      . rw [processed_cons_of_ordinary hline, hprocessed, List.cons_append]
      . rw [List.forall_mem_cons]
        exact ⟨hline, hbefore⟩
      . rcases hlast with ⟨rfl, rfl⟩ | ⟨rest, rfl, hlast⟩
        . exact .inl ⟨rfl, rfl⟩
        . exact .inr ⟨rest, rfl, hlast⟩
    . have hprocessed := processed_cons_of_not_ordinary hline lines
      exact ⟨[], line, hprocessed, by simp, .inr ⟨lines, rfl, hline⟩⟩

theorem process_cons (session : Session) (line : List Char) (lines : List (List Char)) :
    session.process (line :: lines) =
      (((session.step line).session.process lines).1,
        .out session.settings.prompt :: (session.step line).events ++
          ((session.step line).session.process lines).2) := rfl

theorem converse_eq_process
    (h : ∀ line ∈ processed session.settings lines,
      Ordinary session.settings line → ¬ TooLong session.limit line) :
    converse session lines none =
      ⟨(session.process (processed session.settings lines)).1,
        (session.process (processed session.settings lines)).2, .ends⟩ := by
  have hlast {session : Session} {line : List Char} (hends : (session.step line).verdict = .ends) :
      (session.step line).behind [.out session.settings.prompt] =
        ⟨(session.process [line]).1, (session.process [line]).2, .ends⟩ := by
    rw [← hends]
    simp [Step.behind, process]
  induction lines generalizing session with
  | nil =>
    rw [converse_nil]
    exact hlast (verdict_step_endWord session)
  | cons line lines ih =>
    by_cases hordinary : Ordinary session.settings line
    . rw [processed_cons_of_ordinary hordinary, List.forall_mem_cons] at h
      have hrest := @ih (session.step line).session
      obtain ⟨count, hsession⟩ := session_step session line
      simp only [hsession] at hrest
      rw [processed_cons_of_ordinary hordinary, process_cons,
        converse_cons (verdict_step hordinary (h.1 hordinary)), hsession, hrest h.2]
      rfl
    . have hends := verdict_step_of_not_ordinary hordinary
      have hstop : (session.step line).verdict ≠ .goesOn := by
        rw [hends]
        decide
      rw [processed_cons_of_not_ordinary hordinary, converse_cons_of_stop hstop]
      exact hlast hends

structure Folds (session : Session) (replies : List Reply) (processed : Session × List Event) :
    Prop where
  stdout : Console.stdout processed.2 =
    String.join (replies.map fun reply => session.settings.prompt ++ reply.out session.settings)
  errors : Console.errors processed.2 = String.join (replies.map (Reply.err session.paint))
  count : processed.1.programCount =
    session.programCount + replies.countP Reply.isValue + replies.countP Reply.isMessage

theorem folds_process
    (h : ∀ line ∈ lines, Ordinary session.settings line → ¬ TooLong session.limit line) :
    Folds session (lines.map (reply session.settings session.limit)) (session.process lines) := by
  induction lines generalizing session with
  | nil => exact ⟨rfl, rfl, rfl⟩
  | cons line lines ih =>
    rw [List.forall_mem_cons] at h
    have hline := settles_step h.1
    have hlines := @ih (session.step line).session
    simp only [hline.session] at hlines
    replace hlines := hlines h.2
    rw [process_cons, List.map_cons, hline.session]
    refine ⟨?_, ?_, ?_⟩
    . have hprompt : Console.stdout [.out session.settings.prompt] = session.settings.prompt :=
        String.empty_append
      rw [← List.singleton_append, Console.stdout_append, Console.stdout_append, hprompt,
        hline.stdout, hlines.stdout, List.map_cons, String.join_cons]
    . have hprompt : Console.errors [.out session.settings.prompt] = "" := rfl
      rw [← List.singleton_append, Console.errors_append, Console.errors_append, hprompt,
        hline.errors, hlines.errors, List.map_cons, String.join_cons, String.empty_append]
    . rw [hlines.count, Reply.count]
      simp only [List.countP_cons, List.countP_nil]
      omega

end Process

theorem run_eq_process {session : Session} {source : Source} {text : List Char}
    (htext : source.content = ⟨text, none⟩)
    (h : ∀ line ∈ processed session.settings source.lines.lines,
      Ordinary session.settings line → ¬ TooLong session.limit line) :
    session.run source =
      ⟨(session.process (processed session.settings source.lines.lines)).1,
        greeting session.settings ++
          (session.process (processed session.settings source.lines.lines)).2, .ends⟩ := by
  unfold run
  simp only
  rw [(Source.linesOf_lines htext).2, converse_eq_process h]

theorem stdout_greeting (settings : Settings) :
    Console.stdout (greeting settings) =
      if settings.intro = "" then "" else settings.intro ++ "\n" := by
  unfold greeting
  split
  . rfl
  . exact String.empty_append

theorem errors_greeting (settings : Settings) : Console.errors (greeting settings) = "" := by
  unfold greeting
  split
  . rfl
  . rfl

theorem quiet_greeting (settings : Settings) : Log.Quiet (Console.logged (greeting settings)) := by
  unfold greeting
  split
  . exact Log.quiet_nil
  . exact Log.quiet_nil

theorem quiet_run (session : Session) (source : Source) :
    Log.Quiet (Console.logged (session.run source).events) := by
  unfold run
  simp only
  rw [Console.logged_append]
  exact (quiet_greeting session.settings).append (quiet_converse _ _ _)

/--
Where no value is too long, a session processes the lines of its input up to the first one that ends
it, or all of them and the end of the input. It writes the reply to each of them behind a prompt,
and has counted the values and the messages at its end.
-/
theorem session_folds_lines (session : Session) (source : Source) (text : List Char)
    (htext : source.content = ⟨text, none⟩)
    (hlength : ∀ line ∈ processed session.settings source.lines.lines,
      Ordinary session.settings line → ¬ TooLong session.limit line) :
    let settings := session.settings
    let ended := session.run source
    let lines := processed settings source.lines.lines
    let replies := lines.map (reply settings session.limit)
    Source.LinesOf text source.lines.lines ∧
    (∃ before last, lines = before ++ [last] ∧ (∀ line ∈ before, Ordinary settings line) ∧
      (before = source.lines.lines ∧ last = endWord ∨
        ∃ rest, source.lines.lines = before ++ last :: rest ∧ ¬ Ordinary settings last)) ∧
    ended.verdict = .ends ∧
    Console.stdout ended.events = (if settings.intro = "" then "" else settings.intro ++ "\n") ++
      String.join (replies.map fun reply => settings.prompt ++ reply.out settings) ∧
    Console.errors ended.events = String.join (replies.map (Reply.err session.paint)) ∧
    (∀ configured, Log.Hides configured →
      Console.stderr configured ended.events =
        String.join (replies.map (Reply.err session.paint))) ∧
    ended.session.programCount =
      session.programCount + replies.countP Reply.isValue + replies.countP Reply.isMessage := by
  intro settings ended lines replies
  have hended : ended =
      ⟨(session.process lines).1, greeting settings ++ (session.process lines).2, .ends⟩ :=
    run_eq_process htext hlength
  have hfolds : Folds session replies (session.process lines) := folds_process hlength
  have herrors : Console.errors ended.events =
      String.join (replies.map (Reply.err session.paint)) := by
    rw [hended, Console.errors_append, errors_greeting, String.empty_append, hfolds.errors]
  refine ⟨(Source.linesOf_lines htext).1, processed_split settings _, ?_, ?_, herrors, ?_, ?_⟩
  . rw [hended]
  . rw [hended, Console.stdout_append, stdout_greeting, hfolds.stdout]
  . intro configured hconfigured
    rw [Console.stderr_eq_errors hconfigured (quiet_run session source), herrors]
  . rw [hended, hfolds.count]

theorem session_folds_four_lines :
    let settings : Settings := { prompt := "> ", banner := ["hello"] }
    let session : Session := { settings, limit := 20, paint := ("! " ++ ·) }
    let text := "(1+2)\n(2\n\nexit\n5".toList
    let source := Source.ofText text
    let ended := session.run source
    source.content = ⟨text, none⟩ ∧
      (∀ line ∈ processed session.settings source.lines.lines,
        Ordinary session.settings line → ¬ TooLong session.limit line) ∧
      Console.stdout ended.events = "hello\n> 3\n> > > " ∧
      Console.errors ended.events = "! Parse error: Line 1: Missing operator\n" ∧
      ended.session.programCount = 2 := by
  intro settings session text source ended
  have hvalues : ∀ line ∈ processed session.settings source.lines.lines,
      ∀ v ∈ (outcomeOf session.limit line).value?, (toString v).length ≤ maxDigits := by
    decide +kernel
  have hlength : ∀ line ∈ processed session.settings source.lines.lines,
      Ordinary session.settings line → ¬ TooLong session.limit line := by
    rintro line hline - ⟨-, v, hvalue, htooLong⟩
    have hshort := hvalues line hline v hvalue
    omega
  obtain ⟨-, -, -, hstdout, herrors, -, hcount⟩ :=
    session_folds_lines session source text rfl hlength
  refine ⟨rfl, hlength, hstdout.trans ?_, herrors.trans ?_, hcount.trans ?_⟩
  . decide +kernel
  . decide +kernel
  . decide +kernel

end Session

end ParenCalc
