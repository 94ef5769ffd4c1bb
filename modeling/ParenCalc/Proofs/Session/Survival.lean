import ParenCalc.Proofs.Expr.Power
import ParenCalc.Proofs.Run.Outcome
import ParenCalc.Session

namespace ParenCalc

namespace Session

open Console (Event)

structure Ordinary (settings : Settings) (line : List Char) : Prop where
  stays : Text.trim line ≠ settings.exitCommand.toList
  goesOn : (Text.trim line).takeWhile isWordChar ≠ endWord

structure IsProgram (line : List Char) : Prop where
  nonempty : Text.trim line ≠ []
  unmarked : (Text.trim line).head? ≠ some '?'
  noHelp : (Text.trim line).takeWhile isWordChar ≠ helpWord

def outcomeOf (limit : Nat) (line : List Char) : Outcome :=
  (Run.ofSource limit (.ofText (Text.trim line))).outcome

def TooLong (limit : Nat) (line : List Char) : Prop :=
  IsProgram line ∧ ∃ v, (outcomeOf limit line).value? = some v ∧ maxDigits < (toString v).length

/--
The events write `out` to standard output, and `err` to standard error behind what is shown of the
log, which is nothing where the log shows warnings only.
-/
structure Writes (events : List Event) (out err : String) : Prop where
  stdout : Console.stdout events = out
  stderr : ∀ configured, ∃ shown, Console.stderr configured events = shown ++ err ∧
    (Log.Hides configured → shown = "")

def Step.behind (events : List Event) (step : Step) : Step :=
  { step with events := events ++ step.events }

variable {session : Session} {settings : Settings} {line : List Char}

theorem Ordinary.request_program (h : Ordinary settings line) (hprogram : IsProgram line) :
    Request.ofLine settings line = .program (Text.trim line) := by
  unfold Request.ofLine
  simp only
  rw [if_neg h.stays]
  unfold Request.ofTrimmed
  split
  . next hempty => exact absurd hempty hprogram.nonempty
  . next rest hmark => exact absurd (congrArg List.head? hmark) hprogram.unmarked
  . simp only
    rw [if_neg hprogram.noHelp, if_neg h.goesOn]

theorem Ordinary.request_command (h : Ordinary settings line) (hcommand : ¬ IsProgram line) :
    Request.ofLine settings line = .nothing ∨ Request.ofLine settings line = .help := by
  unfold Request.ofLine
  simp only
  rw [if_neg h.stays]
  unfold Request.ofTrimmed
  split
  . exact .inl rfl
  . exact .inr rfl
  . next hempty hmark =>
    have hword : (Text.trim line).takeWhile isWordChar = helpWord := by
      apply Decidable.byContradiction
      intro hword
      refine hcommand ⟨hempty, ?_, hword⟩
      intro hhead
      obtain ⟨rest, hrest⟩ := List.head?_eq_some_iff.mp hhead
      exact hmark rest hrest
    simp only
    rw [if_pos hword]
    exact .inr rfl

theorem writes_of_log {log : List Log.Entry} (hlog : Log.Quiet log) {events : List Event}
    {out err : String} (hout : Console.stdout events = out)
    (herr : ∀ configured, Console.stderr configured events = err) :
    Writes (log.map .log ++ events) out err where
  stdout := by rw [Console.stdout_append, Console.stdout_log, hout, String.empty_append]
  stderr configured := by
    refine ⟨_, by rw [Console.stderr_append, herr], ?_⟩
    intro hconfigured
    exact Console.stderr_log hconfigured hlog

inductive Answers (paint : String → String) (outcome : Outcome) (events : List Event) :
    Verdict → Prop
  | value (v : Nat) (hvalue : outcome.value? = some v) (hlength : (toString v).length ≤ maxDigits)
      (hwrites : Writes events (toString v ++ "\n") "") : Answers paint outcome events .goesOn
  | message (message : String) (hmessage : outcome.message? = some message)
      (hwrites : Writes events "" (paint message ++ "\n")) : Answers paint outcome events .goesOn
  | tooLong (v : Nat) (hvalue : outcome.value? = some v) (hlength : maxDigits < (toString v).length)
      (hwrites : Writes events "" "") : Answers paint outcome events (.aborts .valueTooLong)

section Answers

variable {log : List Log.Entry} (hlog : Log.Quiet log) (paint : String → String) (count : Nat)

include hlog

theorem answers_of_message {outcome : Outcome} {message : String}
    (h : outcome.message? = some message) :
    Answers paint outcome (log.map .log ++ (answer paint count outcome).1)
      (answer paint count outcome).2 := by
  have hfailed : Log.Quiet [.lineFailed count message] := Log.quiet_singleton (.inl rfl)
  have hwrites : Writes
      ((log ++ [Log.Entry.lineFailed count message]).map .log ++ [.err (paint message ++ "\n")])
      "" (paint message ++ "\n") :=
    writes_of_log (hlog.append hfailed) rfl fun _ => String.empty_append
  rw [List.map_append, List.append_assoc] at hwrites
  unfold answer
  rw [h]
  exact .message message h hwrites

theorem answers_finished (tree : Tree) (v : Nat) :
    Answers paint (.finished tree v) (log.map .log ++ (answer paint count (.finished tree v)).1)
      (answer paint count (.finished tree v)).2 := by
  simp only [answer, Outcome.message?, Outcome.value?]
  by_cases hlength : (toString v).length ≤ maxDigits
  . rw [writeValue_eq_ok hlength]
    refine .value v rfl hlength (writes_of_log hlog ?_ fun _ => rfl)
    exact String.empty_append
  . rw [writeValue_eq_error (by omega)]
    exact .tooLong v rfl (by omega) (writes_of_log hlog rfl fun _ => rfl)

end Answers

theorem answers_program (h : Ordinary session.settings line) (hprogram : IsProgram line) :
    Answers session.paint (outcomeOf session.limit line) (session.step line).events
      (session.step line).verdict := by
  have hquiet := Run.quiet_log session.limit (.ofText (Text.trim line))
  have hreaches := Run.reaches_ofText session.limit (Text.trim line)
  unfold step
  rw [h.request_program hprogram, request]
  simp only
  change Answers _ (Run.ofSource session.limit (.ofText (Text.trim line))).outcome _ _
  generalize Run.ofSource session.limit (.ofText (Text.trim line)) = run at hquiet hreaches ⊢
  generalize run.outcome = outcome at hreaches ⊢
  cases hreaches with
  | finished e => exact answers_finished hquiet _ _ _ _
  | malformed error => exact answers_of_message hquiet _ _ rfl
  | undecodable found => exact answers_of_message hquiet _ _ rfl

theorem verdict_step_command (h : Ordinary session.settings line) (hcommand : ¬ IsProgram line) :
    (session.step line).verdict = .goesOn := by
  unfold step
  rcases h.request_command hcommand with hrequest | hrequest
  . rw [hrequest]
    rfl
  . rw [hrequest]
    rfl

theorem session_step (session : Session) (line : List Char) :
    ∃ count, (session.step line).session = { session with programCount := count } := by
  unfold step request
  split
  . exact ⟨_, rfl⟩
  . exact ⟨_, rfl⟩
  . exact ⟨_, rfl⟩
  . exact ⟨_, rfl⟩
  . exact ⟨_, rfl⟩

theorem verdict_step (h : Ordinary session.settings line) (hlength : ¬ TooLong session.limit line) :
    (session.step line).verdict = .goesOn := by
  by_cases hprogram : IsProgram line
  . have hanswers := answers_program h hprogram
    generalize (session.step line).verdict = verdict at hanswers ⊢
    cases hanswers with
    | value => rfl
    | message => rfl
    | tooLong v hvalue htooLong => exact absurd ⟨hprogram, v, hvalue, htooLong⟩ hlength
  . exact verdict_step_command h hprogram

theorem answers_tooLong (h : Ordinary session.settings line)
    (hlength : TooLong session.limit line) :
    (session.step line).verdict = .aborts .valueTooLong ∧
      Writes (session.step line).events "" "" := by
  obtain ⟨hprogram, v, hvalue, hlength⟩ := hlength
  have hanswers := answers_program h hprogram
  generalize (session.step line).verdict = verdict at hanswers ⊢
  cases hanswers with
  | value v' hvalue' hlength' =>
    obtain rfl := Option.some.inj (hvalue.symm.trans hvalue')
    omega
  | message message hmessage =>
    rw [Outcome.value?_of_message hmessage] at hvalue
    cases hvalue
  | tooLong _ _ _ hwrites => exact ⟨rfl, hwrites⟩

theorem converse_go (fault : Option Text.Utf8.Fault) (session : Session) (lines : List (List Char))
    (written : List (List Event)) :
    converse.go fault session lines written =
      (converse session lines fault).behind written.reverse.flatten := by
  unfold converse
  induction lines generalizing session written with
  | nil =>
    unfold converse.go
    cases fault <;> simp [Step.behind]
  | cons line lines ih =>
    unfold converse.go
    simp only
    cases (session.step line).verdict with
    | goesOn =>
      simp only
      rw [ih, ih _ [_, _]]
      simp [Step.behind]
    | ends => simp [Step.behind]
    | aborts abort => simp [Step.behind]

theorem converse_cons (h : (session.step line).verdict = .goesOn) (lines : List (List Char))
    (fault : Option Text.Utf8.Fault) :
    converse session (line :: lines) fault =
      (converse (session.step line).session lines fault).behind
        (.out session.settings.prompt :: (session.step line).events) := by
  have hgo : converse session (line :: lines) fault =
      converse.go fault (session.step line).session lines
        [(session.step line).events, [.out session.settings.prompt]] := by
    unfold converse
    rw [converse.go, h]
  rw [hgo, converse_go]
  simp

theorem verdict_step_endWord (session : Session) : (session.step endWord).verdict = .ends := by
  have htrim : Text.trim endWord = endWord := by decide
  have hend : Request.ofTrimmed endWord = .endOfInput := by decide
  unfold step Request.ofLine
  simp only
  rw [htrim, hend]
  split <;> rfl

theorem isBlank_of_mem_alphabet {c : Char} (h : c ∈ Expr.alphabet) : Text.isBlank c = false := by
  have hink : Expr.alphabet.all (fun c => !Text.isBlank c) = true := by decide
  simpa using List.all_eq_true.mp hink c h

theorem trim_render (e : Expr) : Text.trim e.render = e.render := by
  apply Text.trim_of_ink
  intro c hc
  exact isBlank_of_mem_alphabet (Expr.mem_alphabet_of_mem_render hc)

theorem outcomeOf_render {limit : Nat} (e : Expr) (h : e.nesting ≤ limit) :
    outcomeOf limit e.render = .finished (.ofExpr e) e.value := by
  unfold outcomeOf
  rw [trim_render]
  exact Run.outcome_ofText_render e h

theorem takeWhile_render_ne (e : Expr) {word : List Char} (h : 1 < word.length) :
    e.render.takeWhile isWordChar ≠ word := by
  rintro rfl
  cases e with
  | digit d =>
    have hlength := (List.takeWhile_prefix (l := [d.toChar]) isWordChar).length_le
    exact absurd (Nat.lt_of_lt_of_le h hlength) (Nat.lt_irrefl 1)
  | binary left op right => exact absurd h (Nat.not_lt_zero 1)

theorem ordinary_render {e : Expr} (h : e.render ≠ settings.exitCommand.toList) :
    Ordinary settings e.render where
  stays := by
    rw [trim_render]
    exact h
  goesOn := by
    rw [trim_render]
    exact takeWhile_render_ne e (by decide)

theorem isProgram_render (e : Expr) : IsProgram e.render where
  nonempty := by
    rw [trim_render]
    exact e.render_ne_nil
  unmarked := by
    have hmark : ∀ c ∈ e.render, c ≠ '?' := Expr.ne_of_mem_render (by decide) e
    rw [trim_render]
    intro hhead
    exact hmark '?' (List.mem_of_head? hhead) rfl
  noHelp := by
    rw [trim_render]
    exact takeWhile_render_ne e (by decide)

theorem tooLong_iff_render {limit : Nat} {e : Expr} (hnesting : e.nesting ≤ limit) :
    TooLong limit e.render ↔ maxDigits < (toString e.value).length := by
  unfold TooLong
  rw [outcomeOf_render e hnesting]
  constructor
  . rintro ⟨-, v, hvalue, hlength⟩
    rw [Option.some.inj hvalue]
    exact hlength
  . intro hlength
    exact ⟨isProgram_render e, e.value, rfl, hlength⟩

theorem ordinary_tooLong : Ordinary {} Expr.tooLong.render :=
  ordinary_render fun h => absurd (congrArg List.head? h) (by decide)

theorem tooLong_tooLong {limit : Nat} (h : Expr.tooLong.nesting ≤ limit) :
    TooLong limit Expr.tooLong.render :=
  (tooLong_iff_render h).mpr Expr.length_tooLong

/--
Unless a value is too long, a program is answered with its value or its message, and behind every
line the next one is read. A value that is too long aborts the session, with nothing written for it.
-/
theorem ordinary_line_survives (session : Session) (line : List Char)
    (h : Ordinary session.settings line) :
    let step := session.step line
    let outcome := outcomeOf session.limit line
    (¬ TooLong session.limit line →
      step.verdict = .goesOn ∧ (∃ count, step.session = { session with programCount := count }) ∧
        (IsProgram line →
          (∃ v, outcome.value? = some v ∧ Writes step.events (toString v ++ "\n") "") ∨
          (∃ message, outcome.message? = some message ∧
            Writes step.events "" (session.paint message ++ "\n"))) ∧
        ∀ lines fault, converse session (line :: lines) fault =
          (converse step.session lines fault).behind
            (.out session.settings.prompt :: step.events)) ∧
    (TooLong session.limit line →
      step.verdict = .aborts .valueTooLong ∧ Writes step.events "" "") := by
  intro step outcome
  refine ⟨?_, answers_tooLong h⟩
  intro hlength
  have hgoesOn : step.verdict = .goesOn := verdict_step h hlength
  refine ⟨hgoesOn, session_step session line, ?_, converse_cons hgoesOn⟩
  intro hprogram
  have hanswers : Answers session.paint outcome step.events step.verdict :=
    answers_program h hprogram
  rw [hgoesOn] at hanswers
  cases hanswers with
  | value v hvalue _ hwrites => exact .inl ⟨v, hvalue, hwrites⟩
  | message message hmessage hwrites => exact .inr ⟨message, hmessage, hwrites⟩

theorem sum_line_survives :
    let session : Session := { limit := 490, paint := id }
    let line := (Expr.binary (.digit 1) .add (.digit 2)).render
    let long := Expr.tooLong.render
    Ordinary session.settings line ∧ ¬ TooLong session.limit line ∧
      (session.step line).verdict = .goesOn ∧
      Ordinary session.settings long ∧ TooLong session.limit long ∧
      (session.step long).verdict = .aborts .valueTooLong := by
  intro session line long
  have hline : Ordinary session.settings line := ordinary_render (by decide)
  have hshort : ¬ TooLong session.limit line := by
    rw [tooLong_iff_render (by decide)]
    decide
  have hlong : TooLong session.limit long := tooLong_tooLong (by rw [Expr.nesting_tooLong]; decide)
  obtain ⟨hgoesOn, -⟩ := (ordinary_line_survives session line hline).1 hshort
  obtain ⟨haborts, -⟩ := (ordinary_line_survives session long ordinary_tooLong).2 hlong
  exact ⟨hline, hshort, hgoesOn, ordinary_tooLong, hlong, haborts⟩

theorem long_line_aborts_session :
    let session : Session := { limit := 490, paint := id }
    let line := Expr.tooLong.render
    Text.trim line ≠ session.settings.exitCommand.toList ∧
      (Text.trim line).takeWhile isWordChar ≠ endWord ∧
      (session.step line).verdict = .aborts .valueTooLong := by
  intro session line
  have hline : Ordinary session.settings line := ordinary_tooLong
  have hlong : TooLong session.limit line := tooLong_tooLong (by rw [Expr.nesting_tooLong]; decide)
  exact ⟨hline.stays, hline.goesOn, (answers_tooLong hline hlong).1⟩

end Session

end ParenCalc
