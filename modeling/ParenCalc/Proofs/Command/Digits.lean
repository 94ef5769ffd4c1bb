import ParenCalc.Proofs.Command.Asking
import ParenCalc.Proofs.Expr.Magnitude
import ParenCalc.Proofs.Session.Programs

namespace ParenCalc

namespace Run

open ParenCalc.Parser Lexer

def Parses (limit : Nat) (source : Source) (e : Expr) : Prop :=
  ∃ lexer, topLevel limit { source } = .ok e lexer

variable {limit : Nat} {source : Source} {e : Expr}

theorem parses_iff :
    Parses limit source e ↔ (ofSource limit source).outcome = .finished (.ofExpr e) e.value := by
  unfold Parses ofSource
  constructor
  . rintro ⟨lexer, hrun⟩
    rw [hrun]
    exact ofTree_ofExpr e
  . intro h
    cases hrun : topLevel limit { source } with
    | ok e' lexer =>
      rw [hrun] at h
      simp only [ofTree_ofExpr] at h
      rw [Tree.ofExpr_injective (Outcome.finished.inj h).1]
      exact ⟨lexer, rfl⟩
    | error failure lexer =>
      rw [hrun] at h
      cases failure <;> cases h

theorem Parses.digitCount_le (h : Parses limit source e) :
    e.digitCount ≤ source.content.text.countP Char.isDigit := by
  obtain ⟨rest, hunspaced, -⟩ := exists_render_of_finished (parses_iff.mp h)
  calc
    e.digitCount = e.render.countP Char.isDigit := e.countP_isDigit_render.symm
    _ ≤ (unspaced source.content.text).countP Char.isDigit := by
      rw [hunspaced, List.countP_append]
      exact Nat.le_add_right _ _
    _ ≤ source.content.text.countP Char.isDigit := List.filter_sublist.countP_le

end Run

variable {e : Expr}

theorem Command.writes_of_parses {host : Host} {arguments : List String} {invocation : Invocation}
    {stdin source : Source} {lookup : Path → FileTree.Lookup}
    (h : AsksFor arguments .run invocation)
    (hopen : openInput stdin lookup invocation.input = .ok source)
    (hparses : Run.Parses (host.limit invocation.verbose (runCaller invocation.input)) source e)
    (hlength : (toString e.value).length ≤ maxDigits) :
    (execute host arguments stdin lookup).Writes invocation.verbose 0
      (toString e.value ++ "\n") "" := by
  obtain ⟨program, houtcome, -, hrun⟩ := run_of_openInput (host.limit invocation.verbose) hopen
  have hshow : showRun program =
      (program.log.map .log ++ [.out (toString e.value ++ "\n")], .ok 0) := by
    simp only [showRun, houtcome.trans (Run.parses_iff.mp hparses), Outcome.message?,
      Outcome.value?, writeValue_eq_ok hlength]
  apply h.writes ((h.perform_run stdin).trans (hrun.trans hshow))
  . rw [Console.stdout_append, Console.stdout_log, String.empty_append]
    exact String.empty_append
  . rw [Console.errors_append, Console.errors_log]
    rfl

theorem Session.answers_of_parses {session : Session} {line : List Char}
    (hparses : Run.Parses session.limit (.ofText line) e)
    (hlength : (toString e.value).length ≤ maxDigits)
    (hexit : Text.trim line ≠ session.settings.exitCommand.toList) :
    let step := session.step line
    Console.stdout step.events = toString e.value ++ "\n" ∧ Console.errors step.events = "" ∧
      step.verdict = .goesOn := by
  have hvalue : (Run.ofSource session.limit (.ofText line)).outcome.value? = some e.value := by
    rw [Run.parses_iff.mp hparses]
    rfl
  obtain ⟨hordinary, hprogram, houtcome⟩ := program_of_value hvalue hexit
  have hshort : ¬ TooLong session.limit line := by
    rintro ⟨-, v, hv, hlong⟩
    rw [← Option.some.inj (houtcome.symm.trans hv)] at hlong
    omega
  have hsettles : Settles session (session.step line) (.value e.value) := by
    rw [← reply_of_program hordinary hprogram houtcome]
    exact settles_step fun _ => hshort
  exact ⟨hsettles.stdout, hsettles.errors, verdict_step hordinary hshort⟩

open Command Run

/--
The value of an expression is at most nine to the power of its digits, and so it is written with no
more digits than stand in a program for the expression. Where these are no more than can be written,
the command that runs the program writes the value and ends well, and so does a session whose line
is the program and not the command to leave.
-/
theorem value_within_digits (e : Expr) :
    (Tree.ofExpr e).evaluate = .ok e.value ∧
    e.value ≤ Nat.pow 9 e.digitCount ∧
    (toString e.value).length ≤ e.digitCount ∧
    (∀ limit source, Parses limit source e →
      e.digitCount ≤ source.content.text.countP Char.isDigit) ∧
    (e.digitCount ≤ maxDigits →
      (∀ (host : Host) arguments invocation stdin lookup source,
        AsksFor arguments .run invocation → invocation.verbose = false →
        openInput stdin lookup invocation.input = .ok source →
        Parses (host.limit false (runCaller invocation.input)) source e →
        (execute host arguments stdin lookup).Writes false 0 (toString e.value ++ "\n") "") ∧
      ∀ (session : Session) line, Parses session.limit (.ofText line) e →
        Text.trim line ≠ session.settings.exitCommand.toList →
        let step := session.step line
        Console.stdout step.events = toString e.value ++ "\n" ∧ Console.errors step.events = "" ∧
          step.verdict = .goesOn) := by
  refine ⟨Tree.evaluate_ofExpr e, e.value_le_pow, e.length_toString_value_le, ?_, ?_⟩
  . exact fun _ _ => Parses.digitCount_le
  intro hcount
  have hlength : (toString e.value).length ≤ maxDigits :=
    Nat.le_trans e.length_toString_value_le hcount
  constructor
  . intro host arguments invocation stdin lookup source harguments hquiet hopen hparses
    rw [← hquiet] at hparses ⊢
    exact writes_of_parses harguments hopen hparses hlength
  . intro session line hparses hexit
    exact Session.answers_of_parses hparses hlength hexit

theorem value_within_digits_sum :
    let e := Expr.binary (.binary (.digit 9) .multiply (.digit 9)) .add (.digit 9)
    let host : Host := { room := 994, paint := id }
    let stdin := Source.ofBytes (Text.Utf8.encode "((9*9) + 9)\n".toList)
    let lookup := ({} : FileTree).lookup
    let session : Session := { limit := host.limit false .session, paint := host.paint }
    e.digitCount ≤ maxDigits ∧ AsksFor ["run", "-"] .run { name := some .run } ∧
      openInput stdin lookup "-" = .ok stdin ∧
      Parses (host.limit false .runInput) stdin e ∧
      (execute host ["run", "-"] stdin lookup).stdout = "90\n" ∧
      Parses session.limit (.ofText "\t((9*9)+9)x".toList) e ∧
      Text.trim "\t((9*9)+9)x".toList ≠ session.settings.exitCommand.toList ∧
      Console.stdout (session.step "\t((9*9)+9)x".toList).events = "90\n" := by
  intro e host stdin lookup session
  have hcount : e.digitCount ≤ maxDigits := by decide
  have harguments : AsksFor ["run", "-"] .run { name := some .run } := ⟨rfl, rfl, rfl⟩
  have hopen : openInput stdin lookup "-" = .ok stdin := if_pos rfl
  have hinput : Parses (host.limit false .runInput) stdin e := by
    rw [parses_iff, outcome_ofBytes]
    exact outcome_of_unspaced (show _ = e.render ++ [] by decide) (by decide)
  have hline : Parses session.limit (.ofText "\t((9*9)+9)x".toList) e :=
    parses_iff.mpr (outcome_of_unspaced (show _ = e.render ++ ['x'] by decide) (by decide))
  have hexit : Text.trim "\t((9*9)+9)x".toList ≠ session.settings.exitCommand.toList := by decide
  have hwritten : toString e.value ++ "\n" = "90\n" := by decide
  obtain ⟨-, -, -, -, hanswers⟩ := value_within_digits e
  obtain ⟨hcommand, hsession⟩ := hanswers hcount
  have hwrites := hcommand host _ _ stdin lookup stdin harguments rfl hopen hinput
  refine ⟨hcount, harguments, hopen, hinput, ?_, hline, hexit, ?_⟩
  . exact hwrites.stdout.trans hwritten
  . exact (hsession session _ hline hexit).1.trans hwritten

end ParenCalc
