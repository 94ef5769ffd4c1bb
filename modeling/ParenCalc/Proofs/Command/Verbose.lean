import ParenCalc.Proofs.Command.Agreement
import ParenCalc.Proofs.Command.Options
import ParenCalc.Proofs.Expr.Power
import ParenCalc.Proofs.Session.Limit

/-!
This module contains that commands do the same when they are asked to be verbose, as long as the
stack is large enough for that: what they report about their work is shown, and nothing else
changes. Without being asked, they show none of it.
-/

namespace ParenCalc

namespace Command

open CommandLine

namespace Invocation

section OfArguments

variable {before front back : List String} {name : Name}

end OfArguments

end Invocation

section Quiet

theorem quiet_failure {log : List Log.Entry} (h : Log.Quiet log) (message : String) :
    Log.Quiet (Console.logged (failure log message).1) := by
  unfold failure
  simp only
  rw [Console.logged_append, Console.logged_log]
  exact h.append Log.quiet_nil

theorem quiet_showRun {program : Run} (h : Log.Quiet program.log) :
    Log.Quiet (Console.logged (showRun program).1) := by
  unfold showRun
  split
  . exact quiet_failure h _
  . split
    . simp only
      rw [Console.logged_append, Console.logged_log]
      exact h.append Log.quiet_nil
    . simp only
      rw [Console.logged_log]
      exact h
  . simp only
    rw [Console.logged_log]
    exact h

theorem quiet_ofLookup {limit : Nat} {path : String} {found : FileTree.Lookup} {program : Run}
    (h : Run.ofLookup limit path found = .ok program) : Log.Quiet program.log := by
  cases found with
  | file bytes =>
    cases h
    exact (Log.quiet_singleton (.inr rfl)).append (Run.quiet_log _ _)
  | directory =>
    cases h
    exact Log.quiet_singleton (.inr rfl)
  | missing =>
    cases h
    exact Log.quiet_nil
  | nameTooLong => cases h

theorem quiet_run (limit : Caller → Nat) (stdin : Source) (lookup : Path → FileTree.Lookup)
    (input : String) : Log.Quiet (Console.logged (run limit stdin lookup input).1) := by
  unfold run
  split
  . exact quiet_showRun (Run.quiet_log _ stdin)
  . simp only
    split
    . next hprogram => exact quiet_showRun (quiet_ofLookup hprogram)
    . exact Log.quiet_nil

theorem quiet_openInput {stdin : Source} {lookup : Path → FileTree.Lookup} {input : String}
    {result : Result} (h : openInput stdin lookup input = .error result) :
    Log.Quiet (Console.logged result.1) := by
  unfold openInput at h
  split at h
  . cases h
  . simp only at h
    split at h
    . cases h
    . cases h
      exact quiet_failure Log.quiet_nil _
    . cases h
      exact quiet_failure Log.quiet_nil _
    . cases h
      exact Log.quiet_nil

theorem quiet_parse (limit : Nat) (source : Source) (format : Format) :
    Log.Quiet (Console.logged (parse limit source format).1) := by
  unfold parse
  split
  . simp only
    split
    . rw [Console.logged_append, Console.logged_log]
      exact (Run.quiet_parseReport _ _).append Log.quiet_nil
    . exact quiet_failure (Run.quiet_parseReport _ _) _
  . exact quiet_failure (Run.quiet_parseReport _ _) _

theorem quiet_tokens (source : Source) : Log.Quiet (Console.logged (tokens source).1) := by
  unfold tokens
  simp only
  split
  . simp only
    rw [Console.logged_append, Console.logged_out, Console.logged_log]
    exact Run.quiet_lexed _
  . simp only
    rw [Console.logged_append, Console.logged_out]
    exact quiet_failure (Run.quiet_lexed _) _

theorem quiet_shell (session : Session) (stdin : Source) :
    Log.Quiet (Console.logged (shell session stdin).1) := by
  have hrun := session.quiet_run stdin
  unfold shell
  simp only
  split
  . exact hrun
  . exact hrun

theorem quiet_perform (limit : Caller → Nat) (paint : String → String) (invocation : Invocation)
    (stdin : Source) (lookup : Path → FileTree.Lookup) :
    Log.Quiet (Console.logged (perform limit paint invocation stdin lookup).1) := by
  unfold perform
  split
  . exact quiet_shell _ stdin
  . split
    . exact quiet_run limit stdin lookup _
    . split
      . exact quiet_parse _ _ _
      . next hresult => exact quiet_openInput hresult
    . split
      . exact quiet_tokens _
      . next hresult => exact quiet_openInput hresult
    . exact Log.quiet_nil
    . exact Log.quiet_nil

end Quiet

/--
`Interleaves errors text` states that a text is made of the errors, with lines of the log between
them.
-/
inductive Interleaves : (errors text : String) → Prop
  | nil : Interleaves "" ""
  | error (written : String) {errors text : String} (h : Interleaves errors text) :
      Interleaves (written ++ errors) (written ++ text)
  | line (entry : Log.Entry) {errors text : String} (h : Interleaves errors text) :
      Interleaves errors (entry.line ++ text)

theorem Interleaves.refl (errors : String) : Interleaves errors errors := by
  have herrors := Interleaves.error errors .nil
  rw [String.append_empty] at herrors
  exact herrors

structure Fits (limit : Caller → Nat) (paint : String → String) (invocation : Invocation)
    (stdin : Source) (lookup : Path → FileTree.Lookup) : Prop where
  session : invocation.opensSession = true →
    Session.Fits { limit := limit .session, paint } stdin.lines.lines
  run : invocation.opensSession = false → invocation.name = some .run →
    ∀ source, openInput stdin lookup invocation.input = .ok source →
      Run.Fits (limit (runCaller invocation.input)) source
  parse : invocation.opensSession = false → invocation.name = some .parse →
    ∀ source, openInput stdin lookup invocation.input = .ok source →
      Run.Fits (limit .show) source

section Limits

variable {limit limit' : Caller → Nat} {stdin : Source} {lookup : Path → FileTree.Lookup}
  {input : String}

end Limits

section Execute

variable {host : Host} {arguments : List String} {stdin : Source}
  {lookup : Path → FileTree.Lookup}

theorem execute_of_error {ending : Ending} (h : Invocation.ofArguments arguments = .error ending)
    (host : Host) (stdin : Source) (lookup : Path → FileTree.Lookup) :
    execute host arguments stdin lookup =
      { events := [.out ending.stdout, .err ending.stderr], ending := .ok ending.status } := by
  unfold execute
  rw [h]

theorem stderr_execute
    (h : ∀ invocation, Invocation.ofArguments arguments = .ok invocation →
      invocation.verbose = false)
    (host : Host) (stdin : Source) (lookup : Path → FileTree.Lookup) :
    (execute host arguments stdin lookup).stderr =
      Console.errors (execute host arguments stdin lookup).events := by
  cases hinvocation : Invocation.ofArguments arguments with
  | error ending =>
    rw [execute_of_error hinvocation]
    exact Console.stderr_eq_errors Log.hides_none Log.quiet_nil
  | ok invocation =>
    rw [execute_of_invocation host hinvocation (h _ hinvocation)]
    exact Console.stderr_eq_errors Log.hides_warning (quiet_perform _ _ _ _ _)

theorem execute_of_ok {invocation : Invocation}
    (h : Invocation.ofArguments arguments = .ok invocation)
    (host : Host) (stdin : Source) (lookup : Path → FileTree.Lookup) :
    let limit := host.limit invocation.verbose
    execute host arguments stdin lookup =
      { events := (perform limit host.paint invocation stdin lookup).1
        configured := (Log.threshold invocation.verbose (some ({} : Settings).logLevel)).toOption
        ending := (perform limit host.paint invocation stdin lookup).2 } := by
  unfold execute
  rw [h]

end Execute

section File

variable {f : String} {e : Expr} {lookup : Path → FileTree.Lookup}

end File

end Command

end ParenCalc
