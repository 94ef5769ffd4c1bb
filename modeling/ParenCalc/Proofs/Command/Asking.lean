import ParenCalc.Proofs.Command.Agreement
import ParenCalc.Proofs.Command.Verbose

namespace ParenCalc

namespace Command

open CommandLine (IsInput)

structure AsksFor (arguments : List String) (name : Name) (invocation : Invocation) : Prop where
  arguments : Invocation.ofArguments arguments = .ok invocation
  interactive : invocation.interactive = false
  name : invocation.name = some name

structure Report.Writes (report : Report) (verbose : Bool) (status : Nat) (out err : String) :
    Prop where
  ending : report.ending = .ok status
  stdout : report.stdout = out
  errors : Console.errors report.events = err
  stderr : verbose = false → report.stderr = err

variable {host : Host} {arguments : List String} {name : Name} {invocation : Invocation}
  {lookup : Path → FileTree.Lookup} {limit : Caller → Nat} {paint : String → String}

theorem asksFor_input {input : String} (hname : name.takesInput = true) (hinput : IsInput input) :
    AsksFor [toString name, input] name { name := some name, input } where
  arguments := Invocation.ofArguments_input hname hinput
  interactive := rfl
  name := rfl

theorem AsksFor.writes (h : AsksFor arguments name invocation) {stdin : Source} {status : Nat}
    {events : List Console.Event} {out err : String}
    (hperform : perform (host.limit invocation.verbose) host.paint invocation stdin lookup =
      (events, .ok status))
    (hstdout : Console.stdout events = out) (herrors : Console.errors events = err) :
    (execute host arguments stdin lookup).Writes invocation.verbose status out err := by
  have hexecute := execute_of_ok h.arguments host stdin lookup
  simp only [hperform] at hexecute
  have hevents : (execute host arguments stdin lookup).events = events := by
    rw [hexecute]
  refine ⟨?_, ?_, ?_, ?_⟩
  . rw [hexecute]
  . unfold Report.stdout
    rw [hevents, hstdout]
  . rw [hevents, herrors]
  . intro hverbose
    have hplain : ∀ other, Invocation.ofArguments arguments = .ok other →
        other.verbose = false := by
      intro other hother
      rw [← Except.ok.inj (h.arguments.symm.trans hother)]
      exact hverbose
    rw [stderr_execute hplain, hevents, herrors]

theorem AsksFor.opensSession (h : AsksFor arguments name invocation)
    (hname : name.takesInput = true) :
    invocation.opensSession = false := by
  unfold Invocation.opensSession
  rw [h.interactive, h.name]
  cases name with
  | run | parse | tokens => rfl
  | _ => cases hname

theorem AsksFor.perform_run (h : AsksFor arguments .run invocation) (stdin : Source) :
    perform limit paint invocation stdin lookup = run limit stdin lookup invocation.input := by
  unfold perform
  rw [h.opensSession rfl, h.name]
  rfl

theorem AsksFor.perform_tokens (h : AsksFor arguments .tokens invocation) {stdin source : Source}
    (hopen : openInput stdin lookup invocation.input = .ok source) :
    perform limit paint invocation stdin lookup = tokens source := by
  unfold perform
  rw [h.opensSession rfl, h.name, hopen]
  rfl

end Command

end ParenCalc
