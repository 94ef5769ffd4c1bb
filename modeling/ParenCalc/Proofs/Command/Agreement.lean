import ParenCalc.Proofs.Command.Run
import ParenCalc.Proofs.Run.Limit
import ParenCalc.Proofs.Tree.Outline

namespace ParenCalc

namespace Command

open CommandLine (IsInput IsWord)

def shown (e : Expr) : Format → String
  | .tree => "\n".intercalate (e.outline 0)
  | .source => String.ofList e.render

section Parse

variable {limit : Nat} {source : Source}

end Parse

section Input

variable {name : String} {stdin : List UInt8} {lookup : Path → FileTree.Lookup}

def runCaller (name : String) : Caller :=
  if name = "-" then .runInput else .runFile

theorem run_of_openInput (limit : Caller → Nat) {stdin source : Source}
    (h : openInput stdin lookup name = .ok source) :
    ∃ program : Run, program.outcome = (Run.ofSource (limit (runCaller name)) source).outcome ∧
      Log.Quiet program.log ∧ run limit stdin lookup name = showRun program := by
  unfold openInput at h
  unfold run runCaller
  split at h
  . next hdash =>
    rw [if_pos hdash, if_pos hdash, Except.ok.inj h]
    exact ⟨Run.ofSource _ source, rfl, Run.quiet_log _ source, rfl⟩
  . next hdash =>
    rw [if_neg hdash, if_neg hdash]
    cases hlookup : lookup (.ofString name) with
    | file bytes =>
      simp only [hlookup] at h
      obtain rfl := Except.ok.inj h
      let opened := Run.ofSource (limit .runFile) (.ofBytes bytes)
      let program := { opened with log := .running (toString (Path.ofString name)) :: opened.log }
      refine ⟨program, rfl, (Log.quiet_singleton (.inr rfl)).append (Run.quiet_log _ _), ?_⟩
      simp only [hlookup, Run.ofLookup, Run.Answer.ofLookup, Run.ofAnswer, program, opened]
    | directory | missing | nameTooLong =>
      simp only [hlookup] at h
      cases h

def parseReport (limit : Caller → Nat) (stdin : List UInt8) (lookup : Path → FileTree.Lookup)
    (name : String) (format : Format) : Report :=
  .ofResult (match openInput (.ofBytes stdin) lookup name with
    | .ok source => parse (limit .show) source format
    | .error result => result)

end Input

section Open

variable {limit : Caller → Nat} {source : Source}

end Open

section File

variable {f : String} {e : Expr} {lookup : Path → FileTree.Lookup}

end File

end Command

end ParenCalc
