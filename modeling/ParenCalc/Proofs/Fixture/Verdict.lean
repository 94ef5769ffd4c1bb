import ParenCalc.Fixture
import ParenCalc.Proofs.Command.Run
import ParenCalc.Proofs.Text.Output
import ParenCalc.Proofs.Text.Quoted

namespace ParenCalc

namespace Command

open CommandLine (IsWord)

theorem oneLine_directoryMessage (path : String) :
    Text.OneLine (Outcome.directoryMessage path) := by
  apply Text.OneLine.append (by decide)
  intro hnewline
  exact absurd (Text.isPrintable_of_mem_quote hnewline) (by decide)

theorem reports_of_present {host : Host} {f : String} (hf : IsWord f) (stdin : Source)
    {tree : FileTree} {program : Run}
    (hprogram : Run.ofFile (host.limit false .runFile) tree (.ofString f) = .ok program)
    (hpresent : tree.lookup (.ofString f) ≠ .missing) :
    Reports program.outcome (execute host ["run", f] stdin tree.lookup) := by
  cases hlookup : tree.lookup (.ofString f) with
  | file bytes =>
    obtain ⟨found, hfound, -, hreports⟩ := reports_execute host hf stdin hlookup
    rw [Except.ok.inj (hprogram.symm.trans hfound)]
    exact hreports
  | directory =>
    rw [execute_run host hf.isInput, run_of_ofFile hf stdin hprogram]
    rw [Run.ofFile, hlookup] at hprogram
    obtain rfl := Except.ok.inj hprogram
    apply reports_message (Log.quiet_singleton (.inr rfl)) rfl rfl
    exact Text.OneLine.append (by decide) (oneLine_directoryMessage _)
  | missing => exact absurd hlookup hpresent
  | nameTooLong =>
    rw [Run.ofFile, hlookup] at hprogram
    cases hprogram

end Command

namespace Fixture

open Console (Event)
open Text

structure Trial where
  tree : FileTree
  given : Path
  file : String
  child : (stem path : String) → Child

namespace Trial

def directory (trial : Trial) : Path :=
  .resolve trial.tree.workingDirectory trial.given

def path (trial : Trial) : String :=
  toString (trial.directory.child trial.file)

def expectations (trial : Trial) : Path :=
  trial.directory.child (stem trial.file ++ ".expected.txt")

def run (trial : Trial) (verbose : Bool) : Except Abort (List Event × Result) :=
  check verbose trial.tree trial.directory trial.child trial.file

/--
The text is what the file of expectations has. There is a program, and where it is started it does
what the command does that runs it on the host, which is not aborted.
-/
structure Faithful (trial : Trial) (host : Command.Host) (text : List Char) (program : Run) :
    Prop where
  expected : ∃ bytes,
    trial.tree.lookup trial.expectations = .file bytes ∧ decodeFile bytes = .ok text
  present : trial.tree.lookup (.ofString trial.path) ≠ .missing
  program : Run.ofFile (host.limit false .runFile) trial.tree (.ofString trial.path) = .ok program
  child : ∃ stdin status,
    let report := Command.execute host ["run", trial.path] stdin trial.tree.lookup
    report.ending = .ok status ∧
      trial.child (stem trial.file) trial.path = .exited status report.stdout report.stderr

end Trial

/--
The outcome is what the text, trimmed at its end, asks for: behind the mark of errors a part of the
line that reports a failure, or else a value.
-/
inductive Meets (text : List Char) (outcome : Outcome) : Prop
  | failure (part : List Char) (message : String) (htext : trimRight text = errorMark ++ part)
      (hsuccess : outcome.success = false) (hmessage : outcome.message? = some message)
      (hpart : part <:+: ("[dharma] Error: " ++ message).toList)
  | value (v : Nat) (htext : ¬ errorMark <+: trimRight text) (hsuccess : outcome.success = true)
      (hvalue : outcome.value? = some v) (hequal : trimRight text = (toString v).toList)

theorem Expectation.ofNormalized_append (part : List Char) :
    ofNormalized (errorMark ++ part) = .failure part := by
  unfold ofNormalized
  rw [if_pos (List.isPrefixOf_iff_prefix.mpr (List.prefix_append _ _)), List.drop_left]

theorem Expectation.ofNormalized_of_no_mark {text : List Char} (h : ¬ errorMark <+: text) :
    ofNormalized text = .output text := by
  unfold ofNormalized
  rw [if_neg (mt List.isPrefixOf_iff_prefix.mp h)]

theorem isBlank_of_isDigit {c : Char} (h : c.isDigit = true) : isBlank c = false := by
  obtain ⟨d, rfl⟩ := Digit.isDigit_iff.mp h
  revert d
  decide

theorem normalizeOutput_value (v : Nat) :
    normalizeOutput (toString v ++ "\n").toList = (toString v).toList := by
  rw [String.toList_append]
  refine (normalizeOutput_line (oneLine_toString_nat v)).trans (trimRight_of_ink ?_)
  intro c hc
  exact isBlank_of_isDigit (isDigit_of_mem_toString_nat (List.mem_of_getLast? hc))

section Compare

variable {text part : List Char} {message : String}

theorem exists_ink_of_marked (h : trimRight text = errorMark ++ part) :
    ∃ c ∈ part.getLast?, isBlank c = false := by
  have hink : ∀ c ∈ (errorMark ++ part).getLast?, isBlank c = false := by
    rw [← h]
    exact fun c => isBlank_of_mem_getLast?_trimRight
  rw [List.getLast?_append] at hink
  cases hlast : part.getLast? with
  | none =>
    rw [hlast] at hink
    exact absurd (hink ' ' rfl) (by decide)
  | some c =>
    rw [hlast] at hink
    exact ⟨c, rfl, hink c rfl⟩

theorem occursIn_error_iff (hline : OneLine message)
    (hpart : ∃ c ∈ part.getLast?, isBlank c = false) :
    occursIn part (normalizeOutput ("[dharma] Error: " ++ message ++ "\n").toList) = true ↔
      part <:+: ("[dharma] Error: " ++ message).toList := by
  have herror : OneLine ("[dharma] Error: " ++ message) := OneLine.append (by decide) hline
  have hnormalized : normalizeOutput ("[dharma] Error: " ++ message ++ "\n").toList =
      trimRight ("[dharma] Error: " ++ message).toList := by
    rw [String.toList_append]
    exact normalizeOutput_line herror
  rw [occursIn_iff, hnormalized, infix_trimRight_iff_of_ink hpart]

theorem compare_marked_iff {outcome : Outcome} {report : Command.Report} {status : Nat}
    (htext : trimRight text = errorMark ++ part) (h : Command.Reports outcome report)
    (hending : report.ending = .ok status) :
    ((Expectation.failure part).compare status report.stdout report.stderr).1 = true ↔
      Meets text outcome := by
  unfold Expectation.compare
  cases h with
  | value v hsuccess hvalue hlength hending' hstdout hstderr =>
    obtain rfl := Except.ok.inj (hending.symm.trans hending')
    constructor
    . intro h
      cases h
    . intro h
      cases h with
      | failure _ _ _ hfails =>
        rw [hsuccess] at hfails
        cases hfails
      | value _ hunmarked => exact absurd ⟨part, htext.symm⟩ hunmarked
  | message message hsuccess hmessage hline hending' hstdout hstderr =>
    obtain rfl := Except.ok.inj (hending.symm.trans hending')
    have hoccurs := occursIn_error_iff hline (exists_ink_of_marked htext)
    rw [hstderr]
    simp only [Bool.and_eq_true, hoccurs]
    constructor
    . rintro ⟨-, hpart⟩
      exact .failure part message htext hsuccess hmessage hpart
    . intro h
      refine ⟨by decide, ?_⟩
      cases h with
      | failure part' message' htext' _ hmessage' hpart =>
        obtain rfl := List.append_cancel_left (htext.symm.trans htext')
        obtain rfl := Option.some.inj (hmessage.symm.trans hmessage')
        exact hpart
      | value _ hunmarked => exact absurd ⟨part, htext.symm⟩ hunmarked
  | tooLong v _ _ _ hending' =>
    rw [hending] at hending'
    cases hending'

theorem compare_unmarked_iff {outcome : Outcome} {report : Command.Report} {status : Nat}
    (htext : ¬ errorMark <+: trimRight text) (h : Command.Reports outcome report)
    (hending : report.ending = .ok status) :
    ((Expectation.output (trimRight text)).compare status report.stdout report.stderr).1 = true ↔
      Meets text outcome := by
  unfold Expectation.compare
  cases h with
  | value v hsuccess hvalue hlength hending' hstdout hstderr =>
    obtain rfl := Except.ok.inj (hending.symm.trans hending')
    rw [hstdout, normalizeOutput_value]
    simp only [Bool.and_eq_true, beq_iff_eq]
    constructor
    . rintro ⟨-, hequal⟩
      exact .value v htext hsuccess hvalue hequal.symm
    . intro h
      refine ⟨by decide, ?_⟩
      cases h with
      | failure part _ hmarked => exact absurd ⟨part, hmarked.symm⟩ htext
      | value v' _ _ hvalue' hequal =>
        rw [hequal, Option.some.inj (hvalue.symm.trans hvalue')]
  | message message hsuccess hmessage hline hending' hstdout hstderr =>
    obtain rfl := Except.ok.inj (hending.symm.trans hending')
    constructor
    . intro h
      cases h
    . intro h
      cases h with
      | failure part _ hmarked => exact absurd ⟨part, hmarked.symm⟩ htext
      | value _ _ hsucceeds =>
        rw [hsuccess] at hsucceeds
        cases hsucceeds
  | tooLong v _ _ _ hending' =>
    rw [hending] at hending'
    cases hending'

end Compare

theorem compare_iff {text : List Char} {outcome : Outcome} {report : Command.Report} {status : Nat}
    (hreturn : '\r' ∉ text) (h : Command.Reports outcome report)
    (hending : report.ending = .ok status) :
    let expectation := Expectation.ofNormalized (normalizeOutput text)
    (expectation.compare status report.stdout report.stderr).1 = true ↔ Meets text outcome := by
  intro expectation
  unfold expectation
  rw [normalizeOutput_of_no_return hreturn]
  by_cases hmark : errorMark <+: trimRight text
  . obtain ⟨part, htext⟩ := hmark
    rw [← htext, Expectation.ofNormalized_append]
    exact compare_marked_iff htext.symm h hending
  . rw [Expectation.ofNormalized_of_no_mark hmark]
    exact compare_unmarked_iff hmark h hending

theorem Meets.success_iff {text : List Char} {outcome : Outcome} (h : Meets text outcome) :
    outcome.success = true ↔ ¬ errorMark <+: trimRight text := by
  cases h with
  | failure part _ htext hsuccess =>
    rw [hsuccess]
    exact iff_of_false Bool.false_ne_true (fun hunmarked => hunmarked ⟨part, htext.symm⟩)
  | value _ htext hsuccess => exact iff_of_true hsuccess htext

theorem not_meets_of_blank {text : List Char} (htext : trimRight text = []) (outcome : Outcome) :
    ¬ Meets text outcome := by
  intro h
  cases h with
  | failure part _ hmarked =>
    rw [htext] at hmarked
    cases hmarked
  | value v _ _ _ hequal =>
    rw [htext, toList_toString_nat] at hequal
    exact absurd hequal.symm Nat.toDigits_ne_nil

theorem Trial.isWord_path (trial : Trial) : CommandLine.IsWord trial.path := by
  have hpath : trial.path =
      "/" ++ "/".intercalate (trial.directory.parts ++ [trial.file]) := rfl
  unfold CommandLine.IsWord
  rw [hpath, String.toList_append]
  exact (by decide : some '/' ≠ some '-')

theorem return_not_mem_of_decodeFile {bytes : List UInt8} {text : List Char}
    (h : decodeFile bytes = .ok text) : '\r' ∉ text := by
  unfold decodeFile at h
  cases hdecode : Utf8.decodeAll bytes with
  | error fault =>
    rw [hdecode] at h
    cases h
  | ok decoded =>
    rw [hdecode] at h
    rw [← Except.ok.inj h]
    exact Newline.return_not_mem_unifyAll decoded

theorem Trial.Faithful.run_eq {trial : Trial} {host : Command.Host} {text : List Char}
    {program : Run} (h : trial.Faithful host text program) (verbose : Bool) :
    ∃ events result, trial.run verbose = .ok (events, result) ∧
      (result.passed = true ↔ Meets text program.outcome) := by
  obtain ⟨bytes, hlookup, hdecode⟩ := h.expected
  obtain ⟨stdin, status, hending, hchild⟩ := h.child
  have hreports := Command.reports_of_present trial.isWord_path stdin h.program h.present
  have hcompare := compare_iff (return_not_mem_of_decodeFile hdecode) hreports hending
  have hread : readExpected (toString trial.expectations)
      (trial.tree.lookup trial.expectations) = .ok (some text) := by
    rw [hlookup, readExpected, hdecode]
  unfold Trial.run check
  unfold Trial.expectations at hread
  unfold Trial.path at hchild
  simp only [hread, hchild]
  exact ⟨_, _, rfl, hcompare⟩

/--
Where a program is run as the command does that runs programs, its fixture has a result, and passes
just when the outcome of the program is what is expected. No text passes both for a program that
succeeds and for one that fails, and a blank one never passes.
-/
theorem verdict_reflects_outcome {trial : Trial} {host : Command.Host} {text : List Char}
    {program : Run} (h : trial.Faithful host text program) (verbose : Bool) :
    ∃ events result, trial.run verbose = .ok (events, result) ∧
      (result.passed = true ↔ Meets text program.outcome) ∧
      (trimRight text = [] → result.passed = false) ∧
      ∀ (trial' : Trial) (host' : Command.Host) (program' : Run) (verbose' : Bool)
        (events' : List Event) (result' : Result),
        trial'.Faithful host' text program' → trial'.run verbose' = .ok (events', result') →
          result.passed = true → result'.passed = true →
            program'.outcome.success = program.outcome.success := by
  obtain ⟨events, result, hrun, hpassed⟩ := h.run_eq verbose
  refine ⟨events, result, hrun, hpassed, ?_, ?_⟩
  . intro hblank
    rw [Bool.eq_false_iff, ne_eq, hpassed]
    exact not_meets_of_blank hblank _
  . intro trial' host' program' verbose' events' result' h' hrun' hpasses hpasses'
    obtain ⟨_, _, hfound, hpassed'⟩ := h'.run_eq verbose'
    obtain ⟨rfl, rfl⟩ := Prod.mk.inj (Except.ok.inj (hrun'.symm.trans hfound))
    rw [Bool.eq_iff_iff, (hpassed'.mp hpasses').success_iff, (hpassed.mp hpasses).success_iff]

def unclosedFiles : FileTree where
  entries := [(["t1.dh"], some (Utf8.encode "(1+2".toList)),
    (["t1.expected.txt"], some (Utf8.encode "ERROR: Missing right \r\n".toList))]

def unclosedHost : Command.Host where
  room := 994
  paint := id

def unclosed : Trial where
  tree := unclosedFiles
  given := {}
  file := "t1.dh"
  child _ path := runChild unclosedHost unclosedFiles path

theorem runChild_eq {host : Command.Host} {tree : FileTree} {path : String} {status : Nat}
    (h : (Command.execute host ["run", path] {} tree.lookup).ending = .ok status) :
    let report := Command.execute host ["run", path] {} tree.lookup
    runChild host tree path = .exited status report.stdout report.stderr := by
  unfold runChild
  simp only [h]

theorem outcome_unclosed :
    let run := Run.ofSource (unclosedHost.limit false .runFile)
      (.ofBytes (Utf8.encode "(1+2".toList))
    run.outcome.success = false ∧
      run.outcome.message? = some "Parse error: Line 1: Missing right parenthesis" := by
  intro run
  have hreturn : ∀ c ∈ "(1+2".toList, c ≠ '\r' := by simp
  unfold run
  rw [Run.outcome_ofBytes, Newline.unifyAll_of_no_return hreturn]
  decide +kernel

theorem exists_faithful_unclosed :
    ∃ program, unclosed.Faithful unclosedHost "ERROR: Missing right \n".toList program ∧
      program.outcome.success = false ∧
      program.outcome.message? = some "Parse error: Line 1: Missing right parenthesis" := by
  have hlookup : unclosed.tree.lookup (.ofString unclosed.path) =
      .file (Utf8.encode "(1+2".toList) := by decide
  have hpresent : unclosed.tree.lookup (.ofString unclosed.path) ≠ .missing := by
    rw [hlookup]
    exact FileTree.Lookup.noConfusion
  obtain ⟨program, hprogram, houtcome, hreports⟩ :=
    Command.reports_execute unclosedHost unclosed.isWord_path {} hlookup
  obtain ⟨hfails, hmessage⟩ := outcome_unclosed
  rw [← houtcome] at hfails hmessage
  have hending :
      (Command.execute unclosedHost ["run", unclosed.path] {} unclosed.tree.lookup).ending =
        .ok 1 := by
    cases hreports with
    | message _ _ _ _ hending => exact hending
    | value _ hsuccess | tooLong _ hsuccess =>
      rw [hfails] at hsuccess
      cases hsuccess
  refine ⟨program, ⟨?_, hpresent, hprogram, {}, 1, hending, runChild_eq hending⟩, hfails, hmessage⟩
  exact ⟨Utf8.encode "ERROR: Missing right \r\n".toList, by decide, by rfl⟩

theorem verdict_reflects_outcome_unclosed :
    ∃ program events result,
      unclosed.Faithful unclosedHost "ERROR: Missing right \n".toList program ∧
        program.outcome.success = false ∧ unclosed.run true = .ok (events, result) ∧
        result.passed = true := by
  obtain ⟨program, hfaithful, hsuccess, hmessage⟩ := exists_faithful_unclosed
  obtain ⟨events, result, hrun, hpassed, -⟩ := verdict_reflects_outcome hfaithful true
  have hmeets : Meets "ERROR: Missing right \n".toList program.outcome :=
    .failure "Missing right".toList _ (by decide) hsuccess hmessage (occursIn_iff.mp (by decide))
  exact ⟨program, events, result, hfaithful, hsuccess, hrun, hpassed.mpr hmeets⟩

end Fixture

end ParenCalc
