import ParenCalc.Command
import ParenCalc.Proofs.Command.Words
import ParenCalc.Proofs.Expr.Power
import ParenCalc.Proofs.Run.Encoding
import ParenCalc.Proofs.Run.Message

namespace ParenCalc

namespace Command

open CommandLine (IsInput IsWord)

def Report.ofResult (result : Result) : Report :=
  ⟨result.1, some Log.Level.warning.rank, result.2⟩

inductive Reports (outcome : Outcome) (report : Report) : Prop
  | value (v : Nat) (hsuccess : outcome.success = true) (hvalue : outcome.value? = some v)
      (hlength : (toString v).length ≤ maxDigits) (hending : report.ending = .ok 0)
      (hstdout : report.stdout = toString v ++ "\n") (hstderr : report.stderr = "")
  | message (message : String) (hsuccess : outcome.success = false)
      (hmessage : outcome.message? = some message) (hline : Text.OneLine message)
      (hending : report.ending = .ok 1) (hstdout : report.stdout = "")
      (hstderr : report.stderr = "[dharma] Error: " ++ message ++ "\n")
  | tooLong (v : Nat) (hsuccess : outcome.success = true) (hvalue : outcome.value? = some v)
      (hlength : maxDigits < (toString v).length) (hending : report.ending = .error .valueTooLong)
      (hstdout : report.stdout = "") (hstderr : report.stderr = "")

theorem threshold_default :
    (Log.threshold false (some ({} : Settings).logLevel)).toOption =
      some Log.Level.warning.rank := by
  rfl

theorem execute_of_invocation (host : Host) {arguments : List String} {invocation : Invocation}
    (h : Invocation.ofArguments arguments = .ok invocation) (hverbose : invocation.verbose = false)
    (stdin : Source) (lookup : Path → FileTree.Lookup) :
    execute host arguments stdin lookup =
      .ofResult (perform (host.limit false) host.paint invocation stdin lookup) := by
  unfold execute
  rw [h]
  simp only
  rw [hverbose, threshold_default]
  rfl

theorem execute_run (host : Host) {f : String} (hf : IsInput f) (stdin : Source)
    (lookup : Path → FileTree.Lookup) :
    execute host ["run", f] stdin lookup = .ofResult (run (host.limit false) stdin lookup f) :=
  execute_of_invocation host (@Invocation.ofArguments_input f .run rfl hf) rfl stdin lookup

theorem run_of_ofFile {limit : Caller → Nat} {f : String} (hf : IsWord f) (stdin : Source)
    {tree : FileTree} {program : Run}
    (h : Run.ofFile (limit .runFile) tree (.ofString f) = .ok program) :
    run limit stdin tree.lookup f = showRun program := by
  unfold Run.ofFile at h
  unfold run
  simp only
  rw [if_neg hf.ne_dash, h]

section Reports

variable {log : List Log.Entry} {events : List Console.Event} {ending : Except Abort Nat}

theorem stdout_ofResult :
    (Report.ofResult (log.map .log ++ events, ending)).stdout = Console.stdout events := by
  unfold Report.stdout Report.ofResult
  simp only
  rw [Console.stdout_append, Console.stdout_log, String.empty_append]

theorem stderr_ofResult (hlog : Log.Quiet log) :
    (Report.ofResult (log.map .log ++ events, ending)).stderr =
      Console.stderr (some Log.Level.warning.rank) events := by
  unfold Report.stderr Report.ofResult
  simp only
  rw [Console.stderr_append, Console.stderr_log Log.hides_warning hlog, String.empty_append]

end Reports

structure Report.Answers (report : Report) (text : String) : Prop where
  ending : report.ending = .ok 0
  stdout : report.stdout = text ++ "\n"
  stderr : report.stderr = ""

structure Report.Refuses (report : Report) (message : String) : Prop where
  ending : report.ending = .ok 1
  stdout : report.stdout = ""
  stderr : report.stderr = "[dharma] Error: " ++ message ++ "\n"

section Shown

variable {log : List Log.Entry} {program : Run}

theorem answers_ofResult (hlog : Log.Quiet log) (text : String) :
    (Report.ofResult (log.map .log ++ [.out (text ++ "\n")], .ok 0)).Answers text where
  ending := rfl
  stdout := stdout_ofResult
  stderr := stderr_ofResult hlog

theorem refuses_failure (hlog : Log.Quiet log) (message : String) :
    (Report.ofResult (failure log message)).Refuses message where
  ending := rfl
  stdout := stdout_ofResult
  stderr := (stderr_ofResult hlog).trans String.empty_append

theorem answers_showRun (hlog : Log.Quiet program.log) {tree : Tree} {v : Nat}
    (houtcome : program.outcome = .finished tree v) (hlength : (toString v).length ≤ maxDigits) :
    (Report.ofResult (showRun program)).Answers (toString v) := by
  have hshow : showRun program = (program.log.map .log ++ [.out (toString v ++ "\n")], .ok 0) := by
    simp only [showRun, houtcome, Outcome.message?, Outcome.value?, writeValue_eq_ok hlength]
  rw [hshow]
  exact answers_ofResult hlog _

theorem refuses_showRun (hlog : Log.Quiet program.log) {message : String}
    (hmessage : program.outcome.message? = some message) :
    (Report.ofResult (showRun program)).Refuses message := by
  have hshow : showRun program = failure program.log message := by
    simp only [showRun, hmessage]
  rw [hshow]
  exact refuses_failure hlog message

theorem reports_message (hlog : Log.Quiet program.log) {message : String}
    (hsuccess : program.outcome.success = false)
    (hmessage : program.outcome.message? = some message) (hline : Text.OneLine message) :
    Reports program.outcome (.ofResult (showRun program)) := by
  have hrefuses := refuses_showRun hlog hmessage
  exact .message message hsuccess hmessage hline hrefuses.ending hrefuses.stdout hrefuses.stderr

theorem reports_finished (hlog : Log.Quiet program.log) {tree : Tree} {v : Nat}
    (houtcome : program.outcome = .finished tree v) :
    Reports program.outcome (.ofResult (showRun program)) := by
  have hsuccess : program.outcome.success = true := by rw [houtcome]; rfl
  have hvalue : program.outcome.value? = some v := by rw [houtcome]; rfl
  by_cases hlength : (toString v).length ≤ maxDigits
  . have hanswers := answers_showRun hlog houtcome hlength
    exact .value v hsuccess hvalue hlength hanswers.ending hanswers.stdout hanswers.stderr
  . have hshow : showRun program = (program.log.map .log ++ [], .error .valueTooLong) := by
      simp only [showRun, houtcome, Outcome.message?, Outcome.value?,
        writeValue_eq_error (Nat.not_le.mp hlength), List.append_nil]
    rw [hshow]
    refine .tooLong v hsuccess hvalue (Nat.not_le.mp hlength) rfl ?_ ?_
    . exact stdout_ofResult
    . exact stderr_ofResult hlog

theorem reports_showRun {fault : Option Text.Utf8.Fault} (hlog : Log.Quiet program.log)
    (hreaches : Run.Reaches fault program.outcome) :
    Reports program.outcome (.ofResult (showRun program)) := by
  rcases hreaches.finished_or_message with ⟨e, houtcome⟩ | ⟨hsuccess, message, hmessage⟩
  . exact reports_finished hlog houtcome
  . exact reports_message hlog hsuccess hmessage (hreaches.oneLine_message hmessage)

end Shown

theorem reports_execute (host : Host) {f : String} (hf : IsWord f) (stdin : Source)
    {tree : FileTree} {bytes : List UInt8} (hfile : tree.lookup (.ofString f) = .file bytes) :
    let limit := host.limit false .runFile
    ∃ program, Run.ofFile limit tree (.ofString f) = .ok program ∧
      program.outcome = (Run.ofSource limit (.ofBytes bytes)).outcome ∧
      Reports program.outcome (execute host ["run", f] stdin tree.lookup) := by
  intro limit
  obtain ⟨program, hprogram, houtcome, hlog⟩ :=
    Run.ofFile_of_lookup (host.limit false .runFile) hfile
  have hreaches := Run.reaches limit (.ofBytes bytes)
  have hquiet : Log.Quiet program.log := by
    rw [hlog]
    exact (Log.quiet_singleton (.inr rfl)).append (Run.quiet_log _ _)
  rw [← houtcome] at hreaches
  refine ⟨program, hprogram, houtcome, ?_⟩
  rw [execute_run host hf.isInput, run_of_ofFile hf stdin hprogram]
  exact reports_showRun hquiet hreaches

theorem outcome_ofBytes_render_append {limit : Nat} (e : Expr) (h : e.nesting ≤ limit)
    {rest : List Char} (hrest : ∀ c ∈ rest, c ≠ '\r') :
    (Run.ofSource limit (.ofBytes (Text.Utf8.encode (e.render ++ rest)))).outcome =
      .finished (.ofExpr e) e.value := by
  have hreturn : ∀ c ∈ e.render ++ rest, c ≠ '\r' := by
    intro c hc
    exact (List.mem_append.mp hc).elim (Expr.ne_of_mem_render (by decide) e c) (hrest c)
  have hunspaced : Lexer.unspaced (e.render ++ rest) = e.render ++ Lexer.unspaced rest := by
    rw [Lexer.unspaced_append, Parser.unspaced_render]
  have hcontent := Source.content_ofBytes_of_no_return hreturn
  rw [(Run.run_of_content_none limit hcontent).1]
  exact Run.outcome_of_unspaced hunspaced h

theorem outcome_ofBytes_render {limit : Nat} (e : Expr) (h : e.nesting ≤ limit) :
    (Run.ofSource limit (.ofBytes (Text.Utf8.encode e.render))).outcome =
      .finished (.ofExpr e) e.value := by
  have hnothing : ∀ c ∈ ([] : List Char), c ≠ '\r' := by simp
  have houtcome := outcome_ofBytes_render_append e h hnothing
  rw [List.append_nil] at houtcome
  exact houtcome

/--
The command that runs a program file ends with the status 0 and writes the value, or with the status
1 and writes the message, as the run succeeds or fails. Only a value that is too long makes it end
with no status.
-/
theorem run_command_reports (host : Host) (f : String) (hf : IsWord f) (stdin : Source)
    (tree : FileTree) (bytes : List UInt8) (hfile : tree.lookup (.ofString f) = .file bytes) :
    ∃ program, Run.ofFile (host.limit false .runFile) tree (.ofString f) = .ok program ∧
      Reports program.outcome (execute host ["run", f] stdin tree.lookup) := by
  obtain ⟨program, hprogram, -, hreports⟩ := reports_execute host hf stdin hfile
  exact ⟨program, hprogram, hreports⟩

theorem run_command_reports_sum :
    let host : Host := { room := 994, paint := id }
    let tree : FileTree := { entries := [(["sum.dh"], some (Text.Utf8.encode "(1+2)".toList))] }
    IsWord "sum.dh" ∧
      tree.lookup (.ofString "sum.dh") = .file (Text.Utf8.encode "(1+2)".toList) ∧
      ∃ program, Run.ofFile (host.limit false .runFile) tree (.ofString "sum.dh") = .ok program ∧
        Reports program.outcome (execute host ["run", "sum.dh"] {} tree.lookup) := by
  intro host tree
  have hlookup : tree.lookup (.ofString "sum.dh") = .file (Text.Utf8.encode "(1+2)".toList) :=
    FileTree.lookup_singleton _ (by decide) (by decide) (by decide) (by decide)
  have hword : IsWord "sum.dh" := by decide
  exact ⟨hword, hlookup, run_command_reports host "sum.dh" hword {} tree _ hlookup⟩

theorem run_command_aborts :
    let host : Host := { room := 994, paint := id }
    let bytes := Text.Utf8.encode Expr.tooLong.render
    let tree : FileTree := { entries := [(["long.dh"], some bytes)] }
    IsWord "long.dh" ∧ tree.lookup (.ofString "long.dh") = .file bytes ∧
      (execute host ["run", "long.dh"] {} tree.lookup).ending = .error .valueTooLong := by
  intro host bytes tree
  have hword : IsWord "long.dh" := by decide
  have hlookup : tree.lookup (.ofString "long.dh") = .file bytes :=
    FileTree.lookup_singleton _ (by decide) (by decide) (by decide) (by decide)
  refine ⟨hword, hlookup, ?_⟩
  obtain ⟨program, -, houtcome, hreports⟩ := reports_execute host hword {} hlookup
  have hnesting : Expr.tooLong.nesting ≤ host.limit false .runFile := by
    rw [Expr.nesting_tooLong]
    decide
  rw [houtcome.trans (outcome_ofBytes_render _ hnesting)] at hreports
  cases hreports with
  | value v _ hvalue hlength =>
    rw [← Option.some.inj hvalue] at hlength
    exact absurd Expr.length_tooLong (Nat.not_lt.mpr hlength)
  | message message hsuccess => cases hsuccess
  | tooLong v _ _ _ hending => exact hending

end Command

end ParenCalc
