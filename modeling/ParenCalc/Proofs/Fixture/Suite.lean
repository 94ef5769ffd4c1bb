import ParenCalc.Proofs.Console
import ParenCalc.Proofs.Fixture.Discovery

namespace ParenCalc

open Console (Event)

namespace Fixture

inductive UpToFailure : (results recorded : List Result) → Prop
  | passed {results : List Result} (h : ∀ result ∈ results, result.passed = true) :
      UpToFailure results results
  | failed {before behind : List Result} {failure : Result}
      (hbefore : ∀ result ∈ before, result.passed = true)
      (hfailure : failure.passed = false) :
      UpToFailure (before ++ failure :: behind) (before ++ [failure])

def recorded (failFast : Bool) : List Result → List Result
  | [] => []
  | result :: results =>
    result :: if failFast && !result.passed then [] else recorded failFast results

variable {results : List Result}

theorem recorded_false (results : List Result) : recorded false results = results := by
  induction results with
  | nil => rfl
  | cons result results ih => exact congrArg (result :: ·) ih

theorem UpToFailure.cons {result : Result} {recorded : List Result} (hresult : result.passed = true)
    (h : UpToFailure results recorded) : UpToFailure (result :: results) (result :: recorded) := by
  cases h with
  | passed h => exact .passed (List.forall_mem_cons.mpr ⟨hresult, h⟩)
  | failed hbefore hfailure =>
    rw [← List.cons_append, ← List.cons_append]
    exact .failed (List.forall_mem_cons.mpr ⟨hresult, hbefore⟩) hfailure

theorem upToFailure_recorded (results : List Result) :
    UpToFailure results (recorded true results) := by
  induction results with
  | nil => exact .passed (by simp)
  | cons result results ih =>
    rw [recorded]
    cases hresult : result.passed with
    | false => exact @UpToFailure.failed [] results result (by simp) hresult
    | true => exact ih.cons hresult

theorem passed_recorded_iff (failFast : Bool) (results : List Result) :
    (∀ result ∈ recorded failFast results, result.passed = true) ↔
      ∀ result ∈ results, result.passed = true := by
  induction results with
  | nil => rfl
  | cons result results ih =>
    rw [recorded, List.forall_mem_cons, List.forall_mem_cons]
    apply and_congr_right
    intro hresult
    simp [hresult, ih]

namespace Suite

theorem failedCount_eq (suite : Suite) :
    suite.failedCount = (suite.results.filter fun result => !result.passed).length :=
  List.countP_eq_length_filter

theorem failedCount_eq_zero_iff {suite : Suite} :
    suite.failedCount = 0 ↔ ∀ result ∈ suite.results, result.passed = true := by
  rw [failedCount, List.countP_eq_zero]
  simp

theorem status_eq_zero_iff {suite : Suite} :
    suite.status = 0 ↔ ∀ result ∈ suite.results, result.passed = true := by
  unfold status
  rw [← failedCount_eq_zero_iff]
  split
  . next h => exact iff_of_true rfl h
  . next h => exact iff_of_false Nat.one_ne_zero h

theorem status_recorded (failFast : Bool) (results : List Result) :
    status { results := recorded failFast results } = status { results } := by
  unfold status
  simp only [failedCount_eq_zero_iff, passed_recorded_iff]

end Suite

section Collect

variable {α : Type} {check : α → Except Abort (List Event × Result)} {outcome : α → Result}

theorem collect_cons {failFast : Bool} {progress : Progress} {file : α} {events : List Event}
    {result : Result}
    (h : check file = .ok (events, result)) (files : List α) :
    ∃ written, collect failFast check progress (file :: files) =
      let next := { progress with suite := progress.suite.add result, events := written }
      if failFast && !result.passed then next else collect failFast check next files := by
  refine ⟨progress.events ++ events ++ [.out (result.line ++ "\n")], ?_⟩
  rw [collect, h]

theorem collect_eq (failFast : Bool) {files : List α}
    (h : ∀ file ∈ files, ∃ events, check file = .ok (events, outcome file)) (progress : Progress) :
    (collect failFast check progress files).suite =
        { results := progress.suite.results ++ recorded failFast (files.map outcome) } ∧
      (collect failFast check progress files).abort = progress.abort := by
  induction files generalizing progress with
  | nil =>
    rw [List.map_nil, recorded, List.append_nil]
    exact ⟨rfl, rfl⟩
  | cons file files ih =>
    rw [List.forall_mem_cons] at h
    obtain ⟨⟨events, hfile⟩, hfiles⟩ := h
    obtain ⟨written, hstep⟩ := collect_cons hfile files
    rw [hstep, List.map_cons, recorded]
    simp only
    split
    . exact ⟨rfl, rfl⟩
    . obtain ⟨hsuite, habort⟩ :=
        ih hfiles { progress with suite := progress.suite.add (outcome file), events := written }
      refine ⟨?_, habort⟩
      rw [hsuite, Suite.add, List.append_assoc, List.singleton_append]

end Collect

section RunAll

variable {tree : FileTree} {directory : Path}
  {check : (file : String) → Except Abort (List Event × Result)}
  {outcome : (file : String) → Result}

structure Report.Summarizes (report : Report) (results : List Result) : Prop where
  suite : report.suite = some { results }
  stdout : ∃ before passed failed, passed + failed = results.length ∧
    failed = (results.filter fun result => !result.passed).length ∧
    report.stdout = before ++
      ("\n" ++ Suite.rule ++ "\n" ++ "Fixture Summary: " ++ toString passed ++ " passed, " ++
        toString failed ++ " failed\n" ++ Suite.rule ++ "\n" ++
        if failed = 0 then ""
        else "\nFailed fixtures:\n" ++
          String.join ((results.filter fun result => !result.passed).map fun result =>
            "  - " ++ result.name ++ ": " ++ result.message ++ "\n"))

theorem runAll_of_found (options : Options) (hfound : found tree directory ≠ [])
    (hcheck : ∀ file ∈ found tree directory, ∃ events, check file = .ok (events, outcome file)) :
    let report := runAll options tree directory check
    let suite : Suite :=
      { results := recorded options.failFast ((found tree directory).map outcome) }
    report.ending = .ok suite.status ∧ report.Summarizes suite.results := by
  intro report suite
  obtain ⟨hsuite, habort⟩ := collect_eq options.failFast hcheck
    { events := [.log (.note .debug
        ("Discovered " ++ toString (found tree directory).length ++ " fixtures"))] }
  have hreport : ∃ before, report.suite = some suite ∧ report.ending = .ok suite.status ∧
      report.events = before ++ [.out suite.summary] := by
    unfold report runAll
    rw [discover_of_found hfound]
    simp only [habort, hsuite]
    exact ⟨_, rfl, rfl, rfl⟩
  obtain ⟨before, hsuite', hending, hevents⟩ := hreport
  refine ⟨hending, hsuite', Console.stdout before, suite.passedCount, suite.failedCount,
    suite.passedCount_add_failedCount, suite.failedCount_eq, ?_⟩
  rw [Report.stdout, hevents, Console.stdout_append]
  rfl

theorem runAll_of_nothing_found (check : (file : String) → Except Abort (List Event × Result))
    (hfound : found tree directory = []) :
    ∃ ending, ending ≠ .ok 0 ∧ (¬ tree.NameTooLong directory → ending = .ok 1) ∧
      ∀ options, (runAll options tree directory check).suite = some {} ∧
        (runAll options tree directory check).ending = ending := by
  unfold runAll
  by_cases hlong : tree.NameTooLong directory
  . rw [discover_of_nameTooLong hlong]
    exact ⟨.error _, by simp, fun hshort => absurd hlong hshort, fun options => ⟨rfl, rfl⟩⟩
  . obtain ⟨absence, habsence⟩ := discover_of_nothing_found hfound hlong
    rw [habsence]
    exact ⟨.ok 1, by simp, fun _ => rfl, fun options => ⟨rfl, rfl⟩⟩

end RunAll

/--
Where every fixture has a result, all results are recorded in the order of the names of the
fixtures, or those up to the first failure where this ends the run. Either way the status is 0 if
there are fixtures and all of them pass. There is no status only for a directory whose name is too
long to be looked for.
-/
theorem failFast_keeps_verdict (options : Options) (tree : FileTree) (path : Path)
    (check : (file : String) → Except Abort (List Event × Result))
    (outcome : (file : String) → Result)
    (hcheck : ∀ file, IsFixture tree (.resolve tree.workingDirectory path) file →
      ∃ events, check file = .ok (events, outcome file)) :
    ∃ files recorded, files.Pairwise (· < ·) ∧
      (∀ file, file ∈ files ↔ IsFixture tree (.resolve tree.workingDirectory path) file) ∧
      UpToFailure (files.map outcome) recorded ∧
      let directory := Path.resolve tree.workingDirectory path
      let full := runAll { options with failFast := false } tree directory check
      let fast := runAll { options with failFast := true } tree directory check
      full.suite = some { results := files.map outcome } ∧
      fast.suite = some { results := recorded } ∧
      fast.ending = full.ending ∧
      (full.ending = .ok 0 ↔ files ≠ [] ∧ ∀ file ∈ files, (outcome file).passed = true) ∧
      (¬ tree.NameTooLong directory → ∃ status, full.ending = .ok status) ∧
      (files ≠ [] → full.Summarizes (files.map outcome) ∧ fast.Summarizes recorded) := by
  have hmem : ∀ file, file ∈ found tree (.resolve tree.workingDirectory path) ↔
      IsFixture tree (.resolve tree.workingDirectory path) file :=
    fun file => mem_found_iff rfl (Path.dots_not_mem_resolve _ path)
  refine ⟨_, _, ascending_found _ _, hmem, upToFailure_recorded _, ?_⟩
  intro directory full fast
  by_cases hfound : found tree directory = []
  . obtain ⟨ending, hnonzero, hone, hruns⟩ := runAll_of_nothing_found check hfound
    obtain ⟨hfull, hending⟩ := hruns { options with failFast := false }
    obtain ⟨hfast, hending'⟩ := hruns { options with failFast := true }
    rw [hfound]
    refine ⟨hfull, hfast, hending'.trans hending.symm, ?_, ?_, by simp⟩
    . rw [hending]
      simp [hnonzero]
    . exact fun hshort => ⟨1, hending.trans (hone hshort)⟩
  . have hchecks : ∀ file ∈ found tree directory,
        ∃ events, check file = .ok (events, outcome file) :=
      fun file hfile => hcheck file ((hmem file).mp hfile)
    obtain ⟨hending, hfull⟩ := runAll_of_found { options with failFast := false } hfound hchecks
    obtain ⟨hending', hfast⟩ := runAll_of_found { options with failFast := true } hfound hchecks
    rw [Suite.status_recorded] at hending hending'
    rw [recorded_false] at hfull
    refine ⟨hfull.suite, hfast.suite, hending'.trans hending.symm, ?_, ?_, fun _ => ⟨hfull, hfast⟩⟩
    . rw [hending, Except.ok.injEq, Suite.status_eq_zero_iff, and_iff_right hfound]
      exact List.forall_mem_map
    . exact fun _ => ⟨_, hending⟩

/--
Fixtures of which the first passes, the second asks for another value, and the third asks for
nothing.
-/
def threeFixtures : FileTree where
  entries := [(["t1.dh"], some []), (["t1.expected.txt"], some (Text.Utf8.encode "3\n".toList)),
    (["t2.dh"], some []), (["t2.expected.txt"], some (Text.Utf8.encode "4\n".toList)),
    (["t3.dh"], some [])]

def checkThree : (file : String) → Except Abort (List Event × Result) :=
  check false threeFixtures ⟨1, []⟩ fun _ _ => .exited 0 "3\n" ""

def outcomeOfThree (file : String) : Result :=
  ((checkThree file).toOption.map Prod.snd).getD { name := file, passed := false }

theorem exists_events_checkThree {file : String} (h : (checkThree file).isOk = true) :
    ∃ events, checkThree file = .ok (events, outcomeOfThree file) := by
  unfold outcomeOfThree
  cases hcheck : checkThree file with
  | ok checked => exact ⟨checked.1, rfl⟩
  | error abort =>
    rw [hcheck] at h
    cases h

theorem isFixture_threeFixtures_iff {file : String} :
    IsFixture threeFixtures ⟨1, []⟩ file ↔ file = "t1.dh" ∨ file = "t2.dh" ∨ file = "t3.dh" := by
  have hdots : ".." ∉ (Path.mk 1 []).parts := List.not_mem_nil
  rw [isFixture_iff rfl hdots, FileTree.mem_names_iff_mem_entries, and_iff_right (by decide)]
  constructor
  . rintro ⟨hentry, hname⟩
    have hnames : file = "t1.dh" ∨ file = "t1.expected.txt" ∨ file = "t2.dh" ∨
        file = "t2.expected.txt" ∨ file = "t3.dh" := by
      simpa [threeFixtures] using hentry
    rcases hnames with rfl | rfl | rfl | rfl | rfl
    . exact .inl rfl
    . exact absurd hname (by decide)
    . exact .inr (.inl rfl)
    . exact absurd hname (by decide)
    . exact .inr (.inr rfl)
  . rintro (rfl | rfl | rfl) <;> decide

theorem failFast_keeps_verdict_second_fails :
    let directory := Path.resolve threeFixtures.workingDirectory {}
    let full := runAll {} threeFixtures directory checkThree
    let fast := runAll { failFast := true } threeFixtures directory checkThree
    (∀ file, IsFixture threeFixtures directory file →
      ∃ events, checkThree file = .ok (events, outcomeOfThree file)) ∧
      IsFixture threeFixtures directory "t2.dh" ∧ (outcomeOfThree "t2.dh").passed = false ∧
      ¬ threeFixtures.NameTooLong directory ∧
      ∃ status recorded, status ≠ 0 ∧ full.ending = .ok status ∧ fast.ending = .ok status ∧
        fast.Summarizes recorded := by
  intro directory full fast
  have hcheck : ∀ file, IsFixture threeFixtures directory file →
      ∃ events, checkThree file = .ok (events, outcomeOfThree file) := by
    intro file hfile
    apply exists_events_checkThree
    rcases isFixture_threeFixtures_iff.mp hfile with rfl | rfl | rfl <;> decide
  have hsecond : IsFixture threeFixtures directory "t2.dh" :=
    isFixture_threeFixtures_iff.mpr (.inr (.inl rfl))
  have hfails : (outcomeOfThree "t2.dh").passed = false := by decide
  have hshort : ¬ threeFixtures.NameTooLong directory := by
    rw [← FileTree.lookup_eq_nameTooLong_iff]
    decide
  obtain ⟨files, recorded, -, hfiles, -, -, -, hending, hzero, hstatus, hsummary⟩ :=
    failFast_keeps_verdict {} threeFixtures {} checkThree outcomeOfThree hcheck
  obtain ⟨status, hfull⟩ := hstatus hshort
  have hmem := (hfiles "t2.dh").mpr hsecond
  refine ⟨hcheck, hsecond, hfails, hshort, status, recorded, ?_, hfull, hending.trans hfull, ?_⟩
  . rintro rfl
    have hpassed := (hzero.mp hfull).2 "t2.dh" hmem
    rw [hfails] at hpassed
    cases hpassed
  . exact (hsummary (List.ne_nil_of_mem hmem)).2

end Fixture

end ParenCalc
