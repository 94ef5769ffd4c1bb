import ParenCalc.Proofs.Files.Walk
import ParenCalc.Proofs.Run.Consistency

namespace ParenCalc

namespace Outcome

theorem fails_notFound (path : String) : (notFound path).Fails none "Input file not found: " where
  success := rfl
  kept := rfl
  value := rfl
  message := ⟨path, rfl⟩

theorem fails_unreadable (reason : String) :
    (unreadable reason).Fails none "Cannot read input file: " where
  success := rfl
  kept := rfl
  value := rfl
  message := ⟨reason, rfl⟩

end Outcome

namespace Run

structure EndsOn (limit : Nat) (bytes : List UInt8) (outcome : Outcome) : Prop where
  ofBytes : outcome = (ofSource limit (.ofBytes bytes)).outcome
  ends : (∃ tree v, outcome.Succeeds tree v) ∨
    outcome.Fails none "Parse error: " ∨ outcome.Fails none "Read error: "

theorem endsOn (limit : Nat) (bytes : List UInt8) :
    EndsOn limit bytes (ofSource limit (.ofBytes bytes)).outcome where
  ofBytes := rfl
  ends := by
    rcases (reaches limit (.ofBytes bytes)).succeeds_or_fails with hsucceeds | hparse | ⟨-, hread⟩
    . exact .inl hsucceeds
    . exact .inr (.inl hparse)
    . exact .inr (.inr hread)

open FileTree

/--
Where the system answers at all, the run of a program in a file ends with an outcome. About a file
in a tree it answers unless a name is too long.
-/
theorem file_run_ends_unless_refused {ε : Type} (limit : Nat) (name : String) (answer : Answer ε)
    (tree : FileTree) (path : Path) :
    ((∃ error, answer = .refused error ∧ ofAnswer limit name answer = .error error) ∨
      ∃ run, ofAnswer limit name answer = .ok run ∧
        ((∃ bytes, answer = .readable bytes ∧ EndsOn limit bytes run.outcome) ∨
          (∃ reason, answer = .unreadable reason ∧
            run.outcome.Fails none "Cannot read input file: ") ∨
          answer = .absent ∧ run.outcome.Fails none "Input file not found: ")) ∧
    (tree.NameTooLong path ∧ ofFile limit tree path = .error (.nameTooLong (toString path)) ∨
      ¬ tree.NameTooLong path ∧ ∃ run, ofFile limit tree path = .ok run ∧
        ((∃ bytes, tree.LeadsTo path (.file bytes) ∧ EndsOn limit bytes run.outcome) ∨
          tree.LeadsTo path .directory ∧ run.outcome.Fails none "Cannot read input file: " ∨
          (∀ entry, ¬ tree.LeadsTo path entry) ∧
            run.outcome.Fails none "Input file not found: ")) := by
  constructor
  . cases answer with
    | refused error => exact .inl ⟨error, rfl, rfl⟩
    | absent => exact .inr ⟨_, rfl, .inr (.inr ⟨rfl, Outcome.fails_notFound name⟩)⟩
    | unreadable reason =>
      exact .inr ⟨_, rfl, .inr (.inl ⟨reason, rfl, Outcome.fails_unreadable reason⟩)⟩
    | readable bytes => exact .inr ⟨_, rfl, .inl ⟨bytes, rfl, endsOn limit bytes⟩⟩
  . rw [← lookup_eq_nameTooLong_iff]
    unfold ofFile ofLookup
    cases hlookup : tree.lookup path with
    | nameTooLong => exact .inl ⟨rfl, rfl⟩
    | missing =>
      refine .inr ⟨by simp, _, rfl, .inr (.inr ⟨?_, Outcome.fails_notFound _⟩)⟩
      exact not_leadsTo_of_missing hlookup
    | directory =>
      refine .inr ⟨by simp, _, rfl, .inr (.inl ⟨?_, Outcome.fails_unreadable _⟩)⟩
      exact lookup_eq_found_iff.mp hlookup
    | file bytes =>
      refine .inr ⟨by simp, _, rfl, .inl ⟨bytes, ?_, endsOn limit bytes⟩⟩
      exact lookup_eq_found_iff.mp hlookup

theorem ofFile_of_long_name (limit : Nat) {w : List Char} (hnull : '\x00' ∉ w) (hslash : '/' ∉ w)
    (hlong : maxNameLength < (Text.Utf8.encode w).length) :
    ofFile limit {} (.ofString (String.ofList w)) = .error (.nameTooLong (String.ofList w)) := by
  have hpath : Path.ofString (String.ofList w) = ⟨0, [String.ofList w]⟩ := by
    apply Path.ofString_name hslash
    all_goals
      rintro rfl
      exact absurd hlong (by decide)
  have hname : NameTooLong {} ⟨0, [String.ofList w]⟩ := by
    apply NameTooLong.of_name _ _ rfl
    . rwa [String.toList_ofList]
    . rwa [IsTooLong, Text.Utf8.size, String.toList_ofList]
  unfold ofFile ofLookup
  rw [hpath, lookup_eq_nameTooLong_iff.mpr hname, toString_singleton]
  rfl

theorem long_name_ends_without_outcome :
    ofFile 492 {} (.ofString (String.ofList (List.replicate 256 'a'))) =
      .error (.nameTooLong (String.ofList (List.replicate 256 'a'))) := by
  apply ofFile_of_long_name
  . rw [List.mem_replicate]
    decide
  . rw [List.mem_replicate]
    decide
  . decide +kernel

end Run

end ParenCalc
