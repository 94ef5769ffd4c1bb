import ParenCalc.Fixture
import ParenCalc.Proofs.Files.Names

namespace ParenCalc

namespace Fixture

theorem isFixtureName_iff {name : String} :
    isFixtureName name = true ↔ ∃ middle, name = "t" ++ middle ++ ".dh" := by
  unfold isFixtureName
  simp only [Bool.and_eq_true, List.isPrefixOf_iff_prefix, List.isSuffixOf_iff_suffix]
  constructor
  . rintro ⟨⟨rest, hstart⟩, hend⟩
    rw [← hstart, List.singleton_append, List.suffix_cons_iff] at hend
    rcases hend with hwhole | ⟨middle, hmiddle⟩
    . exact absurd (List.cons.inj hwhole).1 (by decide)
    . refine ⟨String.ofList middle, ?_⟩
      rw [← String.toList_inj, ← hstart, ← hmiddle]
      simp
  . rintro ⟨middle, rfl⟩
    exact ⟨⟨middle.toList ++ ['.', 'd', 'h'], by simp⟩, ⟨'t' :: middle.toList, by simp⟩⟩

structure IsFixture (tree : FileTree) (directory : Path) (file : String) : Prop where
  isDirectory : tree.LeadsTo directory .directory
  isEntry : ∃ entry,
    tree.entryAt? (FileTree.place (tree.origin directory) directory.parts ++ [file]) = some entry
  name : ∃ middle, file = "t" ++ middle ++ ".dh"

def found (tree : FileTree) (directory : Path) : List String :=
  match tree.lookup directory with
  | .directory => (tree.names directory.parts).filter isFixtureName
  | _ => []

variable {tree : FileTree} {directory : Path}

theorem discover_of_found (h : found tree directory ≠ []) :
    discover tree directory = .ok (.ok (found tree directory)) := by
  unfold found at h ⊢
  unfold discover
  cases hlookup : tree.lookup directory with
  | directory =>
    rw [hlookup] at h
    simp only at h ⊢
    rw [if_neg h]
  | _ => simp [hlookup] at h

theorem discover_of_nameTooLong (h : tree.NameTooLong directory) :
    discover tree directory = .error (.nameTooLong (toString directory)) := by
  unfold discover
  rw [FileTree.lookup_eq_nameTooLong_iff.mpr h]

theorem discover_of_nothing_found (h : found tree directory = [])
    (hshort : ¬ tree.NameTooLong directory) :
    ∃ absence, discover tree directory = .ok (.error absence) := by
  rw [← FileTree.lookup_eq_nameTooLong_iff] at hshort
  unfold found at h
  unfold discover
  cases hlookup : tree.lookup directory with
  | directory =>
    rw [hlookup] at h
    exact ⟨.noFixtures (toString directory), by simp only [if_pos h]⟩
  | file bytes => exact ⟨.noFixtures (toString directory), rfl⟩
  | missing => exact ⟨.noDirectory (toString directory), rfl⟩
  | nameTooLong => exact absurd hlookup hshort

theorem ascending_found (tree : FileTree) (directory : Path) :
    (found tree directory).Pairwise (· < ·) := by
  unfold found
  split
  . exact (FileTree.ascending_names tree directory.parts).filter _
  . exact .nil

theorem isFixture_iff {file : String} (habsolute : directory.isAbsolute = true)
    (hdots : ".." ∉ directory.parts) :
    IsFixture tree directory file ↔
      tree.lookup directory = .directory ∧ file ∈ tree.names directory.parts ∧
        isFixtureName file = true := by
  have hplace : FileTree.place (tree.origin directory) directory.parts = directory.parts := by
    rw [FileTree.place_of_no_dots hdots, FileTree.origin, if_pos habsolute, List.nil_append]
  have hlookup : tree.lookup directory = FileTree.Entry.directory.found ↔
      tree.LeadsTo directory .directory :=
    FileTree.lookup_eq_found_iff
  rw [FileTree.mem_names_iff, isFixtureName_iff]
  constructor
  . rintro ⟨hdirectory, hentry, hname⟩
    rw [hplace] at hentry
    exact ⟨hlookup.mpr hdirectory, hentry, hname⟩
  . rintro ⟨hdirectory, hentry, hname⟩
    exact ⟨hlookup.mp hdirectory, by rwa [hplace], hname⟩

theorem mem_found_iff {file : String} (habsolute : directory.isAbsolute = true)
    (hdots : ".." ∉ directory.parts) :
    file ∈ found tree directory ↔ IsFixture tree directory file := by
  rw [isFixture_iff habsolute hdots]
  unfold found
  cases tree.lookup directory with
  | directory => simp
  | _ => simp

end Fixture

end ParenCalc
