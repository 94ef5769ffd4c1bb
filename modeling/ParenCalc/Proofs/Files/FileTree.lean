import ParenCalc.Files.FileTree

namespace ParenCalc

namespace FileTree

theorem toString_singleton (name : String) : toString (Path.mk 0 [name]) = name := by
  change Path.toString _ = name
  simp [Path.toString]

theorem walk_singleton {name : String} (bytes : List UInt8) (hdots : name ≠ "..")
    (hlength : Text.Utf8.size name ≤ maxNameLength) :
    walk { entries := [([name], some bytes)] } [] [name] = .file bytes := by
  have hroot : entryAt? { entries := [([name], some bytes)] } [] = some .directory := by
    simp [entryAt?]
  have hfile : entryAt? { entries := [([name], some bytes)] } [name] = some (.file bytes) := by
    simp [entryAt?]
  have hlength : ¬ Text.Utf8.size name > maxNameLength := by omega
  rw [walk, hroot]
  simp [hdots, hlength, walk, hfile]

theorem lookup_singleton {name : String} (bytes : List UInt8)
    (hpath : Path.ofString name = ⟨0, [name]⟩) (hdots : name ≠ "..")
    (hlength : Text.Utf8.size name ≤ maxNameLength) (hnull : name.toList.contains '\x00' = false) :
    lookup { entries := [([name], some bytes)] } (.ofString name) = .file bytes := by
  have hpathLength : ¬ Text.Utf8.size name > maxPathLength := by
    unfold maxNameLength at hlength
    unfold maxPathLength
    omega
  unfold lookup
  rw [hpath, toString_singleton]
  simp only [hnull, hpathLength, Path.isAbsolute, bne_self_eq_false, Bool.false_eq_true, if_false]
  exact walk_singleton bytes hdots hlength

end FileTree

end ParenCalc
