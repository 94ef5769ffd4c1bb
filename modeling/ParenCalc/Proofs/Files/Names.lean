import ParenCalc.Proofs.Files.Walk

namespace ParenCalc

namespace Path

theorem dots_not_mem_foldl_step {kept : List String} (h : ".." ∉ kept) (parts : List String) :
    ".." ∉ parts.foldl collapse.step kept := by
  induction parts generalizing kept with
  | nil => exact h
  | cons part parts ih =>
    apply ih
    unfold collapse.step
    split
    . exact fun hmem => h (List.mem_of_mem_tail hmem)
    . next hpart =>
      rw [List.mem_cons, not_or]
      exact ⟨Ne.symm hpart, h⟩

theorem dots_not_mem_resolve (directory : List String) (path : Path) :
    ".." ∉ (resolve directory path).parts := by
  unfold resolve collapse
  rw [List.mem_reverse]
  exact dots_not_mem_foldl_step List.not_mem_nil _

end Path

namespace FileTree

theorem nodup_eraseDups {α : Type} [BEq α] [LawfulBEq α] (entries : List α) :
    entries.eraseDups.Nodup := by
  cases entries with
  | nil => exact .nil
  | cons entry entries =>
    rw [List.eraseDups_cons, List.nodup_cons]
    refine ⟨?_, nodup_eraseDups _⟩
    simp
termination_by entries.length
decreasing_by
  rw [List.length_cons, Nat.lt_succ_iff]
  exact List.length_filter_le _ _

variable {tree : FileTree} {directory names : List String} {name : String}

theorem ascending_names (tree : FileTree) (directory : List String) :
    (tree.names directory).Pairwise (· < ·) := by
  unfold FileTree.names
  simp only
  generalize tree.entries.filterMap _ = entries
  let le : String → String → Bool := fun a b => decide (a ≤ b)
  have htrans : ∀ a b c, le a b = true → le b c = true → le a c = true := by
    intro a b c
    simpa [le] using String.le_trans
  have htotal : ∀ a b, (le a b || le b a) = true := by
    intro a b
    simpa [le] using String.le_total a b
  have hsorted := List.pairwise_mergeSort htrans htotal entries.eraseDups
  have hnodup := (List.mergeSort_perm entries.eraseDups le).nodup_iff.mpr (nodup_eraseDups entries)
  refine hsorted.imp₂ ?_ hnodup
  intro a b hle hne
  rw [← String.not_le]
  intro hge
  exact hne (String.le_antisymm (of_decide_eq_true hle) hge)

theorem head?_drop_eq_some_iff :
    (directory <+: names ∧ (names.drop directory.length).head? = some name) ↔
      directory ++ [name] <+: names := by
  constructor
  . rintro ⟨⟨rest, rfl⟩, hhead⟩
    rw [List.drop_left, List.head?_eq_some_iff] at hhead
    obtain ⟨behind, rfl⟩ := hhead
    exact ⟨behind, by rw [List.append_assoc, List.singleton_append]⟩
  . rintro ⟨behind, rfl⟩
    rw [List.append_assoc]
    exact ⟨List.prefix_append _ _, by rw [List.drop_left]; rfl⟩

theorem mem_names_iff_mem_entries :
    name ∈ tree.names directory ↔ ∃ entry ∈ tree.entries, directory ++ [name] <+: entry.1 := by
  unfold FileTree.names
  simp only [List.mem_mergeSort, List.mem_eraseDups, List.mem_filterMap]
  apply exists_congr
  intro entry
  apply and_congr_right
  intro hentry
  rw [← head?_drop_eq_some_iff, ← List.isPrefixOf_iff_prefix]
  split
  . next h => rw [and_iff_right h]
  . next h => simp [h]

theorem entryAt?_eq_none_iff (hnames : names ≠ []) :
    tree.entryAt? names = none ↔ ∀ entry ∈ tree.entries, ¬ names <+: entry.1 := by
  unfold entryAt?
  cases hfind : tree.entries.find? fun entry => entry.1 == names with
  | some found =>
    have hfound : found.1 = names := by simpa using List.find?_some hfind
    constructor
    . intro h
      rcases found with ⟨_, _ | _⟩ <;> cases h
    . intro h
      exact absurd (hfound ▸ List.prefix_refl _) (h found (List.mem_of_find?_eq_some hfind))
  | none => simp [hnames]

theorem mem_names_iff :
    name ∈ tree.names directory ↔ ∃ entry, tree.entryAt? (directory ++ [name]) = some entry := by
  rw [mem_names_iff_mem_entries, ← Option.ne_none_iff_exists', ne_eq,
    entryAt?_eq_none_iff (by simp)]
  simp

theorem place_of_no_dots {parts : List String} (h : ".." ∉ parts) (start : List String) :
    place start parts = start ++ parts := by
  unfold place
  induction parts generalizing start with
  | nil => rw [List.foldl_nil, List.append_nil]
  | cons part parts ih =>
    rw [List.mem_cons, not_or] at h
    rw [List.foldl_cons, step, if_neg (Ne.symm h.1), ih h.2, List.append_assoc,
      List.singleton_append]

end FileTree

end ParenCalc
