import ParenCalc.Proofs.Files.FileTree

/-!
This module contains what a path leads to: to an entry where every place on the way is a directory
and no name is too long, to a name that is too long where the places in front of it are directories,
and to nothing otherwise.
-/

namespace ParenCalc

namespace Path

theorem pieces_of_no_slash {w : List Char} (h : '/' ∉ w) : pieces w = [w] := by
  induction w with
  | nil => rfl
  | cons c w ih =>
    rw [List.mem_cons, not_or] at h
    rw [pieces, if_neg (Ne.symm h.1), ih h.2]

theorem ofString_name {w : List Char} (hslash : '/' ∉ w) (hempty : w ≠ []) (hdot : w ≠ ['.']) :
    Path.ofString (String.ofList w) = ⟨0, [String.ofList w]⟩ := by
  have hslashes : w.takeWhile (· == '/') = [] := by
    cases w with
    | nil => rfl
    | cons c w => simp_all [Ne.symm]
  have hnotEmpty : String.ofList w ≠ "" := by
    rw [← String.ofList_nil]
    exact fun h => hempty (String.ofList_injective h)
  have hnotDot : String.ofList w ≠ "." := fun h => hdot (String.ofList_injective h)
  unfold Path.ofString
  simp only [String.toList_ofList, hslashes, pieces_of_no_slash hslash]
  simp [hnotEmpty, hnotDot]

end Path

namespace FileTree

variable {tree : FileTree} {start parts : List String} {part : String} {entry : Entry}

def step (names : List String) (part : String) : List String :=
  if part = ".." then names.dropLast else names ++ [part]

def place (start parts : List String) : List String :=
  parts.foldl step start

abbrev IsTooLong (part : String) : Prop :=
  maxNameLength < Text.Utf8.size part

def Passable (tree : FileTree) (start parts : List String) : Prop :=
  ∀ before part after, parts = before ++ part :: after →
    tree.entryAt? (place start before) = some .directory ∧ ¬ IsTooLong part

def Overlong (tree : FileTree) (start parts : List String) : Prop :=
  ∃ before part after, parts = before ++ part :: after ∧ Passable tree start before ∧
    tree.entryAt? (place start before) = some .directory ∧ IsTooLong part

def Leads (tree : FileTree) (start parts : List String) (entry : Entry) : Prop :=
  Passable tree start parts ∧ tree.entryAt? (place start parts) = some entry

theorem passable_nil : Passable tree start [] := by
  intro before part after h
  cases before <;> cases h

theorem passable_cons_iff :
    Passable tree start (part :: parts) ↔
      (tree.entryAt? start = some .directory ∧ ¬ IsTooLong part) ∧
      Passable tree (step start part) parts := by
  constructor
  . intro h
    refine ⟨h [] part parts rfl, ?_⟩
    rintro before part' after rfl
    exact h (part :: before) part' after rfl
  . rintro ⟨hfirst, hrest⟩ before part' after h
    cases before with
    | nil =>
      cases h
      exact hfirst
    | cons first before =>
      cases h
      exact hrest before part' after rfl

theorem not_overlong_nil : ¬ Overlong tree start [] := by
  rintro ⟨before, part, after, h, -⟩
  cases before <;> cases h

theorem overlong_cons_iff :
    Overlong tree start (part :: parts) ↔
      tree.entryAt? start = some .directory ∧
        (IsTooLong part ∨ Overlong tree (step start part) parts) := by
  constructor
  . rintro ⟨before, part', after, h, hpassable, hplace, hlong⟩
    cases before with
    | nil =>
      cases h
      exact ⟨hplace, .inl hlong⟩
    | cons first before =>
      cases h
      obtain ⟨⟨hstart, -⟩, hrest⟩ := passable_cons_iff.mp hpassable
      exact ⟨hstart, .inr ⟨before, part', after, rfl, hrest, hplace, hlong⟩⟩
  . rintro ⟨hstart, hlong | hrest⟩
    . exact ⟨[], part, parts, rfl, passable_nil, hstart, hlong⟩
    . by_cases hlong : IsTooLong part
      . exact ⟨[], part, parts, rfl, passable_nil, hstart, hlong⟩
      . obtain ⟨before, part', after, rfl, hpassable, hplace, hlong'⟩ := hrest
        exact ⟨part :: before, part', after, rfl,
          passable_cons_iff.mpr ⟨⟨hstart, hlong⟩, hpassable⟩, hplace, hlong'⟩

theorem leads_cons_iff :
    Leads tree start (part :: parts) entry ↔
      (tree.entryAt? start = some .directory ∧ ¬ IsTooLong part) ∧
      Leads tree (step start part) parts entry := by
  unfold Leads
  rw [passable_cons_iff, and_assoc]
  rfl

theorem walk_cons (tree : FileTree) (start parts : List String) (part : String) :
    tree.walk start (part :: parts) =
      if tree.entryAt? start ≠ some .directory then .missing
      else if IsTooLong part then .nameTooLong
      else tree.walk (step start part) parts := by
  have hdots : ¬ IsTooLong ".." := by decide
  rw [walk]
  unfold step
  by_cases h : part = ".."
  . subst h
    simp only [if_true, if_neg hdots]
  . simp only [if_neg h, gt_iff_lt]

def Entry.found : Entry → Lookup
  | .file bytes => .file bytes
  | .directory => .directory

theorem Entry.found_inj {entry entry' : Entry} : entry.found = entry'.found ↔ entry = entry' := by
  cases entry <;> cases entry' <;> simp [found]

@[simp]
theorem Entry.missing_ne_found (entry : Entry) : .missing ≠ entry.found := by
  cases entry <;> simp [found]

@[simp]
theorem Entry.nameTooLong_ne_found (entry : Entry) : .nameTooLong ≠ entry.found := by
  cases entry <;> simp [found]

theorem walk_eq_found_iff : tree.walk start parts = entry.found ↔ Leads tree start parts entry := by
  induction parts generalizing start with
  | nil =>
    have hwalk : tree.walk start [] = ((tree.entryAt? start).map Entry.found).getD .missing := by
      unfold walk
      rcases tree.entryAt? start with _ | _ | _ <;> rfl
    rw [hwalk, Leads, and_iff_right passable_nil, place, List.foldl_nil]
    cases tree.entryAt? start with
    | none => simp
    | some entry' => simp [Entry.found_inj]
  | cons part parts ih =>
    rw [walk_cons, leads_cons_iff, ← ih]
    by_cases hstart : tree.entryAt? start = some .directory <;> by_cases hlong : IsTooLong part
    all_goals simp [hstart, hlong]

theorem walk_eq_nameTooLong_iff :
    tree.walk start parts = .nameTooLong ↔ Overlong tree start parts := by
  induction parts generalizing start with
  | nil =>
    rw [iff_false_right not_overlong_nil]
    unfold walk
    split <;> simp
  | cons part parts ih =>
    rw [walk_cons, overlong_cons_iff, ← ih]
    by_cases hstart : tree.entryAt? start = some .directory <;> by_cases hlong : IsTooLong part
    all_goals simp [hstart, hlong]

def origin (tree : FileTree) (path : Path) : List String :=
  if path.isAbsolute then [] else tree.workingDirectory

structure LeadsTo (tree : FileTree) (path : Path) (entry : Entry) : Prop where
  noNull : '\x00' ∉ (toString path).toList
  length : Text.Utf8.size (toString path) ≤ maxPathLength
  leads : Leads tree (tree.origin path) path.parts entry

structure NameTooLong (tree : FileTree) (path : Path) : Prop where
  noNull : '\x00' ∉ (toString path).toList
  long : maxPathLength < Text.Utf8.size (toString path) ∨
    Overlong tree (tree.origin path) path.parts

variable {path : Path}

theorem lookup_eq (tree : FileTree) (path : Path) :
    tree.lookup path =
      if '\x00' ∈ (toString path).toList then .missing
      else if maxPathLength < Text.Utf8.size (toString path) then .nameTooLong
      else tree.walk (tree.origin path) path.parts := by
  unfold lookup
  simp only [List.contains_iff_mem]
  rfl

theorem lookup_eq_found_iff : tree.lookup path = entry.found ↔ LeadsTo tree path entry := by
  rw [lookup_eq]
  split
  . next hnull =>
    constructor
    . exact fun h => absurd h entry.missing_ne_found
    . exact fun h => absurd hnull h.noNull
  . next hnull =>
    split
    . next hlong =>
      constructor
      . exact fun h => absurd h entry.nameTooLong_ne_found
      . exact fun h => absurd hlong (Nat.not_lt_of_le h.length)
    . next hshort =>
      rw [walk_eq_found_iff]
      exact ⟨fun h => ⟨hnull, Nat.le_of_not_lt hshort, h⟩, fun h => h.leads⟩

theorem lookup_eq_nameTooLong_iff : tree.lookup path = .nameTooLong ↔ NameTooLong tree path := by
  rw [lookup_eq]
  split
  . next hnull =>
    constructor
    . simp
    . exact fun h => absurd hnull h.noNull
  . next hnull =>
    split
    . next hlong => exact ⟨fun _ => ⟨hnull, .inl hlong⟩, fun _ => rfl⟩
    . next hshort =>
      rw [walk_eq_nameTooLong_iff]
      exact ⟨fun h => ⟨hnull, .inr h⟩, fun h => h.long.resolve_left hshort⟩

theorem NameTooLong.of_name {name : String} (hnull : '\x00' ∉ name.toList) (hlong : IsTooLong name)
    (hdirectory : tree.entryAt? tree.workingDirectory = some .directory) :
    NameTooLong tree ⟨0, [name]⟩ where
  noNull := by rwa [toString_singleton]
  long := .inr ⟨[], name, [], rfl, passable_nil, hdirectory, hlong⟩

theorem not_leadsTo_of_missing (h : tree.lookup path = .missing) (entry : Entry) :
    ¬ LeadsTo tree path entry := by
  rw [← lookup_eq_found_iff, h]
  exact entry.missing_ne_found

end FileTree

end ParenCalc
