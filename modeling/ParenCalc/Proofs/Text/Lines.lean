import ParenCalc.Proofs.Source.Lines

namespace ParenCalc

namespace Source

variable {lines : List String}

theorem LinesOf.unique {text : List Char} {cut cut' : List (List Char)} (h : LinesOf text cut)
    (h' : LinesOf text cut') : cut = cut' := by
  have hlines := lines_eq (content_ofText text) h
  rw [lines_eq (content_ofText text) h'] at hlines
  exact (congrArg Lines.lines hlines).symm

theorem linesOf_join (h : ∀ line ∈ lines, '\n' ∉ line.toList) :
    LinesOf (String.join (lines.map (· ++ "\n"))).toList (lines.map String.toList) := by
  induction lines with
  | nil => exact .nil
  | cons line lines ih =>
    rw [List.forall_mem_cons] at h
    have htext : (String.join ((line :: lines).map (· ++ "\n"))).toList =
        line.toList ++ '\n' :: (String.join (lines.map (· ++ "\n"))).toList := by
      simp
    rw [htext, List.map_cons]
    exact .cons _ _ _ h.1 (ih h.2)

theorem linesOf_intercalate (h : ∀ line ∈ lines, '\n' ∉ line.toList)
    (hnonempty : ∀ line ∈ lines, line ≠ "") :
    LinesOf ("\n".intercalate lines).toList (lines.map String.toList) := by
  induction lines with
  | nil => exact .nil
  | cons line lines ih =>
    rw [List.forall_mem_cons] at h hnonempty
    cases lines with
    | nil =>
      rw [String.intercalate_singleton]
      exact .last _ (mt String.toList_eq_nil_iff.mp hnonempty.1) h.1
    | cons next lines =>
      have htext : ("\n".intercalate (line :: next :: lines)).toList =
          line.toList ++ '\n' :: ("\n".intercalate (next :: lines)).toList := by
        rw [String.intercalate_cons_cons]
        simp
      rw [htext, List.map_cons]
      exact .cons _ _ _ h.1 (ih h.2 hnonempty.2)

end Source

end ParenCalc
