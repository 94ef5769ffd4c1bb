import ParenCalc.Proofs.Source.Content
import ParenCalc.Source.Lines

namespace ParenCalc

namespace Source

/--
`LinesOf text lines` states that a text is made of the lines, each with a line end behind it, except
that the last one may have none unless it is empty.
-/
inductive LinesOf : (text : List Char) → (lines : List (List Char)) → Prop
  | nil : LinesOf [] []
  | last (line : List Char) (hline : line ≠ []) (hend : '\n' ∉ line) : LinesOf line [line]
  | cons (line rest : List Char) (lines : List (List Char)) (hend : '\n' ∉ line)
      (hrest : LinesOf rest lines) :
      LinesOf (line ++ '\n' :: rest) (line :: lines)

theorem isInLine_of_not_mem {line : List Char} (h : '\n' ∉ line) :
    ∀ c ∈ line, isInLine c = true := by
  intro c hc
  unfold isInLine
  rw [bne_iff_ne]
  rintro rfl
  exact h hc

theorem exists_linesOf (text : List Char) : ∃ lines, LinesOf text lines := by
  induction text with
  | nil => exact ⟨[], .nil⟩
  | cons c text ih =>
    obtain ⟨lines, hlines⟩ := ih
    by_cases hc : c = '\n'
    . rw [hc]
      exact ⟨[] :: lines, .cons [] text lines List.not_mem_nil hlines⟩
    . have hend {line : List Char} (h : '\n' ∉ line) : '\n' ∉ c :: line := by
        rw [List.mem_cons, not_or]
        exact ⟨Ne.symm hc, h⟩
      cases hlines with
      | nil => exact ⟨[[c]], .last [c] (List.cons_ne_nil c []) (hend List.not_mem_nil)⟩
      | last line hline hline' =>
        exact ⟨[c :: text], .last (c :: text) (List.cons_ne_nil c text) (hend hline')⟩
      | cons line rest lines hline hrest =>
        exact ⟨(c :: line) :: lines, .cons (c :: line) rest lines (hend hline) hrest⟩

theorem find_of_content {source : Source} {text : List Char} (h : source.content = ⟨text, none⟩)
    (skip : Char → Bool) :
    ∃ source', source.find skip = (.ok (scan skip text).1, source') ∧
      source'.content = ⟨(scan skip text).2, none⟩ := by
  obtain ⟨hpassage, hcontent⟩ := find_eq skip source
  have hfind : source.content.find skip = .ok (scan skip text).1 := by
    rw [h]
    unfold Content.find
    split <;> simp_all
  rw [hfind] at hpassage
  replace hcontent := hcontent _ hfind
  rw [h] at hcontent
  exact ⟨_, Prod.ext hpassage rfl, hcontent⟩

section Go

variable {source source' : Source} {line : List Char}

theorem lines.go_of_found {c : Char} (h : source.find isInLine = (.ok ⟨line, some c⟩, source'))
    (read : List (List Char)) : lines.go source read = lines.go source' (line :: read) := by
  rw [lines.go]
  split
  . next hfind => cases hfind.symm.trans h
  . next hfind =>
    cases hfind.symm.trans h
    rfl
  . next hfind => cases hfind.symm.trans h

theorem lines.go_of_end (h : source.find isInLine = (.ok ⟨line, none⟩, source'))
    (read : List (List Char)) :
    lines.go source read = ⟨(if line = [] then read else line :: read).reverse, none⟩ := by
  rw [lines.go]
  split
  . next hfind => cases hfind.symm.trans h
  . next hfind => cases hfind.symm.trans h
  . next hfind =>
    cases hfind.symm.trans h
    rfl

theorem lines.go_of_linesOf {text : List Char} {cut : List (List Char)} (hlines : LinesOf text cut)
    (h : source.content = ⟨text, none⟩) (read : List (List Char)) :
    lines.go source read = ⟨read.reverse ++ cut, none⟩ := by
  induction hlines generalizing source read with
  | nil =>
    obtain ⟨source', hfind, -⟩ := find_of_content h isInLine
    rw [lines.go_of_end hfind, if_pos rfl, List.append_nil]
  | last line hline hend =>
    obtain ⟨source', hfind, -⟩ := find_of_content h isInLine
    rw [scan_all isInLine line (isInLine_of_not_mem hend)] at hfind
    rw [lines.go_of_end hfind, if_neg hline, List.reverse_cons]
  | cons line rest cut hend hrest ih =>
    obtain ⟨source', hfind, hcontent⟩ := find_of_content h isInLine
    have hscan : scan isInLine (line ++ '\n' :: rest) = (⟨line, some '\n'⟩, rest) := by
      rw [scan_append_of_all (isInLine_of_not_mem hend), scan_cons, if_neg (by decide)]
      simp [Passage.prepend]
    rw [hscan] at hfind hcontent
    rw [lines.go_of_found hfind, ih hcontent, List.reverse_cons, List.append_assoc,
      List.singleton_append]

end Go

theorem lines_eq {source : Source} {text : List Char} {cut : List (List Char)}
    (h : source.content = ⟨text, none⟩) (hlines : LinesOf text cut) : source.lines = ⟨cut, none⟩ :=
  lines.go_of_linesOf hlines h []

theorem linesOf_lines {source : Source} {text : List Char} (h : source.content = ⟨text, none⟩) :
    LinesOf text source.lines.lines ∧ source.lines.fault = none := by
  obtain ⟨lines, hlines⟩ := exists_linesOf text
  rw [lines_eq h hlines]
  exact ⟨hlines, rfl⟩

end Source

end ParenCalc
