import ParenCalc.Text.Blank

namespace ParenCalc.Text

theorem trimLeft_split (text : List Char) :
    ∃ blanks, (∀ c ∈ blanks, isBlank c = true) ∧ text = blanks ++ trimLeft text := by
  refine ⟨text.takeWhile isBlank, List.all_eq_true.mp List.all_takeWhile, ?_⟩
  unfold trimLeft
  rw [List.takeWhile_append_dropWhile]

theorem trimRight_split (text : List Char) :
    ∃ blanks, (∀ c ∈ blanks, isBlank c = true) ∧ text = trimRight text ++ blanks := by
  obtain ⟨blanks, hblanks, htext⟩ := trimLeft_split text.reverse
  refine ⟨blanks.reverse, ?_, ?_⟩
  . intro c hc
    apply hblanks
    exact List.mem_reverse.mp hc
  . rw [trimRight, ← trimLeft, ← List.reverse_append, ← htext, List.reverse_reverse]

theorem trim_split (text : List Char) :
    ∃ before after, (∀ c ∈ before, isBlank c = true) ∧ (∀ c ∈ after, isBlank c = true) ∧
      text = before ++ trim text ++ after := by
  obtain ⟨before, hbefore, hleft⟩ := trimLeft_split text
  obtain ⟨after, hafter, hright⟩ := trimRight_split (trimLeft text)
  refine ⟨before, after, hbefore, hafter, ?_⟩
  rw [trim, List.append_assoc, ← hright]
  exact hleft

theorem isBlank_of_mem_head?_trim {text : List Char} {c : Char} (h : c ∈ (trim text).head?) :
    isBlank c = false := by
  obtain ⟨after, -, hright⟩ := trimRight_split (trimLeft text)
  have hnot := List.head?_dropWhile_not isBlank text
  rw [← trimLeft, hright, ← trim, List.head?_append, Option.mem_def.mp h] at hnot
  exact hnot

theorem isBlank_of_mem_getLast?_trimRight {text : List Char} {c : Char}
    (h : c ∈ (trimRight text).getLast?) :
    isBlank c = false := by
  have hnot := List.head?_dropWhile_not isBlank text.reverse
  rw [trimRight, List.getLast?_reverse] at h
  rw [Option.mem_def.mp h] at hnot
  exact hnot

theorem trimRight_of_ink {text : List Char} (h : ∀ c ∈ text.getLast?, isBlank c = false) :
    trimRight text = text := by
  rcases List.eq_nil_or_concat text with rfl | ⟨before, c, rfl⟩
  . rfl
  . rw [List.concat_eq_append] at h ⊢
    exact trimRight_append_ink before c (h c (by simp))

theorem trimRight_append_blanks (text : List Char) {blanks : List Char}
    (h : ∀ c ∈ blanks, isBlank c = true) :
    trimRight (text ++ blanks) = trimRight text := by
  unfold trimRight
  rw [List.reverse_append, List.dropWhile_append_of_pos]
  intro c hc
  exact h c (List.mem_reverse.mp hc)

theorem trimRight_eq_nil_iff {text : List Char} :
    trimRight text = [] ↔ ∀ c ∈ text, isBlank c = true := by
  constructor
  . intro h c hc
    obtain ⟨blanks, hblanks, htext⟩ := trimRight_split text
    rw [h, List.nil_append] at htext
    exact hblanks c (htext ▸ hc)
  . intro h
    exact trimRight_append_blanks [] h

theorem trimRight_append {text rest : List Char}
    (h : ∀ c ∈ (text ++ trimRight rest).getLast?, isBlank c = false) :
    trimRight (text ++ rest) = text ++ trimRight rest := by
  obtain ⟨blanks, hblanks, hrest⟩ := trimRight_split rest
  calc
    trimRight (text ++ rest) = trimRight (text ++ trimRight rest ++ blanks) := by
      rw [List.append_assoc, ← hrest]
    _ = trimRight (text ++ trimRight rest) := trimRight_append_blanks _ hblanks
    _ = text ++ trimRight rest := trimRight_of_ink h

end ParenCalc.Text
