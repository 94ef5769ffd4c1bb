import ParenCalc.Proofs.Text.Blank
import ParenCalc.Proofs.Text.Newline

namespace ParenCalc.Text

def returnFeed : List Char := ['\r', '\n']

/--
The cases are those of the pass that joins line ends: a return with its line feed is taken at once.
-/
@[elab_as_elim]
theorem joinLineEnds_induction {motive : List Char → Prop} (nil : motive [])
    (pair : ∀ rest, motive rest → motive ('\r' :: '\n' :: rest))
    (cons : ∀ c rest, (c = '\r' → rest.head? ≠ some '\n') → motive rest → motive (c :: rest))
    (text : List Char) :
    motive text := by
  refine joinLineEnds.go.induct (fun text _ => motive text) ?_ ?_ (fun _ => nil) text []
  . intro rest _ ih
    exact pair rest ih
  . intro c rest _ hpair ih
    refine cons c rest ?_ ih
    intro hc hhead
    obtain ⟨rest', rfl⟩ := List.head?_eq_some_iff.mp hhead
    exact hpair rest' hc rfl

theorem returnFeed_infix_cons_iff {c : Char} {text : List Char} :
    returnFeed <:+: c :: text ↔ c = '\r' ∧ text.head? = some '\n' ∨ returnFeed <:+: text := by
  unfold returnFeed
  rw [List.infix_cons_iff, List.cons_prefix_cons, @eq_comm _ '\r']
  cases text with
  | nil => simp
  | cons next text => simp [@eq_comm _ '\n']

theorem return_returnFeed_infix_cons_iff {c : Char} {text : List Char} :
    '\r' :: returnFeed <:+: c :: text ↔
      c = '\r' ∧ returnFeed <+: text ∨ '\r' :: returnFeed <:+: text := by
  rw [List.infix_cons_iff, List.cons_prefix_cons, eq_comm]

theorem head?_joinLineEnds {text : List Char} :
    (joinLineEnds text).head? = some '\n' ↔ text.head? = some '\n' ∨ returnFeed <+: text := by
  unfold returnFeed
  induction text using joinLineEnds_induction with
  | nil => simp [joinLineEnds, joinLineEnds.go]
  | pair rest => simp [joinLineEnds_pair]
  | cons c rest hpair =>
    rw [joinLineEnds_cons hpair]
    cases rest with
    | nil => simp
    | cons next rest => simp_all [eq_comm]

theorem getLast?_joinLineEnds (text : List Char) :
    (joinLineEnds text).getLast? = text.getLast? := by
  induction text using joinLineEnds_induction with
  | nil => rfl
  | pair rest ih => simp [joinLineEnds_pair, List.getLast?_cons, ih]
  | cons c rest hpair ih => rw [joinLineEnds_cons hpair, List.getLast?_cons, List.getLast?_cons, ih]

theorem mem_of_mem_joinLineEnds {text : List Char} {c : Char} (h : c ∈ joinLineEnds text) :
    c ∈ text := by
  induction text using joinLineEnds_induction with
  | nil => exact h
  | pair rest ih =>
    rw [joinLineEnds_pair, List.mem_cons] at h
    apply List.mem_cons_of_mem
    rcases h with rfl | hrest
    . exact List.mem_cons_self
    . exact List.mem_cons_of_mem _ (ih hrest)
  | cons first rest hpair ih =>
    rw [joinLineEnds_cons hpair, List.mem_cons] at h
    rw [List.mem_cons]
    exact h.imp_right ih

theorem joinLineEnds_append {text rest : List Char}
    (h : text.getLast? = some '\r' → rest.head? ≠ some '\n') :
    joinLineEnds (text ++ rest) = joinLineEnds text ++ joinLineEnds rest := by
  induction text using joinLineEnds_induction with
  | nil => rfl
  | pair text ih =>
    rw [joinLineEnds_pair, List.cons_append, List.cons_append, joinLineEnds_pair, ih,
      List.cons_append]
    intro hlast
    exact h (by simp [List.getLast?_cons, hlast])
  | cons c text hpair ih =>
    have hpair' : c = '\r' → (text ++ rest).head? ≠ some '\n' := by
      intro hc
      cases text with
      | nil => exact h (by rw [hc]; rfl)
      | cons next text => exact hpair hc
    rw [joinLineEnds_cons hpair, List.cons_append, joinLineEnds_cons hpair', ih, List.cons_append]
    intro hlast
    exact h (by simp [List.getLast?_cons, hlast])

/--
The pass keeps a return only where no line feed was behind it, and what it makes a line feed in its
place had a return of its own.
-/
theorem returnFeed_infix_joinLineEnds_iff {text : List Char} :
    returnFeed <:+: joinLineEnds text ↔ '\r' :: returnFeed <:+: text := by
  induction text using joinLineEnds_induction with
  | nil => simp [joinLineEnds, joinLineEnds.go, returnFeed]
  | pair rest ih =>
    rw [joinLineEnds_pair, returnFeed_infix_cons_iff, ih, return_returnFeed_infix_cons_iff,
      return_returnFeed_infix_cons_iff]
    simp [returnFeed]
  | cons c rest hpair ih =>
    rw [joinLineEnds_cons hpair, returnFeed_infix_cons_iff, ih, return_returnFeed_infix_cons_iff,
      head?_joinLineEnds]
    apply or_congr_left
    apply and_congr_right
    intro hc
    exact or_iff_right (hpair hc)

theorem joinLineEnds_eq_self_iff {text : List Char} :
    joinLineEnds text = text ↔ ¬ returnFeed <:+: text := by
  induction text using joinLineEnds_induction with
  | nil => simp [joinLineEnds, joinLineEnds.go, returnFeed]
  | pair rest =>
    rw [joinLineEnds_pair, returnFeed_infix_cons_iff]
    simp
  | cons c rest hpair ih =>
    have hstart : ¬ (c = '\r' ∧ rest.head? = some '\n') := fun h => hpair h.1 h.2
    rw [joinLineEnds_cons hpair, returnFeed_infix_cons_iff, or_iff_right hstart, ← ih,
      List.cons_inj_right]

theorem normalizeOutput_eq (text : List Char) :
    normalizeOutput text = joinLineEnds (trimRight text) := by
  obtain ⟨blanks, hblanks, htext⟩ := trimRight_split text
  have hlast : ∀ c ∈ (trimRight text).getLast?, isBlank c = false :=
    fun c => isBlank_of_mem_getLast?_trimRight
  have happend : joinLineEnds text = joinLineEnds (trimRight text) ++ joinLineEnds blanks := by
    refine (congrArg joinLineEnds htext).trans (joinLineEnds_append ?_)
    intro hreturn
    exact absurd (hlast '\r' hreturn) (by decide)
  have hjoined : ∀ c ∈ joinLineEnds blanks, isBlank c = true :=
    fun c hc => hblanks c (mem_of_mem_joinLineEnds hc)
  rw [normalizeOutput, happend, trimRight_append_blanks _ hjoined]
  apply trimRight_of_ink
  rw [getLast?_joinLineEnds]
  exact hlast

theorem isBlank_of_mem_getLast?_normalizeOutput {text : List Char} {c : Char}
    (h : c ∈ (normalizeOutput text).getLast?) : isBlank c = false :=
  isBlank_of_mem_getLast?_trimRight h

theorem infix_trimRight_iff {part text : List Char}
    (hpart : ∃ c ∈ part.getLast?, isBlank c = true) :
    part <:+: trimRight text ↔
      ∃ before after, text = before ++ part ++ after ∧ ∃ c ∈ after, isBlank c = false := by
  obtain ⟨last, hlast, hblank⟩ := hpart
  constructor
  . rintro ⟨before, after, h⟩
    obtain ⟨blanks, -, htext⟩ := trimRight_split text
    refine ⟨before, after ++ blanks, by rw [← List.append_assoc, h, ← htext], ?_⟩
    have hend : ∀ c ∈ (before ++ part ++ after).getLast?, isBlank c = false := by
      rw [h]
      exact fun c => isBlank_of_mem_getLast?_trimRight
    cases hafter : after.getLast? with
    | none =>
      have hmem : last ∈ (before ++ part ++ after).getLast? := by
        simp [hafter, Option.mem_def.mp hlast]
      rw [hend last hmem] at hblank
      cases hblank
    | some c =>
      refine ⟨c, List.mem_append_left _ (List.mem_of_getLast? hafter), ?_⟩
      exact hend c (by simp [hafter])
  . rintro ⟨before, after, rfl, c, hc, hink⟩
    have hafter : trimRight after ≠ [] := by
      intro hnil
      rw [trimRight_eq_nil_iff.mp hnil c hc] at hink
      cases hink
    rw [trimRight_append]
    . exact ⟨before, trimRight after, rfl⟩
    . intro last' hlast'
      apply @isBlank_of_mem_getLast?_trimRight after
      simpa [List.getLast?_append, hafter] using hlast'

theorem infix_trimRight_iff_of_ink {part text : List Char}
    (hpart : ∃ c ∈ part.getLast?, isBlank c = false) :
    part <:+: trimRight text ↔ part <:+: text := by
  obtain ⟨last, hlast, hink⟩ := hpart
  constructor
  . intro h
    obtain ⟨blanks, -, htext⟩ := trimRight_split text
    rw [htext]
    exact h.trans (List.prefix_append _ _).isInfix
  . rintro ⟨before, after, rfl⟩
    refine ⟨before, trimRight after, (trimRight_append ?_).symm⟩
    intro c hc
    rw [List.getLast?_append] at hc
    cases hafter : (trimRight after).getLast? with
    | none =>
      rw [hafter, Option.none_or, List.getLast?_append, Option.mem_def.mp hlast] at hc
      cases hc
      exact hink
    | some c' =>
      rw [hafter] at hc
      cases hc
      exact isBlank_of_mem_getLast?_trimRight hafter

theorem not_returnFeed_infix_of_not_mem {text : List Char} {c : Char} (hc : c ∈ returnFeed)
    (h : c ∉ text) :
    ¬ returnFeed <:+: text :=
  fun hpair => h (hpair.subset hc)

theorem normalizeOutput_of_no_return {text : List Char} (h : '\r' ∉ text) :
    normalizeOutput text = trimRight text := by
  rw [normalizeOutput, joinLineEnds_eq_self_iff.mpr (not_returnFeed_infix_of_not_mem (by decide) h)]

theorem normalizeOutput_line {line : List Char} (h : '\n' ∉ line) :
    normalizeOutput (line ++ ['\n']) = trimRight line := by
  have htrimmed : '\n' ∉ trimRight line := by
    obtain ⟨blanks, -, hline⟩ := trimRight_split line
    rw [hline] at h
    exact fun hmem => h (List.mem_append_left _ hmem)
  rw [normalizeOutput_eq, trimRight_append_blank _ _ (by decide),
    joinLineEnds_eq_self_iff.mpr (not_returnFeed_infix_of_not_mem (by decide) htrimmed)]

theorem occursIn_iff {part text : List Char} : occursIn part text = true ↔ part <:+: text := by
  induction text with
  | nil => simp [occursIn]
  | cons c text ih =>
    rw [occursIn, Bool.or_eq_true, List.isPrefixOf_iff_prefix, ih, List.infix_cons_iff]

theorem normalizeOutput_normalizeOutput (text : List Char) :
    normalizeOutput (normalizeOutput text) = joinLineEnds (normalizeOutput text) := by
  rw [normalizeOutput_eq, trimRight_of_ink]
  exact fun c => isBlank_of_mem_getLast?_normalizeOutput

/--
What is normalized does not end in anything blank. There is a return in front of a line feed where
the text has two of them, and ink behind; and a text is normalized for good unless this is so.
-/
theorem normalizeOutput_final_iff (text : List Char) :
    (¬ ∃ before c, normalizeOutput text = before ++ [c] ∧ isBlank c = true) ∧
    (returnFeed <:+: normalizeOutput text ↔
      ∃ before after, text = before ++ '\r' :: returnFeed ++ after ∧
        ∃ c ∈ after, isBlank c = false) ∧
    (normalizeOutput (normalizeOutput text) = normalizeOutput text ↔
      ¬ returnFeed <:+: normalizeOutput text) := by
  refine ⟨?_, ?_, ?_⟩
  . rintro ⟨before, c, hend, hblank⟩
    have hink : isBlank c = false := by
      apply @isBlank_of_mem_getLast?_normalizeOutput text
      simp [hend]
    rw [hink] at hblank
    cases hblank
  . rw [normalizeOutput_eq, returnFeed_infix_joinLineEnds_iff]
    exact infix_trimRight_iff ⟨'\n', rfl, rfl⟩
  . rw [normalizeOutput_normalizeOutput]
    exact joinLineEnds_eq_self_iff

theorem doubled_return_leaves_return :
    returnFeed <:+: normalizeOutput "a\r\r\nb".toList ∧
      normalizeOutput (normalizeOutput "a\r\r\nb".toList) ≠ normalizeOutput "a\r\r\nb".toList := by
  decide

end ParenCalc.Text
