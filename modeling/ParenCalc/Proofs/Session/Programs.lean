import ParenCalc.Proofs.Session.Fold
import ParenCalc.Proofs.Text.Blank

namespace ParenCalc

namespace Run

open Lexer ParenCalc.Parser

theorem exists_render_of_value {limit : Nat} {text : List Char} {v : Nat}
    (h : (ofSource limit (.ofText text)).outcome.value? = some v) :
    ∃ e rest, unspaced text = Expr.render e ++ rest ∧ e.nesting ≤ limit ∧ e.value = v := by
  obtain ⟨result, count, hfinds, houtcome, -⟩ := searches_ofText limit text
  rw [houtcome] at h
  cases hfinds with
  | expression e rest hw hlimit => exact ⟨e, rest, hw, hlimit, Option.some.inj h⟩
  | nothing | gap | tooDeep => cases h

end Run

namespace Lexer

theorem isBlank_of_isSpace {c : Char} (h : isSpace c = true) : Text.isBlank c = true := by
  simp only [isSpace, Bool.or_eq_true, beq_iff_eq] at h
  rcases h with (rfl | rfl) | rfl
  . decide
  . decide
  . decide

theorem mem_of_mem_unspaced {text : List Char} {c : Char} (h : c ∈ unspaced text) : c ∈ text :=
  (List.mem_filter.mp h).1

theorem unspaced_cons_of_ink {c : Char} (h : Text.isBlank c = false) (text : List Char) :
    unspaced (c :: text) = c :: unspaced text := by
  have hspace : isSpace c = false := by
    rw [← Bool.not_eq_true] at h ⊢
    exact mt isBlank_of_isSpace h
  exact List.filter_cons_of_pos (by rw [hspace]; rfl)

end Lexer

namespace Session

open Lexer

variable {settings : Settings} {limit : Nat} {line : List Char} {v : Nat}

theorem exists_render_eq_cons (e : Expr) : ∃ c rest, e.render = c :: rest ∧ c ∈ Expr.alphabet := by
  cases hrender : e.render with
  | nil => exact absurd hrender e.render_ne_nil
  | cons c rest =>
    refine ⟨c, rest, rfl, ?_⟩
    apply Expr.mem_alphabet_of_mem_render
    rw [hrender]
    exact List.mem_cons_self

theorem render_of_blanks {e : Expr} {before text after rest : List Char}
    (hbefore : ∀ c ∈ before, Text.isBlank c = true)
    (hafter : ∀ c ∈ after, Text.isBlank c = true)
    (h : before ++ text ++ after = e.render ++ rest) : ∃ rest', text = e.render ++ rest' := by
  have hink {c : Char} (hc : c ∈ Expr.alphabet) : ¬ Text.isBlank c = true := by
    rw [isBlank_of_mem_alphabet hc]
    exact Bool.false_ne_true
  have hstart : before = [] := by
    obtain ⟨d, digits, hrender, hd⟩ := exists_render_eq_cons e
    cases before with
    | nil => rfl
    | cons c before =>
      rw [hrender] at h
      rw [← (List.cons.inj h).1] at hd
      exact absurd (hbefore c List.mem_cons_self) (hink hd)
  rw [hstart, List.nil_append] at h
  -- The text ends behind the expression, or in the middle of it: then blanks would be its rest.
  rcases List.append_eq_append_iff.mp h with ⟨middle, hrender, hmiddle⟩ | ⟨middle, htext, -⟩
  . cases middle with
    | nil => exact ⟨[], by rw [hrender, List.append_nil, List.append_nil]⟩
    | cons c middle =>
      have hc : c ∈ Expr.alphabet := by
        apply Expr.mem_alphabet_of_mem_render
        rw [hrender]
        exact List.mem_append_right _ List.mem_cons_self
      have hblank : Text.isBlank c = true := by
        apply hafter
        rw [hmiddle]
        exact List.mem_append_left _ List.mem_cons_self
      exact absurd hblank (hink hc)
  . exact ⟨middle, htext⟩

theorem unspaced_trim {e : Expr} {rest : List Char} (h : unspaced line = e.render ++ rest) :
    ∃ rest', unspaced (Text.trim line) = e.render ++ rest' := by
  obtain ⟨before, after, hbefore, hafter, hline⟩ := Text.trim_split line
  rw [hline, unspaced_append, unspaced_append] at h
  apply render_of_blanks _ _ h
  . exact fun c hc => hbefore c (mem_of_mem_unspaced hc)
  . exact fun c hc => hafter c (mem_of_mem_unspaced hc)

theorem exists_trim_eq_cons {e : Expr} {rest : List Char}
    (h : unspaced (Text.trim line) = e.render ++ rest) :
    ∃ c more, Text.trim line = c :: more ∧ c ∈ Expr.alphabet := by
  cases htrim : Text.trim line with
  | nil =>
    rw [htrim] at h
    exact absurd (List.append_eq_nil_iff.mp h.symm).1 e.render_ne_nil
  | cons c more =>
    have hink : Text.isBlank c = false := by
      apply Text.isBlank_of_mem_head?_trim
      rw [htrim]
      rfl
    obtain ⟨d, digits, hrender, hd⟩ := exists_render_eq_cons e
    rw [htrim, unspaced_cons_of_ink hink, hrender] at h
    rw [← (List.cons.inj h).1] at hd
    exact ⟨c, more, rfl, hd⟩

theorem takeWhile_ne_of_head_ne {c d : Char} (h : c ≠ d) (text word : List Char) :
    (c :: text).takeWhile isWordChar ≠ d :: word := by
  intro hword
  have hprefix := List.takeWhile_prefix (l := c :: text) isWordChar
  rw [hword, List.cons_prefix_cons] at hprefix
  exact h hprefix.1.symm

theorem isProgram_of_head {c : Char} {more : List Char} (htrim : Text.trim line = c :: more)
    (hc : c ∈ Expr.alphabet) (hexit : Text.trim line ≠ settings.exitCommand.toList) :
    Ordinary settings line ∧ IsProgram line := by
  have hother {symbol : Char} (h : symbol ∉ Expr.alphabet) : c ≠ symbol := by
    rintro rfl
    exact h hc
  refine ⟨⟨hexit, ?_⟩, ?_, ?_, ?_⟩
  . rw [htrim]
    exact takeWhile_ne_of_head_ne (hother (by decide)) more _
  . rw [htrim]
    exact List.cons_ne_nil c more
  . rw [htrim]
    intro hmark
    exact hother (by decide) (Option.some.inj hmark)
  . rw [htrim]
    exact takeWhile_ne_of_head_ne (hother (by decide)) more _

theorem program_of_value (hvalue : (Run.ofSource limit (.ofText line)).outcome.value? = some v)
    (hexit : Text.trim line ≠ settings.exitCommand.toList) :
    Ordinary settings line ∧ IsProgram line ∧ (outcomeOf limit line).value? = some v := by
  obtain ⟨e, rest, hunspaced, hnesting, rfl⟩ := Run.exists_render_of_value hvalue
  obtain ⟨rest', htrim⟩ := unspaced_trim hunspaced
  obtain ⟨c, more, hcons, hc⟩ := exists_trim_eq_cons htrim
  obtain ⟨hordinary, hprogram⟩ := isProgram_of_head hcons hc hexit
  refine ⟨hordinary, hprogram, ?_⟩
  unfold outcomeOf
  rw [Run.outcome_of_unspaced htrim hnesting]
  rfl

theorem reply_of_program (hordinary : Ordinary settings line) (hprogram : IsProgram line)
    (hvalue : (outcomeOf limit line).value? = some v) : reply settings limit line = .value v := by
  unfold outcomeOf at hvalue
  rw [reply_eq, hordinary.request_program hprogram, Reply.ofRequest, Reply.ofOutcome, hvalue]

theorem exists_lines_of_line {source : Source} {text rest : List Char}
    (h : source.content = ⟨text, none⟩) (hline : '\n' ∉ line) (hnonempty : line ≠ [])
    (htext : text = line ∧ rest = [] ∨ text = line ++ '\n' :: rest) :
    ∃ lines, Source.LinesOf rest lines ∧ source.lines = ⟨line :: lines, none⟩ := by
  rcases htext with ⟨rfl, rfl⟩ | rfl
  . exact ⟨[], .nil, Source.lines_eq h (.last text hnonempty hline)⟩
  . obtain ⟨lines, hlines⟩ := Source.exists_linesOf rest
    exact ⟨lines, hlines, Source.lines_eq h (.cons line rest lines hline hlines)⟩

/--
A text that runs to a value is answered with this value and nothing else when it is entered as a
line, and the session goes on behind it.
-/
theorem program_line_answered (session : Session) (p : String) (v : Nat) (hline : '\n' ∉ p.toList)
    (hvalue : (Run.ofString session.limit p).outcome.value? = some v)
    (hlength : (toString v).length ≤ maxDigits)
    (hexit : Text.trim p.toList ≠ session.settings.exitCommand.toList) :
    let step := session.step p.toList
    Console.stdout step.events = toString v ++ "\n" ∧
    Console.errors step.events = "" ∧
    (∀ configured, Log.Hides configured → Console.stderr configured step.events = "") ∧
    step.session = { session with programCount := session.programCount + 1 } ∧
    step.verdict = .goesOn ∧
    ∀ (source : Source) text rest, source.content = ⟨text, none⟩ →
      (text = p.toList ∧ rest = [] ∨ text = p.toList ++ '\n' :: rest) →
      ∃ lines, Source.LinesOf rest lines ∧ source.lines = ⟨p.toList :: lines, none⟩ ∧
        converse session (p.toList :: lines) none =
          (converse step.session lines none).behind
            (.out session.settings.prompt :: step.events) := by
  intro step
  obtain ⟨hordinary, hprogram, houtcome⟩ := program_of_value hvalue hexit
  have hshort : ¬ TooLong session.limit p.toList := by
    rintro ⟨-, v', hvalue', hlong⟩
    obtain rfl := Option.some.inj (houtcome.symm.trans hvalue')
    omega
  have hsettles : Settles session step (.value v) := by
    rw [← reply_of_program hordinary hprogram houtcome]
    exact settles_step fun _ => hshort
  have hgoesOn : step.verdict = .goesOn := verdict_step hordinary hshort
  refine ⟨hsettles.stdout, hsettles.errors, ?_, hsettles.session, hgoesOn, ?_⟩
  . intro configured hconfigured
    rw [Console.stderr_eq_errors hconfigured (quiet_step session _)]
    exact hsettles.errors
  . intro source text rest hcontent htext
    have hnonempty : p.toList ≠ [] := by
      intro hnothing
      apply hprogram.nonempty
      rw [hnothing, Text.trim_nil]
    obtain ⟨lines, hlines, hsource⟩ := exists_lines_of_line hcontent hline hnonempty htext
    exact ⟨lines, hlines, hsource, converse_cons hgoesOn lines none⟩

theorem program_line_answered_before_help :
    let session : Session := { limit := 20, paint := id }
    let p := " 5help"
    ('\n' ∉ p.toList ∧ (Run.ofString session.limit p).outcome.value? = some 5 ∧
      (toString 5).length ≤ maxDigits ∧ Text.trim p.toList ≠ session.settings.exitCommand.toList) ∧
      Console.stdout (session.step p.toList).events = "5\n" ∧
      (session.step p.toList).session.programCount = 1 := by
  intro session p
  have hline : '\n' ∉ p.toList := by decide
  have hvalue : (Run.ofString session.limit p).outcome.value? = some 5 := by decide +kernel
  have hlength : (toString 5).length ≤ maxDigits := by decide
  have hexit : Text.trim p.toList ≠ session.settings.exitCommand.toList := by decide
  obtain ⟨hstdout, -, -, hsession, -, -⟩ :=
    program_line_answered session p 5 hline hvalue hlength hexit
  exact ⟨⟨hline, hvalue, hlength, hexit⟩, hstdout, congrArg Session.programCount hsession⟩

end Session

end ParenCalc
