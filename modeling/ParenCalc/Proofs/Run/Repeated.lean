import Mathlib.Logic.Function.Iterate
import ParenCalc.Proofs.Run.Stop

namespace ParenCalc

namespace Run

open ParenCalc.Expr ParenCalc.Parser Lexer

section Stops

variable {text rest : List Char} {outcome : Outcome} {token : Token}

theorem Stops.cut (h : Stops text outcome token rest) :
    ∃ passed ahead, text = passed ++ ahead ∧ rest = ahead.tail ∧
      token = .ofChar? ahead.head? (Position.after {} passed) := by
  cases h with
  | finished e passed ahead => exact ⟨passed, ahead, rfl, rfl, rfl⟩
  | malformed error passed ahead => exact ⟨passed, ahead, rfl, rfl, rfl⟩

theorem Stops.isSuffix (h : Stops text outcome token rest) : rest <:+ text := by
  obtain ⟨passed, ahead, rfl, rfl, -⟩ := h.cut
  exact (List.tail_suffix ahead).trans (List.suffix_append passed ahead)

theorem Stops.length_lt (h : Stops text outcome token rest) (htext : text ≠ []) :
    rest.length < text.length := by
  have hpositive := List.length_pos_iff.mpr htext
  obtain ⟨passed, ahead, rfl, rfl, -⟩ := h.cut
  rw [List.length_append] at *
  rw [List.length_tail]
  omega

theorem Stops.rest_eq_nil (h : Stops text outcome token rest) (hkind : token.kind = .endOfInput) :
    rest = [] := by
  obtain ⟨passed, ahead, -, rfl, rfl⟩ := h.cut
  rw [Token.kind_ofChar?_eq_endOfInput_iff, List.head?_eq_none_iff] at hkind
  rw [hkind, List.tail_nil]

end Stops

def suffix (limit : Nat) (text : List Char) (index : Nat) : List Char :=
  (remainder limit)^[index] text

theorem suffix_succ (limit : Nat) (text : List Char) (index : Nat) :
    suffix limit text (index + 1) = remainder limit (suffix limit text index) :=
  Function.iterate_succ_apply' (remainder limit) index text

theorem remainder_nil (limit : Nat) : remainder limit [] = [] := by
  cases limit <;> rfl

theorem suffix_eq_nil_of_le {limit : Nat} {text : List Char} {index later : Nat}
    (h : suffix limit text index = []) (hle : index ≤ later) : suffix limit text later = [] := by
  obtain ⟨count, rfl⟩ := Nat.exists_eq_add_of_le' hle
  unfold suffix at *
  rw [Function.iterate_add_apply, h]
  exact Function.iterate_fixed (remainder_nil limit) count

theorem outcome_ofText_nil (limit : Nat) :
    (ofSource limit (.ofText [])).outcome = .malformed ⟨.noExpression, {}⟩ := by
  cases limit <;> rfl

theorem length_repeated (limit count : Nat) (source : Source) :
    (repeated limit count source).length = count := by
  induction count generalizing source with
  | zero => rfl
  | succ count ih => exact congrArg Nat.succ (ih _)

theorem content_of_repeated {limit count index : Nat} {source : Source} {text : List Char}
    {run : Run}
    (h : source.content = ⟨text, none⟩) (hrun : (repeated limit count source)[index]? = some run) :
    ∃ source', run = ofSource limit source' ∧
      source'.content = ⟨suffix limit text index, none⟩ := by
  induction count generalizing source text index with
  | zero => cases hrun
  | succ count ih =>
    cases index with
    | zero => exact ⟨source, (Option.some.inj hrun).symm, h⟩
    | succ index =>
      rw [repeated, List.getElem?_cons_succ] at hrun
      have hnext := ih (run_of_content_none limit h).2.2 hrun
      exact hnext

/--
`Programs limit es text` states that the expressions are laid out one after the other at the start
of `text`, with spaces anywhere in them, and with one more character behind each that is no space.
-/
inductive Programs (limit : Nat) : List Expr → List Char → Prop
  | nil (text : List Char) : Programs limit [] text
  | cons (e : Expr) (es : List Expr) (layout : List Char) (c : Char) (rest : List Char)
      (hlayout : unspaced layout = e.render) (hnesting : e.nesting ≤ limit)
      (hc : isSpace c = false) (hrest : Programs limit es rest) :
      Programs limit (e :: es) (layout ++ c :: rest)

theorem run_of_layout {limit : Nat} {e : Expr} {layout : List Char} {c : Char} (rest : List Char)
    (hlayout : unspaced layout = e.render) (hnesting : e.nesting ≤ limit)
    (hc : isSpace c = false) :
    (ofSource limit (.ofText (layout ++ c :: rest))).outcome = .finished (.ofExpr e) e.value ∧
      remainder limit (layout ++ c :: rest) = rest := by
  have htext : unspaced (layout ++ c :: rest) = e.render ++ unspaced (c :: rest) := by
    rw [unspaced_append, hlayout]
  refine ⟨outcome_of_unspaced htext hnesting, ?_⟩
  obtain ⟨result, count, hfinds, -, hsource, -⟩ := searches_ofText limit (layout ++ c :: rest)
  rcases hfinds.of_render htext with ⟨-, rfl⟩ | ⟨hdeep, -⟩
  . cases hfinds
    have hpassed : unspaced (passed (layout ++ c :: rest) e.render.length) = unspaced layout := by
      rw [unspaced_passed, htext, List.take_left, hlayout]
    obtain ⟨-, hahead⟩ := eq_of_unspaced_eq (passed_append_ahead _ _) hpassed
      (fun c => isSpace_of_mem_head?_ahead) (by simpa using hc)
    rw [remainder_eq hsource, hahead, List.tail_cons]
  . omega

theorem outcomes_of_programs {limit count : Nat} {es : List Expr} {text : List Char}
    {source : Source} (hes : Programs limit es text) (h : source.content = ⟨text, none⟩)
    (hcount : es.length ≤ count) :
    ((repeated limit count source).take es.length).map (·.outcome) =
      es.map fun e => .finished (.ofExpr e) e.value := by
  induction hes generalizing source count with
  | nil text => rfl
  | cons e es layout c rest hlayout hnesting hc hrest ih =>
    cases count with
    | zero => cases hcount
    | succ count =>
      obtain ⟨hrun, -, hcontent⟩ := run_of_content_none limit h
      obtain ⟨houtcome, hremainder⟩ := run_of_layout rest hlayout hnesting hc
      rw [hremainder] at hcontent
      rw [repeated, List.length_cons, List.take_succ_cons, List.map_cons, List.map_cons, hrun,
        houtcome, ih hcontent (Nat.le_of_succ_le_succ hcount)]

/--
Every run on an input is a run on what the one before it has left of the text: all that stands
behind the token that it stopped at. So expressions with one character behind each are run one after
the other, and once the end of the text has been met there is nothing left to run.
-/
theorem repeated_runs_process_suffixes (limit : Nat) (source : Source) (text : List Char)
    (h : source.content = ⟨text, none⟩) (count : Nat) :
    let suffix := suffix limit text
    (repeated limit count source).length = count ∧
    (∀ index run, (repeated limit count source)[index]? = some run →
      run.outcome = (ofString limit (String.ofList (suffix index))).outcome ∧
      ∃ token, stop limit (.ofString (String.ofList (suffix index))) = some token ∧
        Stops (suffix index) run.outcome token (suffix (index + 1)) ∧
        suffix (index + 1) <:+ suffix index ∧
        (suffix index ≠ [] → (suffix (index + 1)).length < (suffix index).length) ∧
        (token.kind = .endOfInput → ∀ later run', index < later →
          (repeated limit count source)[later]? = some run' →
          run'.outcome = .malformed ⟨.noExpression, {}⟩ ∧
          run'.outcome.message? = some "Parse error: Line 1: No top-level expression")) ∧
    (∀ es, Programs limit es text → es.length ≤ count →
      ((repeated limit count source).take es.length).map (·.outcome) =
        es.map fun e => .finished (.ofExpr e) e.value) := by
  refine ⟨length_repeated limit count source, ?_, fun es hes => outcomes_of_programs hes h⟩
  intro index run hrun
  obtain ⟨source', rfl, hcontent⟩ := content_of_repeated h hrun
  have houtcome := (run_of_content_none limit hcontent).1
  obtain ⟨token, hstop, hstops⟩ := stops_ofText limit (suffix limit text index)
  rw [← houtcome, ← suffix_succ] at hstops
  unfold ofString Source.ofString
  rw [String.toList_ofList]
  refine ⟨houtcome, token, hstop, hstops, hstops.isSuffix, hstops.length_lt, ?_⟩
  intro hkind later run' hlater hrun'
  obtain ⟨source'', rfl, hcontent'⟩ := content_of_repeated h hrun'
  have hnothing := suffix_eq_nil_of_le (hstops.rest_eq_nil hkind) hlater
  rw [(run_of_content_none limit hcontent').1, hnothing, outcome_ofText_nil]
  exact ⟨rfl, rfl⟩

theorem repeated_runs_process_two_programs :
    let text := "1;( 2\n+3),".toList
    let es : List Expr := [.digit 1, .binary (.digit 2) .add (.digit 3)]
    (Source.ofText text).content = ⟨text, none⟩ ∧ Programs 20 es text ∧ es.length ≤ 4 ∧
      ((repeated 20 4 (.ofText text)).take 2).map (·.outcome) =
        es.map (fun e => .finished (.ofExpr e) e.value) := by
  intro text es
  have hcontent : (Source.ofText text).content = ⟨text, none⟩ := Source.content_ofText text
  have hes : Programs 20 es text :=
    .cons _ _ "1".toList ';' _ (by decide) (by decide) (by decide)
      (.cons _ _ "( 2\n+3)".toList ',' [] (by decide) (by decide) (by decide) (.nil []))
  obtain ⟨-, -, hprograms⟩ := repeated_runs_process_suffixes 20 (.ofText text) text hcontent 4
  exact ⟨hcontent, hes, by decide, hprograms es hes (by decide)⟩

end Run

end ParenCalc
