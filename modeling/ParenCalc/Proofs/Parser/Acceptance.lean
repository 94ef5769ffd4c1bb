import ParenCalc.Proofs.Lexer.OfText
import ParenCalc.Proofs.Parser.Runs

namespace ParenCalc

namespace Parser

open ParenCalc.Expr Lexer

theorem searches_ofString (limit : Nat) (text : String) :
    ∃ result count, Finds limit (unspaced text.toList) result count ∧
      (program limit).run (.ofString text) =
        conclude result (positionAt text.toList count) (stateAt text.toList (count + 1)) :=
  searches_program (feed_stateAt text.toList) limit

theorem exists_prefix_derives_iff {w : List Char} {e : Expr} :
    (∃ v, v <+: w ∧ Derives v e) ↔ ∃ rest, w = e.render ++ rest := by
  simp only [derives_iff]
  constructor
  . rintro ⟨v, ⟨rest, rfl⟩, rfl⟩
    exact ⟨rest, rfl⟩
  . rintro ⟨rest, rfl⟩
    exact ⟨e.render, ⟨rest, rfl⟩, rfl⟩

theorem derives_prefix_unique {w v v' : List Char} {e e' : Expr} (hv : v <+: w) (he : Derives v e)
    (hv' : v' <+: w) (he' : Derives v' e') : v = v' ∧ e = e' := by
  obtain ⟨rest, hv⟩ := hv
  obtain ⟨rest', hv'⟩ := hv'
  rw [derives_iff] at he he'
  subst he he'
  obtain ⟨rfl, -⟩ := render_append_inj (hv.trans hv'.symm)
  exact ⟨rfl, rfl⟩

theorem starts_nothing_iff {w : List Char} :
    (∀ c ∈ w.head?, ¬ Gap.expression.Admits c) ↔
      w = [] ∨ ∃ c rest, w = c :: rest ∧ ¬ ('0' ≤ c ∧ c ≤ '9') ∧ c ≠ '(' := by
  cases w with
  | nil => simp
  | cons c rest => simp [Gap.Admits, isDigit_iff_range]

/--
The parser gives an expression if and only if the text begins with a sentence, which is then the
only one that it begins with, and the expression is the one that the sentence stands for. It gives
nothing if and only if no expression could start where the text does, and reports an error in all
other cases.
-/
theorem program_recognizes_grammar (limit : Nat) (text : String)
    (h : NestsWithin limit (unspaced text.toList)) :
    let w := unspaced text.toList
    let run := (program limit).run (.ofString text)
    (∀ e, (∃ lexer, run = .ok (some e) lexer) ↔ ∃ v, v <+: w ∧ Derives v e) ∧
    (∀ v v' e e', v <+: w → Derives v e → v' <+: w → Derives v' e' → v = v' ∧ e = e') ∧
    ((∃ lexer, run = .ok none lexer) ↔
      w = [] ∨ ∃ c rest, w = c :: rest ∧ ¬ ('0' ≤ c ∧ c ≤ '9') ∧ c ≠ '(') ∧
    ((∃ error lexer, run = .error (.malformed error) lexer) ↔
      (¬ ∃ e v, v <+: w ∧ Derives v e) ∧
        ¬ (w = [] ∨ ∃ c rest, w = c :: rest ∧ ¬ ('0' ≤ c ∧ c ≤ '9') ∧ c ≠ '(')) := by
  intro w run
  obtain ⟨result, count, hfinds, hrun⟩ := searches_ofString limit text
  have hfound (e : Expr) : result = .ok (some e) ↔ ∃ v, v <+: w ∧ Derives v e := by
    rw [hfinds.expression_iff h, exists_prefix_derives_iff]
  have hnothing := hfinds.nothing_iff.trans starts_nothing_iff
  refine ⟨?_, ?_, ?_, ?_⟩
  . intro e
    rw [← hfound, ← conclude_eq_ok_iff, ← hrun]
  . intro v v' e e' hv he hv' he'
    exact derives_prefix_unique hv he hv' he'
  . rw [← hnothing, ← conclude_eq_ok_iff, ← hrun]
  . rw [← hnothing]
    simp only [← hfound]
    rw [show run = _ from hrun, conclude_eq_error_iff]
    constructor
    . intro herror
      exact ⟨fun ⟨e, he⟩ => herror (some e) he, herror none⟩
    . rintro ⟨hsome, hnone⟩ a ha
      cases a with
      | none => exact hnone ha
      | some e => exact hsome ⟨e, ha⟩

theorem program_recognizes_spaced_product :
    NestsWithin 20 (unspaced " ((1 +2)\n* 3))".toList) ∧
      ∃ lexer, (program 20).run (.ofString " ((1 +2)\n* 3))") =
        .ok (some (.binary (.binary (.digit 1) .add (.digit 2)) .multiply (.digit 3))) lexer := by
  have hnests : NestsWithin 20 (unspaced " ((1 +2)\n* 3))".toList) :=
    nestsWithin_of_length_le (by decide)
  refine ⟨hnests, ((program_recognizes_grammar 20 _ hnests).1 _).mpr ?_⟩
  exact exists_prefix_derives_iff.mpr ⟨[')'], by decide⟩

end Parser

end ParenCalc
