import ParenCalc.Proofs.Parser.Composed
import ParenCalc.Proofs.Source.Content

/-!
This module contains the parser on an input of any kind: it does what it does on the text that the
input holds, unless it needs a character that cannot be decoded.
-/

namespace ParenCalc

open Text (Utf8.Fault)

namespace Lexer

def decoded (lexer : Lexer) : Lexer :=
  { lexer with source := .ofText lexer.source.content.text }

structure Ended (lexer : Lexer) : Prop where
  current : ∃ token, lexer.current = some token ∧ token.kind = .endOfInput
  source : lexer.source = .ofText []

variable {lexer lexer' : Lexer} {token : Token} {fault : Utf8.Fault}

theorem Ended.advance (h : Ended lexer) : Ended (Parser.leftBehind (Lexer.advance lexer)) := by
  have hadvance := advance_of_source [] h.source
  simp only at hadvance
  rw [hadvance]
  exact ⟨⟨_, rfl, rfl⟩, rfl⟩

theorem advance_eq_ok (h : advance lexer = .ok token lexer') :
    ∃ passage, lexer.source.find isSpace = (.ok passage, lexer'.source) ∧
      token = .ofChar? passage.found (lexer.position.after passage.skipped) ∧
      lexer' = lexer.accept lexer'.source
        ((lexer.position.after passage.skipped).after passage.found.toList) token := by
  unfold advance at h
  split at h
  . cases h
  . next skipped c source hfind =>
    cases h
    exact ⟨_, hfind, rfl, rfl⟩
  . next skipped source hfind =>
    cases h
    exact ⟨_, hfind, rfl, rfl⟩

theorem advance_eq_error (h : advance lexer = .error fault lexer') :
    lexer.source.find isSpace = (.error fault, lexer'.source) := by
  unfold advance at h
  split at h
  . next hfind =>
    cases h
    exact hfind
  . cases h
  . cases h

theorem advance_decoded_of_ok (h : advance lexer = .ok token lexer') :
    advance lexer.decoded = .ok token lexer'.decoded ∧
      lexer'.source.content.fault = lexer.source.content.fault := by
  obtain ⟨passage, hfind, htoken, hlexer'⟩ := advance_eq_ok h
  obtain ⟨hpassage, hcontent⟩ := Source.find_eq isSpace lexer.source
  rw [hfind] at hpassage hcontent
  replace hcontent : lexer'.source.content = _ := hcontent passage hpassage.symm
  replace hpassage := Source.Content.find_eq_ok hpassage.symm
  rw [Source.scan_eq] at hcontent hpassage
  constructor
  . have hadvance := @advance_of_source lexer.decoded lexer.source.content.text rfl
    simp only [List.take_one] at hadvance
    rw [hadvance, hlexer', htoken, hpassage]
    simp only [decoded, accept, hcontent]
  . rw [hcontent]

theorem advance_decoded_of_error (h : advance lexer = .error fault lexer') :
    lexer.source.content.fault = some fault ∧
      Ended (Parser.leftBehind (advance lexer.decoded)) := by
  obtain ⟨hpassage, -⟩ := Source.find_eq isSpace lexer.source
  rw [advance_eq_error h] at hpassage
  obtain ⟨hfault, hfound⟩ := Source.Content.find_eq_error hpassage.symm
  refine ⟨hfault, ?_⟩
  rw [Source.scan_eq] at hfound
  have hadvance := @advance_of_source lexer.decoded lexer.source.content.text rfl
  simp only [List.head?_eq_none_iff.mp hfound] at hadvance
  rw [hadvance]
  exact ⟨⟨_, rfl, rfl⟩, rfl⟩

theorem fault_of_advance_end (h : advance lexer = .ok token lexer')
    (hkind : token.kind = .endOfInput) :
    lexer.source.content.fault = none := by
  obtain ⟨passage, hfind, rfl, -⟩ := advance_eq_ok h
  have hpassage := (Source.find_eq isSpace lexer.source).1
  rw [hfind] at hpassage
  exact Source.Content.fault_of_find_eq_ok hpassage.symm
    (Token.kind_ofChar?_eq_endOfInput_iff.mp hkind)

end Lexer

namespace Parser

open Lexer

/--
`Mirrors fault run text` states that `run`, on an input with the given fault behind its text, has
gone like `text`, the run on the text alone, or has failed with this fault where `text` came to the
end.
-/
inductive Mirrors {α : Type} (fault : Option Utf8.Fault) :
    (run text : EStateM.Result Failure Lexer α) → Prop
  | ok (a : α) (lexer : Lexer) (hfault : lexer.source.content.fault = fault) :
      Mirrors fault (.ok a lexer) (.ok a lexer.decoded)
  | malformed (error : ParseError) (lexer : Lexer) (hfault : lexer.source.content.fault = fault) :
      Mirrors fault (.error (.malformed error) lexer) (.error (.malformed error) lexer.decoded)
  | undecodable (found : Utf8.Fault) (lexer : Lexer) (text : EStateM.Result Failure Lexer α)
      (hfault : fault = some found) (hended : Ended (leftBehind text)) :
      Mirrors fault (.error (.undecodable found) lexer) text

theorem mirrors_advance (lexer : Lexer) :
    Mirrors lexer.source.content.fault ((lex advance).run lexer)
      ((lex advance).run lexer.decoded) := by
  unfold EStateM.run lex
  cases h : advance lexer with
  | ok token lexer' =>
    obtain ⟨hdecoded, hfault⟩ := advance_decoded_of_ok h
    rw [hdecoded]
    exact .ok token lexer' hfault
  | error fault lexer' =>
    obtain ⟨hfault, hended⟩ := advance_decoded_of_error h
    refine .undecodable fault lexer' _ hfault ?_
    rw [← leftBehind_lex] at hended
    exact hended

theorem run_peek_of_none {lexer : Lexer} (h : lexer.current = none) :
    (lex peek).run lexer = (lex advance).run lexer := by
  unfold EStateM.run lex
  rw [peek_of_none h]

theorem run_peek_of_some {lexer : Lexer} {token : Token} (h : lexer.current = some token) :
    (lex peek).run lexer = .ok token lexer := by
  unfold EStateM.run lex
  rw [peek_of_some h]

theorem mirrors_peek (lexer : Lexer) :
    Mirrors lexer.source.content.fault ((lex peek).run lexer) ((lex peek).run lexer.decoded) := by
  cases hcurrent : lexer.current with
  | none =>
    have hdecoded : lexer.decoded.current = none := hcurrent
    rw [run_peek_of_none hcurrent, run_peek_of_none hdecoded]
    exact mirrors_advance lexer
  | some token =>
    have hdecoded : lexer.decoded.current = some token := hcurrent
    rw [run_peek_of_some hcurrent, run_peek_of_some hdecoded]
    exact .ok token lexer rfl

theorem Composed.mirrors {α : Type} {rule : Parser α} (hrule : Composed rule) (lexer : Lexer) :
    Mirrors lexer.source.content.fault (rule.run lexer) (rule.run lexer.decoded) := by
  induction hrule generalizing lexer with
  | pure a => exact .ok a lexer rfl
  | malformed error => exact .malformed error lexer rfl
  | peek => exact mirrors_peek lexer
  | advance => exact mirrors_advance lexer
  | bind rule next hrule hnext ihrule ihnext =>
    have hmirrors := ihrule lexer
    rw [EStateM.run_bind, EStateM.run_bind]
    generalize rule.run lexer = run at hmirrors
    generalize rule.run lexer.decoded = text at hmirrors
    cases hmirrors with
    | ok a lexer' hfault =>
      rw [← hfault]
      exact ihnext a lexer'
    | malformed error lexer' hfault => exact .malformed error lexer' hfault
    | undecodable found lexer' text hfault hended =>
      refine .undecodable found lexer' _ hfault ?_
      -- The run on the text alone may go on, but only at the end of the text.
      cases text with
      | ok a lexer' => exact (hnext a).keeps (fun _ => Ended.advance) hended
      | error failure lexer' => exact hended

end Parser

end ParenCalc
