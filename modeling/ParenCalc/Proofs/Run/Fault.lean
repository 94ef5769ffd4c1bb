import ParenCalc.Proofs.Run.Consistency
import ParenCalc.Proofs.Run.Stop
import ParenCalc.Proofs.Source.Faulty

namespace ParenCalc

namespace Lexer

def EndsCleanly (lexer : Lexer) : Prop :=
  ∀ token, lexer.current = some token → token.kind = .endOfInput →
    lexer.source.content.fault = none

theorem current_of_advance_error {lexer lexer' : Lexer} {fault : Text.Utf8.Fault}
    (h : Lexer.advance lexer = .error fault lexer') : lexer'.current = lexer.current := by
  unfold Lexer.advance at h
  split at h
  . cases h
    rfl
  . cases h
  . cases h

theorem EndsCleanly.advance {lexer : Lexer} (h : EndsCleanly lexer) :
    EndsCleanly (Parser.leftBehind (Lexer.advance lexer)) := by
  cases hadvance : Lexer.advance lexer with
  | ok token lexer' =>
    intro current hcurrent hkind
    obtain rfl := Option.some.inj ((current_of_advance hadvance).symm.trans hcurrent)
    rw [Parser.leftBehind, (advance_decoded_of_ok hadvance).2]
    exact fault_of_advance_end hadvance hkind
  | error fault lexer' =>
    intro token htoken hkind
    rw [Parser.leftBehind, current_of_advance_error hadvance] at htoken
    have hfault := h token htoken hkind
    rw [(advance_decoded_of_error hadvance).1] at hfault
    cases hfault

end Lexer

namespace Run

open Text Text.Utf8 ParenCalc.Parser

theorem source_ofSource (limit : Nat) (source : Source) :
    (ofSource limit source).source = (leftBehind ((topLevel limit).run { source })).source := by
  unfold ofSource EStateM.run
  cases topLevel limit { source } <;> rfl

theorem fault_of_stop {limit : Nat} {source : Source} {token : Token}
    (hstop : stop limit source = some token) (hkind : token.kind = .endOfInput) :
    (ofSource limit source).source.content.fault = none := by
  have hfresh : Lexer.EndsCleanly { source } := by
    intro token htoken
    cases htoken
  have hends := (composed_topLevel limit).keeps (fun _ => Lexer.EndsCleanly.advance) hfresh
  rw [source_ofSource]
  exact hends token hstop hkind

theorem run_of_fault (limit : Nat) {source : Source} {text : List Char} {fault : Fault}
    (h : source.content = ⟨text, some fault⟩) :
    ∃ token, stop limit (.ofText text) = some token ∧
      (token.kind ≠ .endOfInput →
        (ofSource limit source).outcome = (ofSource limit (.ofText text)).outcome) ∧
      (token.kind = .endOfInput → (ofSource limit source).outcome = .undecodable fault) := by
  obtain ⟨token, hstop, -⟩ := stops_ofText limit text
  refine ⟨token, hstop, ?_⟩
  rcases run_of_content limit h with
    ⟨houtcome, hsame, hcontent⟩ | ⟨found, token', hfault, houtcome, hstop', hkind⟩
  . refine ⟨fun _ => houtcome, ?_⟩
    intro hkind
    have hnone := fault_of_stop (hsame.trans hstop) hkind
    rw [hcontent] at hnone
    cases hnone
  . obtain rfl := Option.some.inj (hstop.symm.trans hstop')
    obtain rfl := Option.some.inj hfault
    exact ⟨fun hother => absurd hkind hother, fun _ => houtcome⟩

/--
Where bytes cannot be decoded from some chunk on, or end within a character, let `p` be the text of
the chunks in front, without a return that waits for the next one. If the run of `p` stops at a
token of `p`, the bytes have the same outcome. If it comes to the end of `p`, they have none but the
fault.
-/
theorem faulty_program_outcome (limit : Nat) (bytes : List UInt8)
    (before behind : List (List UInt8)) (text : List Char) (carried : List UInt8)
    (hcut : Source.cut (Source.chunkSize - 1) bytes = before ++ behind)
    (hbefore : Decodes [] before.flatten text carried) (hbehind : Source.FailsNext carried behind)
    (p : String) (hp : p.toList = Newline.unifyAll (Newline.dropFinalReturn text)) :
    ∃ token, stop limit (.ofString p) = some token ∧
      (token.kind ≠ .endOfInput →
        (ofSource limit (.ofBytes bytes)).outcome = (ofString limit p).outcome) ∧
      (token.kind = .endOfInput →
        (ofSource limit (.ofBytes bytes)).outcome.Fails none "Read error: ") := by
  obtain ⟨fault, hcontent⟩ := Source.content_of_failsNext hbefore hbehind
  rw [← hcut, ← hp] at hcontent
  obtain ⟨token, hstop, hsame, hfault⟩ := run_of_fault limit hcontent
  refine ⟨token, hstop, hsame, ?_⟩
  intro hkind
  have houtcome : (ofSource limit (.ofBytes bytes)).outcome = .undecodable fault := hfault hkind
  rw [houtcome]
  exact Outcome.fails_undecodable fault

theorem faulty_program_outcome_unfinished :
    let needless : List UInt8 := [49, 43, 195]
    let needed : List UInt8 := [49, 195]
    (∀ bytes ∈ [needless, needed], Source.cut (Source.chunkSize - 1) bytes = [bytes] ++ []) ∧
      Decodes [] [needless].flatten ['1', '+'] [195] ∧
      Decodes [] [needed].flatten ['1'] [195] ∧
      Source.FailsNext [195] [] ∧
      (∀ p ∈ ["1+", "1"], p.toList = Newline.unifyAll (Newline.dropFinalReturn p.toList)) ∧
      (ofSource 20 (.ofBytes needless)).outcome = .finished (.digit 1) 1 ∧
      (ofSource 20 (.ofBytes needed)).outcome.Fails none "Read error: " := by
  intro needless needed
  have hcut : ∀ bytes ∈ [needless, needed],
      Source.cut (Source.chunkSize - 1) bytes = [bytes] ++ [] := by
    simp [Source.cut, Source.chunkSize, needless, needed]
  have hneedless : Decodes [] [needless].flatten ['1', '+'] [195] := decode_eq_ok_iff.mp rfl
  have hneeded : Decodes [] [needed].flatten ['1'] [195] := decode_eq_ok_iff.mp rfl
  have hending : Source.FailsNext [195] [] := .ending (List.cons_ne_nil _ _)
  have hp : ∀ p ∈ ["1+", "1"],
      p.toList = Newline.unifyAll (Newline.dropFinalReturn p.toList) := by decide
  refine ⟨hcut, hneedless, hneeded, hending, hp, ?_, ?_⟩
  . obtain ⟨token, hstop, hsame, -⟩ := faulty_program_outcome 20 needless [needless] []
      ['1', '+'] [195] (hcut _ (.head _)) hneedless hending "1+" (hp _ (.head _))
    obtain rfl : token = .ofChar '+' ⟨1, 1⟩ := (Option.some.inj hstop).symm
    have hspaced : Lexer.unspaced "1+".toList = (Expr.digit 1).render ++ ['+'] := by decide
    exact (hsame (by decide)).trans (outcome_of_unspaced hspaced (by decide))
  . obtain ⟨token, hstop, -, hread⟩ := faulty_program_outcome 20 needed [needed] [] ['1'] [195]
      (hcut _ (.tail _ (.head _))) hneeded hending "1" (hp _ (.tail _ (.head _)))
    obtain rfl : token = .endOfInput ⟨1, 1⟩ := (Option.some.inj hstop).symm
    exact hread rfl

end Run

end ParenCalc
