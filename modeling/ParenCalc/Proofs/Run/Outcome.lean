import ParenCalc.Proofs.Console
import ParenCalc.Proofs.Parser.Decoded
import ParenCalc.Proofs.Parser.RoundTrip
import ParenCalc.Proofs.Tree.Evaluation
import ParenCalc.Run

namespace ParenCalc

theorem Outcome.value?_of_message {outcome : Outcome} {message : String}
    (h : outcome.message? = some message) : outcome.value? = none := by
  cases outcome with
  | finished tree v => cases h
  | _ => rfl

namespace Run

open Text (Utf8.Fault)
open Lexer ParenCalc.Parser

inductive Reaches (fault : Option Utf8.Fault) : Outcome → Prop
  | finished (e : Expr) : Reaches fault (.finished (.ofExpr e) e.value)
  | malformed (error : ParseError) : Reaches fault (.malformed error)
  | undecodable (found : Utf8.Fault) (hfault : fault = some found) :
      Reaches fault (.undecodable found)

theorem Reaches.finished_or_message {fault : Option Utf8.Fault} {outcome : Outcome}
    (h : Reaches fault outcome) :
    (∃ e : Expr, outcome = .finished (.ofExpr e) e.value) ∨
      outcome.success = false ∧ ∃ message, outcome.message? = some message := by
  cases h with
  | finished e => exact .inl ⟨e, rfl⟩
  | malformed | undecodable => exact .inr ⟨rfl, _, rfl⟩

theorem ofTree_ofExpr (e : Expr) : Outcome.ofTree (.ofExpr e) = .finished (.ofExpr e) e.value := by
  unfold Outcome.ofTree
  rw [Tree.evaluate_ofExpr]

theorem reaches (limit : Nat) (source : Source) :
    Reaches source.content.fault (ofSource limit source).outcome := by
  have hmirrors := (Parser.composed_topLevel limit).mirrors { source }
  generalize (Parser.topLevel limit).run (Lexer.decoded { source }) = text at hmirrors
  unfold EStateM.run at hmirrors
  unfold ofSource
  generalize Parser.topLevel limit { source } = run at hmirrors
  cases hmirrors with
  | ok e lexer =>
    simp only [ofTree_ofExpr]
    exact .finished e
  | malformed error lexer => exact .malformed error
  | undecodable found lexer _ hfault => exact .undecodable found hfault

theorem reaches_ofText (limit : Nat) (text : List Char) :
    Reaches none (ofSource limit (.ofText text)).outcome := by
  have hreaches := reaches limit (.ofText text)
  rw [Source.content_ofText] at hreaches
  exact hreaches

def stop (limit : Nat) (source : Source) : Option Token :=
  (leftBehind ((topLevel limit).run { source })).current

def outcomeOfSearch (result : Except ParseError.Reason (Option Expr)) (position : Position) :
    Outcome :=
  match demand result with
  | .ok e => .finished (.ofExpr e) e.value
  | .error reason => .malformed ⟨reason, position⟩

theorem searches_ofText (limit : Nat) (text : List Char) :
    ∃ result count, Finds limit (unspaced text) result count ∧
      (ofSource limit (.ofText text)).outcome =
        outcomeOfSearch result (positionAt text count) ∧
      (ofSource limit (.ofText text)).source = .ofText (behind text (count + 1)) ∧
      stop limit (.ofText text) = some (tokenAt (unspaced text) (positionAt text) count) := by
  obtain ⟨result, count, hfinds, hrun⟩ := searches_topLevel (feed_stateAt text) limit
  refine ⟨result, count, hfinds, ?_⟩
  have hstop : stop limit (.ofText text) =
      (leftBehind ((topLevel limit).run (stateAt text 0))).current := rfl
  rw [hstop, hrun]
  unfold EStateM.run at hrun
  unfold ofSource outcomeOfSearch
  rw [show topLevel limit { source := .ofText text } = _ from hrun]
  cases demand result with
  | ok e => exact ⟨ofTree_ofExpr e, rfl, rfl⟩
  | error reason => exact ⟨rfl, rfl, rfl⟩

theorem outcome_of_unspaced {limit : Nat} {text rest : List Char} {e : Expr}
    (htext : unspaced text = e.render ++ rest) (h : e.nesting ≤ limit) :
    (ofSource limit (.ofText text)).outcome = .finished (.ofExpr e) e.value := by
  obtain ⟨result, count, hfinds, houtcome, -⟩ := searches_ofText limit text
  rcases hfinds.of_render htext with ⟨-, rfl⟩ | ⟨hdeep, -⟩
  . exact houtcome
  . omega

theorem outcome_ofText_render {limit : Nat} (e : Expr) (h : e.nesting ≤ limit) :
    (ofSource limit (.ofText e.render)).outcome = .finished (.ofExpr e) e.value := by
  have hrender : unspaced e.render = e.render ++ [] := by
    rw [unspaced_render, List.append_nil]
  exact outcome_of_unspaced hrender h

theorem quiet_lexed (tokens : List Token) : Log.Quiet (tokens.map .lexed) := by
  apply Log.Quiet.of_level
  intro entry hentry
  obtain ⟨token, -, rfl⟩ := List.mem_map.mp hentry
  exact .inl rfl

theorem quiet_parseReport (lexer : Lexer) (failure : Option Parser.Failure) :
    Log.Quiet (parseReport lexer failure) := by
  unfold parseReport
  apply Log.Quiet.append
  . exact quiet_lexed _
  . split
    . exact Log.quiet_singleton (.inl rfl)
    . exact Log.quiet_nil

theorem quiet_report (outcome : Outcome) : Log.Quiet (report outcome) := by
  unfold report
  split
  . split
    . exact Log.Quiet.append (Log.quiet_singleton (.inl rfl)) (Log.quiet_singleton (.inr rfl))
    . exact Log.quiet_nil
  . exact Log.quiet_singleton (.inl rfl)
  . exact Log.quiet_nil

theorem quiet_log (limit : Nat) (source : Source) : Log.Quiet (ofSource limit source).log := by
  unfold ofSource
  split
  . exact (quiet_parseReport _ _).append (quiet_report _)
  . exact (quiet_parseReport _ _).append (quiet_report _)

end Run

end ParenCalc
