import ParenCalc.Proofs.Run.Outcome

/-!
This module contains where the run of a program stops, and what it leaves of its input: all that
stands behind the token that it stops at.
-/

namespace ParenCalc

namespace Run

open ParenCalc.Expr ParenCalc.Parser Lexer

def remainder (limit : Nat) (text : List Char) : List Char :=
  (ofSource limit (.ofText text)).source.pending

theorem remainder_eq {limit : Nat} {text : List Char} {count : Nat}
    (h : (ofSource limit (.ofText text)).source = .ofText (behind text (count + 1))) :
    remainder limit text = (ahead text count).tail := by
  unfold remainder
  rw [h]
  rfl

/--
`Stops text outcome token rest` states that `token`, behind which only `rest` is left, is where a
program in front of `text` ends with `outcome`: it is the first token behind the expression, or the
token that the error is reported at, which is the first one of all where no expression starts.
-/
inductive Stops : (text : List Char) → Outcome → Token → (rest : List Char) → Prop
  | finished (e : Expr) (passed ahead : List Char) (hpassed : unspaced passed = e.render)
      (hahead : ∀ c ∈ ahead.head?, isSpace c = false) :
      Stops (passed ++ ahead) (.finished (.ofExpr e) e.value)
        (.ofChar? ahead.head? (Position.after {} passed))
        ahead.tail
  | malformed (error : ParseError) (passed ahead : List Char)
      (hposition : error.position = Position.after {} passed)
      (hnothing : error.reason = .noExpression → unspaced passed = [])
      (hahead : ∀ c ∈ ahead.head?, isSpace c = false) :
      Stops (passed ++ ahead) (.malformed error) (.ofChar? ahead.head? (Position.after {} passed))
        ahead.tail

theorem stops_ofText (limit : Nat) (text : List Char) :
    ∃ token, stop limit (.ofText text) = some token ∧
      Stops text (ofSource limit (.ofText text)).outcome token (remainder limit text) := by
  obtain ⟨result, count, hfinds, houtcome, hsource, hstop⟩ := searches_ofText limit text
  refine ⟨_, hstop, ?_⟩
  have hahead : ∀ c ∈ (ahead text count).head?, isSpace c = false :=
    fun c => isSpace_of_mem_head?_ahead
  have hpassed := unspaced_passed text count
  have hstops : Stops (passed text count ++ ahead text count)
      (ofSource limit (.ofText text)).outcome
      (.ofChar? (ahead text count).head? (positionAt text count)) (ahead text count).tail := by
    rw [houtcome]
    cases hfinds with
    | expression e rest hw =>
      rw [hw, List.take_left] at hpassed
      exact .finished e _ _ hpassed hahead
    | nothing => exact .malformed _ _ _ rfl (fun _ => hpassed) hahead
    | gap depth outer inner rest gap =>
      refine .malformed ⟨gap.reason, _⟩ _ _ rfl ?_ hahead
      intro hreason
      cases gap <;> cases hreason
    | tooDeep => exact .malformed ⟨.nestedTooDeeply, _⟩ _ _ rfl nofun hahead
  rw [passed_append_ahead, head?_ahead] at hstops
  rw [remainder_eq hsource]
  exact hstops

/--
An input is run like the text that it holds, unless the run comes to the end of the text and what
stands behind it there cannot be decoded.
-/
theorem run_of_content {source : Source} {text : List Char} {fault : Option Text.Utf8.Fault}
    (limit : Nat) (h : source.content = ⟨text, fault⟩) :
    ((ofSource limit source).outcome = (ofSource limit (.ofText text)).outcome ∧
      stop limit source = stop limit (.ofText text) ∧
      (ofSource limit source).source.content = ⟨remainder limit text, fault⟩) ∨
    ∃ found token, fault = some found ∧ (ofSource limit source).outcome = .undecodable found ∧
      stop limit (.ofText text) = some token ∧ token.kind = .endOfInput := by
  have hmirrors := (composed_topLevel limit).mirrors { source }
  unfold Lexer.decoded at hmirrors
  simp only [h, EStateM.run] at hmirrors
  unfold remainder stop ofSource EStateM.run
  generalize topLevel limit { source } = run at hmirrors
  generalize topLevel limit { source := .ofText text } = run' at hmirrors
  cases hmirrors with
  | ok e lexer hfault => exact .inl ⟨rfl, rfl, by rw [← hfault]; rfl⟩
  | malformed error lexer hfault => exact .inl ⟨rfl, rfl, by rw [← hfault]; rfl⟩
  | undecodable found lexer text hfault hended =>
    obtain ⟨token, htoken, hkind⟩ := hended.current
    exact .inr ⟨found, token, hfault, rfl, htoken, hkind⟩

theorem run_of_content_none {source : Source} {text : List Char} (limit : Nat)
    (h : source.content = ⟨text, none⟩) :
    (ofSource limit source).outcome = (ofSource limit (.ofText text)).outcome ∧
      stop limit source = stop limit (.ofText text) ∧
      (ofSource limit source).source.content = ⟨remainder limit text, none⟩ := by
  rcases run_of_content limit h with hrun | ⟨found, _, hfault, -⟩
  . exact hrun
  . cases hfault

theorem exists_render_of_finished {limit : Nat} {source : Source} {e : Expr} {v : Nat}
    (h : (ofSource limit source).outcome = .finished (.ofExpr e) v) :
    ∃ rest, unspaced source.content.text = e.render ++ rest ∧ e.nesting ≤ limit := by
  have hcontent : source.content = ⟨source.content.text, source.content.fault⟩ := rfl
  rcases run_of_content limit hcontent with ⟨hsame, -⟩ | ⟨found, -, -, houtcome, -⟩
  . obtain ⟨result, count, hfinds, houtcome, -⟩ := searches_ofText limit source.content.text
    rw [hsame, houtcome] at h
    cases hfinds with
    | expression e' rest hw hlimit =>
      have htree := (Outcome.finished.inj h).1
      rw [← Tree.ofExpr_injective htree]
      exact ⟨rest, hw, hlimit⟩
    | nothing | gap | tooDeep => cases h
  . rw [houtcome] at h
    cases h

end Run

end ParenCalc
