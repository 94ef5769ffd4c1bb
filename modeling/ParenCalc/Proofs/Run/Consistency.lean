import ParenCalc.Proofs.Run.Outcome

namespace ParenCalc

theorem Digit.ofInt_val (d : Digit) : Digit.ofInt d.val = .ok d := by
  unfold ofInt
  rw [dif_pos (by omega)]
  rfl

theorem Operator.ofText_symbol (op : Operator) : ofText (String.singleton op.symbol) = .ok op := by
  unfold ofText
  simp

namespace Token

structure Readable (token : Token) : Prop where
  digit : token.kind = .digit → ∃ (d : Digit) (n : Nat),
    token.text = toString n ∧ Digit.ofInt n = .ok d ∧ Parser.digit? token = some d
  operator : token.kind = .plus ∨ token.kind = .star → ∃ op : Operator,
    Operator.ofText token.text = .ok op ∧ Parser.operator? token = some op

theorem readable_endOfInput (position : Position) : Readable (endOfInput position) where
  digit h := by cases h
  operator h := by rcases h with h | h <;> cases h

theorem readable_ofChar (c : Char) (position : Position) : Readable (ofChar c position) where
  digit h := by
    obtain ⟨d, rfl⟩ := Digit.isDigit_iff.mp (Kind.ofChar_eq_digit_iff.mp h)
    refine ⟨d, d.val, ?_, Digit.ofInt_val d, ?_⟩
    . rw [Tree.toString_digit]
      rfl
    . unfold Parser.digit?
      rw [h]
      simp [ofChar]
  operator h := by
    rcases h with h | h
    . obtain rfl := (Kind.ofChar_eq_iff rfl).mp h
      exact ⟨.add, Operator.ofText_symbol .add, rfl⟩
    . obtain rfl := (Kind.ofChar_eq_iff rfl).mp h
      exact ⟨.multiply, Operator.ofText_symbol .multiply, rfl⟩

theorem readable_ofChar? (c : Option Char) (position : Position) :
    Readable (ofChar? c position) := by
  cases c with
  | none => exact readable_endOfInput position
  | some c => exact readable_ofChar c position

end Token

namespace Lexer

def ReadsTokens (lexer : Lexer) : Prop :=
  ∀ token ∈ lexer.lexed, token.Readable

theorem ReadsTokens.advance {lexer : Lexer} (h : lexer.ReadsTokens) :
    ReadsTokens (Parser.leftBehind (Lexer.advance lexer)) := by
  cases hadvance : Lexer.advance lexer with
  | ok token lexer' =>
    obtain ⟨passage, -, rfl, hlexer'⟩ := advance_eq_ok hadvance
    intro token htoken
    rw [Parser.leftBehind, hlexer'] at htoken
    rcases List.mem_cons.mp htoken with rfl | htoken
    . exact Token.readable_ofChar? _ _
    . exact h token htoken
  | error fault lexer' =>
    unfold Lexer.advance at hadvance
    split at hadvance
    . cases hadvance
      exact h
    . cases hadvance
    . cases hadvance

end Lexer

namespace Outcome

structure Succeeds (outcome : Outcome) (tree : Tree) (v : Nat) : Prop where
  success : outcome.success = true
  kept : outcome.tree? = some tree
  wellFormed : tree.WellFormed
  evaluated : tree.value = .ok v
  value : outcome.value? = some v
  message : outcome.message? = none

structure Fails (outcome : Outcome) (tree? : Option Tree) (start : String) : Prop where
  success : outcome.success = false
  kept : outcome.tree? = tree?
  value : outcome.value? = none
  message : ∃ text, outcome.message? = some (start ++ text)

theorem Fails.not_succeeds {outcome : Outcome} {tree? : Option Tree} {start : String}
    (h : outcome.Fails tree? start) : ¬ ∃ tree v, outcome.Succeeds tree v := by
  rintro ⟨tree, v, hsucceeds⟩
  have hsuccess := h.success
  rw [hsucceeds.success] at hsuccess
  cases hsuccess

theorem succeeds_finished {tree : Tree} {v : Nat} (h : tree.value = .ok v) :
    (finished tree v).Succeeds tree v where
  success := rfl
  kept := rfl
  wellFormed := Tree.wellFormed_of_value h
  evaluated := h
  value := rfl
  message := rfl

theorem fails_malformed (error : ParseError) : (malformed error).Fails none "Parse error: " where
  success := rfl
  kept := rfl
  value := rfl
  message := ⟨error.message, rfl⟩

theorem fails_undecodable (fault : Text.Utf8.Fault) :
    (undecodable fault).Fails none "Read error: " where
  success := rfl
  kept := rfl
  value := rfl
  message := ⟨fault.message, rfl⟩

theorem append_unsupported (kind : String) :
    "Evaluation error: " ++ ("Unsupported " ++ kind) =
      "Evaluation error: Unsupported " ++ kind := by
  apply String.toList_inj.mp
  simp

theorem fails_noValue {tree : Tree} {error : Tree.EvalError} (h : tree.value = .error error) :
    (noValue tree error).Fails (some tree) "Evaluation error: Unsupported " where
  success := rfl
  kept := rfl
  value := rfl
  message := by
    obtain ⟨kind, hmessage⟩ := Tree.message_of_value_eq_error h
    rw [message?, hmessage, append_unsupported]
    exact ⟨kind, rfl⟩

theorem ofTree_eq (tree : Tree) :
    ofTree tree =
      match tree.value with
      | .ok v => finished tree v
      | .error error => noValue tree error := by
  cases hvalue : tree.value with
  | ok v => simp only [ofTree, Tree.evaluate_eq_value, hvalue]
  | error error => simp only [ofTree, Tree.evaluate_eq_value, hvalue]

theorem ofTree_succeeds_or_fails (tree : Tree) :
    (∃ v, (ofTree tree).Succeeds tree v) ∨
      ¬ tree.WellFormed ∧ (ofTree tree).Fails (some tree) "Evaluation error: Unsupported " := by
  rw [ofTree_eq]
  cases hvalue : tree.value with
  | ok v => exact .inl ⟨v, succeeds_finished hvalue⟩
  | error error =>
    refine .inr ⟨?_, fails_noValue hvalue⟩
    intro hwellFormed
    obtain ⟨v, hok⟩ := hwellFormed.value_eq_ok
    rw [hvalue] at hok
    cases hok

end Outcome

namespace Run

theorem lexed_not_mem_report {outcome : Outcome} {token : Token} :
    .lexed token ∉ report outcome := by
  unfold report
  split
  . split <;> simp
  . simp
  . simp

theorem mem_lexed_of_parseReport {lexer : Lexer} {failure : Option Parser.Failure} {token : Token}
    (h : .lexed token ∈ parseReport lexer failure) : token ∈ lexer.lexed := by
  unfold parseReport at h
  split at h
  . simpa using h
  . simpa using h

theorem mem_lexed_of_log {limit : Nat} {source : Source} {token : Token}
    (h : .lexed token ∈ (ofSource limit source).log) :
    token ∈ (Parser.leftBehind ((Parser.topLevel limit).run { source })).lexed := by
  unfold ofSource at h
  unfold EStateM.run
  cases hrun : Parser.topLevel limit { source } with
  | ok e lexer =>
    rw [hrun] at h
    exact mem_lexed_of_parseReport ((List.mem_append.mp h).resolve_right lexed_not_mem_report)
  | error failure lexer =>
    rw [hrun] at h
    exact mem_lexed_of_parseReport ((List.mem_append.mp h).resolve_right lexed_not_mem_report)

theorem readable_of_mem_log {limit : Nat} {source : Source} {token : Token}
    (h : .lexed token ∈ (ofSource limit source).log) : token.Readable := by
  have hfresh : Lexer.ReadsTokens { source } := by
    intro token htoken
    cases htoken
  have hreads := (Parser.composed_topLevel limit).keeps (fun _ => Lexer.ReadsTokens.advance) hfresh
  exact hreads token (mem_lexed_of_log h)

theorem Reaches.succeeds_or_fails {fault : Option Text.Utf8.Fault} {outcome : Outcome}
    (h : Reaches fault outcome) :
    (∃ tree v, outcome.Succeeds tree v) ∨ outcome.Fails none "Parse error: " ∨
      fault.isSome ∧ outcome.Fails none "Read error: " := by
  cases h with
  | finished e => exact .inl ⟨_, _, Outcome.succeeds_finished (Tree.value_ofExpr e)⟩
  | malformed error => exact .inr (.inl (Outcome.fails_malformed error))
  | undecodable found hfault =>
    rw [hfault]
    exact .inr (.inr ⟨rfl, Outcome.fails_undecodable found⟩)

theorem Reaches.message_ne {fault : Option Text.Utf8.Fault} {outcome : Outcome}
    (h : Reaches fault outcome) (text : String) :
    outcome.message? ≠ some ("Evaluation error: " ++ text) := by
  intro hmessage
  cases h with
  | finished e => cases hmessage
  | malformed error =>
    have hchars := congrArg String.toList (Option.some.inj hmessage)
    simp at hchars
  | undecodable found =>
    have hchars := congrArg String.toList (Option.some.inj hmessage)
    simp at hchars

/--
A run either succeeds with a well-formed tree and its value, or fails with a message about the
program or, unless it is a text, about its bytes. A tree from elsewhere may fail to have a value,
and is kept.
-/
theorem outcome_consistent (limit : Nat) :
    (∀ source : Source,
      let outcome := (ofSource limit source).outcome
      ((∃ tree v, outcome.Succeeds tree v) ↔
        ¬ (outcome.Fails none "Parse error: " ∨ outcome.Fails none "Read error: ")) ∧
      (∀ text, outcome.message? ≠ some ("Evaluation error: " ++ text)) ∧
      (∀ token, .lexed token ∈ (ofSource limit source).log → token.Readable)) ∧
    (∀ text : String,
      let outcome := (ofString limit text).outcome
      (∃ tree v, outcome.Succeeds tree v) ↔ ¬ outcome.Fails none "Parse error: ") ∧
    (∀ tree : Tree, (∃ v, (Outcome.ofTree tree).Succeeds tree v) ∨
      ¬ tree.WellFormed ∧ (Outcome.ofTree tree).Fails (some tree)
        "Evaluation error: Unsupported ") := by
  refine ⟨?_, ?_, Outcome.ofTree_succeeds_or_fails⟩
  . intro source outcome
    have hreaches : Reaches source.content.fault outcome := reaches limit source
    refine ⟨?_, hreaches.message_ne, fun token => readable_of_mem_log⟩
    constructor
    . rintro hsucceeds (hfails | hfails)
      . exact hfails.not_succeeds hsucceeds
      . exact hfails.not_succeeds hsucceeds
    . intro hfails
      rcases hreaches.succeeds_or_fails with hsucceeds | hparse | ⟨-, hread⟩
      . exact hsucceeds
      . exact absurd (.inl hparse) hfails
      . exact absurd (.inr hread) hfails
  . intro text outcome
    have hreaches : Reaches none outcome := reaches_ofText limit text.toList
    constructor
    . intro hsucceeds hfails
      exact hfails.not_succeeds hsucceeds
    . intro hfails
      rcases hreaches.succeeds_or_fails with hsucceeds | hparse | ⟨hfault, -⟩
      . exact hsucceeds
      . exact absurd hparse hfails
      . cases hfault

theorem outcome_consistent_unfinished :
    .lexed (.ofChar '1' ⟨1, 1⟩) ∈ (ofString 20 "(1+").log ∧ Token.Readable (.ofChar '1' ⟨1, 1⟩) ∧
      ¬ (∃ tree v, (ofString 20 "(1+").outcome.Succeeds tree v) := by
  obtain ⟨hsource, htext, -⟩ := outcome_consistent 20
  have hmem : .lexed (.ofChar '1' ⟨1, 1⟩) ∈ (ofString 20 "(1+").log := .tail _ (.head _)
  have hfails : (ofString 20 "(1+").outcome.Fails none "Parse error: " := Outcome.fails_malformed _
  have hreadable := (hsource (.ofString "(1+")).2.2 _ hmem
  exact ⟨hmem, hreadable, fun hsucceeds => (htext "(1+").mp hsucceeds hfails⟩

end Run

end ParenCalc
