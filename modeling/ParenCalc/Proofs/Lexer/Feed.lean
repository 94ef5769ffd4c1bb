import ParenCalc.Lexer.Listing

/-!
This module contains lexers that never fail: a feed is the sequence of the states that a lexer goes
through, one token after another, where the tokens are the characters of a text without spaces, and
then its end over and over. The lexer of a text is one.
-/

namespace ParenCalc

namespace Token

def Kind.symbol? : Kind → Option Char
  | .plus => some '+'
  | .star => some '*'
  | .leftParenthesis => some '('
  | .rightParenthesis => some ')'
  | _ => none

theorem Kind.ofChar_eq_digit_iff {c : Char} : ofChar c = .digit ↔ c.isDigit = true := by
  unfold ofChar
  constructor
  . intro h
    split at h
    . assumption
    . repeat' split at h
      all_goals cases h
  . intro h
    rw [if_pos h]

theorem Kind.ofChar_eq_iff {kind : Kind} {symbol c : Char} (hkind : kind.symbol? = some symbol) :
    ofChar c = kind ↔ c = symbol := by
  cases kind <;> simp only [symbol?, Option.some.injEq, reduceCtorEq] at hkind
  all_goals
    subst hkind
    constructor
    . intro h
      unfold ofChar at h
      repeat' split at h
      all_goals first | assumption | cases h
    . rintro rfl
      rfl

theorem kind_ofChar?_eq_endOfInput_iff {c : Option Char} {position : Position} :
    (ofChar? c position).kind = .endOfInput ↔ c = none := by
  cases c with
  | none => simp [ofChar?, endOfInput]
  | some c => simp [ofChar?, ofChar]

@[simp]
theorem position_ofChar? (c : Option Char) (position : Position) :
    (ofChar? c position).position = position := by
  cases c <;> rfl

end Token

namespace Lexer

variable {w : List Char} {position : Nat → Position} {state : Nat → Lexer}

def tokenAt (w : List Char) (position : Nat → Position) (index : Nat) : Token :=
  .ofChar? w[index]? (position index)

/--
`state n` is a lexer that started afresh and has read `n` tokens.
-/
structure Feed (w : List Char) (position : Nat → Position) (state : Nat → Lexer) : Prop where
  current : (state 0).current = none
  advance : ∀ n, Lexer.advance (state n) = .ok (tokenAt w position n) (state (n + 1))

theorem current_of_advance {lexer lexer' : Lexer} {token : Token}
    (h : advance lexer = .ok token lexer') : lexer'.current = some token := by
  unfold advance at h
  split at h
  . simp at h
  all_goals
    simp only [EStateM.Result.ok.injEq] at h
    rw [← h.1, ← h.2]
    rfl

theorem peek_of_none {lexer : Lexer} (h : lexer.current = none) : peek lexer = advance lexer := by
  unfold peek
  rw [h]

theorem peek_of_some {lexer : Lexer} {token : Token} (h : lexer.current = some token) :
    peek lexer = .ok token lexer := by
  unfold peek
  rw [h]

section Tokens

variable {lexer lexer' : Lexer} {token : Token} {fault : Text.Utf8.Fault}

theorem tokens.go_of_error (h : advance lexer = .error fault lexer') (listed : List Token) :
    tokens.go lexer listed = (⟨listed.reverse, some fault⟩, lexer') := by
  unfold tokens.go
  split
  . next hadvance =>
    cases h.symm.trans hadvance
    rfl
  . next hadvance => cases h.symm.trans hadvance

theorem tokens.go_of_ok (h : advance lexer = .ok token lexer') (listed : List Token) :
    tokens.go lexer listed =
      if token.kind = .endOfInput then (⟨(token :: listed).reverse, none⟩, lexer')
      else tokens.go lexer' (token :: listed) := by
  conv => lhs; unfold tokens.go
  split
  . next hadvance => cases h.symm.trans hadvance
  . next hadvance =>
    cases h.symm.trans hadvance
    rfl

theorem tokens_eq_go (h : lexer.current = none) : lexer.tokens = tokens.go lexer [] := by
  unfold tokens
  rw [peek_of_none h]
  cases hadvance : advance lexer with
  | error fault lexer' => rw [tokens.go_of_error hadvance]; rfl
  | ok token lexer' => rw [tokens.go_of_ok hadvance]; rfl

end Tokens

theorem kind_tokenAt_eq_endOfInput_iff {n : Nat} :
    (tokenAt w position n).kind = .endOfInput ↔ w.length ≤ n := by
  unfold tokenAt
  rw [Token.kind_ofChar?_eq_endOfInput_iff, List.getElem?_eq_none_iff]

theorem kind_tokenAt_eq_iff (kind : Token.Kind) {symbol : Char}
    (hkind : kind.symbol? = some symbol) {n : Nat} :
    (tokenAt w position n).kind = kind ↔ w[n]? = some symbol := by
  unfold tokenAt
  cases w[n]? with
  | none => cases kind <;> simp_all [Token.Kind.symbol?, Token.ofChar?, Token.endOfInput]
  | some c =>
    rw [Option.some.injEq]
    exact Token.Kind.ofChar_eq_iff hkind

theorem kind_tokenAt_eq_digit_iff {n : Nat} :
    (tokenAt w position n).kind = .digit ↔ ∃ c, w[n]? = some c ∧ c.isDigit = true := by
  unfold tokenAt
  cases w[n]? with
  | none => simp [Token.ofChar?, Token.endOfInput]
  | some c => simp [Token.ofChar?, Token.ofChar, Token.Kind.ofChar_eq_digit_iff]

namespace Feed

theorem current_succ (feed : Feed w position state) (n : Nat) :
    (state (n + 1)).current = some (tokenAt w position n) :=
  current_of_advance (feed.advance n)

theorem peek_zero (feed : Feed w position state) :
    peek (state 0) = .ok (tokenAt w position 0) (state 1) := by
  rw [peek_of_none feed.current]
  exact feed.advance 0

theorem peek_succ (feed : Feed w position state) (n : Nat) :
    peek (state (n + 1)) = .ok (tokenAt w position n) (state (n + 1)) :=
  peek_of_some (feed.current_succ n)

theorem tokens_go (feed : Feed w position state) (n k : Nat) (h : n + k = w.length)
    (listed : List Token) :
    tokens.go (state n) listed =
      (⟨listed.reverse ++ (List.range' n (k + 1)).map (tokenAt w position), none⟩,
        state (n + k + 1)) := by
  -- The end of the input is `k` tokens ahead.
  induction k generalizing n listed with
  | zero =>
    rw [tokens.go_of_ok (feed.advance n), if_pos (kind_tokenAt_eq_endOfInput_iff.mpr (by omega))]
    simp
  | succ k ih =>
    rw [tokens.go_of_ok (feed.advance n), if_neg (by rw [kind_tokenAt_eq_endOfInput_iff]; omega),
      ih (n + 1) (by omega), List.range'_succ (n := k + 1),
      show n + 1 + k + 1 = n + (k + 1) + 1 by omega]
    simp

theorem tokens_eq (feed : Feed w position state) :
    (state 0).tokens =
      (⟨(List.range (w.length + 1)).map (tokenAt w position), none⟩, state (w.length + 1)) := by
  rw [tokens_eq_go feed.current, feed.tokens_go 0 w.length (Nat.zero_add _), List.range_eq_range',
    Nat.zero_add]
  rfl

end Feed

end Lexer

end ParenCalc
