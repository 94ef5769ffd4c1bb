import ParenCalc.Proofs.Expr.Unfinished

/-!
This module contains the search for an expression at the start of some characters, in terms of the
grammar alone: an expression stands there, or nothing that could be the start of one, or the search
ends at the first character that no sentence goes on with.
-/

namespace ParenCalc

namespace Parser

open ParenCalc.Expr

/--
`Finds limit w result count` states that the search for an expression at the start of `w` ends with
`result` after `count` characters.
-/
inductive Finds (limit : Nat) (w : List Char) :
    Except ParseError.Reason (Option Expr) → (count : Nat) → Prop
  | expression (e : Expr) (rest : List Char) (hw : w = e.render ++ rest)
      (hlimit : e.nesting ≤ limit) :
      Finds limit w (.ok (some e)) e.render.length
  | nothing (hw : ∀ c ∈ w.head?, ¬ Gap.expression.Admits c) : Finds limit w (.ok none) 0
  | gap (depth : Nat) (outer inner rest : List Char) (gap : Gap)
      (hw : w = outer ++ '(' :: inner ++ rest) (hlimit : depth < limit)
      (houter : Enclosing depth outer) (hinner : Awaits inner gap)
      (hrest : ∀ c ∈ rest.head?, ¬ gap.Admits c) :
      Finds limit w (.error gap.reason) (outer ++ '(' :: inner).length
  | tooDeep (outer rest : List Char) (hw : w = outer ++ '(' :: rest)
      (houter : Enclosing limit outer) :
      Finds limit w (.error .nestedTooDeeply) (outer ++ ['(']).length

theorem Finds.enclose {limit count : Nat} {v inner : List Char} {reason : ParseError.Reason}
    (h : Finds limit v (.error reason) count) (hinner : Awaits inner .expression) :
    Finds (limit + 1) ('(' :: inner ++ v) (.error reason) (count + inner.length + 1) := by
  cases h with
  | gap depth outer inner' rest gap hw hlimit houter hinner' hrest =>
    have hcount : (outer ++ '(' :: inner').length + inner.length + 1 =
        ('(' :: inner ++ outer ++ '(' :: inner').length := by
      simp only [List.length_append, List.length_cons]
      omega
    -- The operation that the search stopped in is one level further inside.
    rw [hcount]
    exact .gap (depth + 1) ('(' :: inner ++ outer) inner' rest gap (by simp [hw]) (by omega)
      (.cons depth inner outer hinner houter) hinner' hrest
  | tooDeep outer rest hw houter =>
    have hcount : (outer ++ ['(']).length + inner.length + 1 =
        ('(' :: inner ++ outer ++ ['(']).length := by
      simp only [List.length_append, List.length_cons]
      omega
    rw [hcount]
    exact .tooDeep ('(' :: inner ++ outer) rest (by simp [hw])
      (.cons limit inner outer hinner houter)

variable {limit count : Nat} {w : List Char} {result : Except ParseError.Reason (Option Expr)}

theorem Finds.of_render {e : Expr} {rest : List Char} (h : Finds limit w result count)
    (hw : w = e.render ++ rest) :
    (e.nesting ≤ limit ∧ result = .ok (some e)) ∨
      (limit < e.nesting ∧ result = .error .nestedTooDeeply) := by
  cases h with
  | expression e' rest' hw' hlimit =>
    obtain ⟨rfl, -⟩ := render_append_inj (hw'.symm.trans hw)
    exact .inl ⟨hlimit, rfl⟩
  | nothing hnone =>
    obtain ⟨c, hc, hadmits⟩ := exists_admits_render e rest
    exact absurd hadmits (hnone c (hw ▸ hc))
  | gap depth outer inner rest' gap hw' hlimit houter hinner hrest =>
    rw [List.append_assoc] at hw'
    obtain ⟨e', tail, he', -⟩ := houter.continues (hw.symm.trans hw')
    obtain ⟨c, hc, hadmits⟩ := hinner.admits he'.symm
    exact absurd hadmits (hrest c hc)
  | tooDeep outer rest' hw' houter =>
    obtain ⟨e', tail, he', hnesting⟩ := houter.continues (hw.symm.trans hw')
    obtain ⟨left, op, right, rfl, -⟩ := exists_binary_of_render he'.symm
    simp only [nesting] at hnesting
    exact .inr ⟨by omega, rfl⟩

theorem Finds.not_nestsWithin (h : Finds limit w result count)
    (hresult : result = .error .nestedTooDeeply) : ¬ NestsWithin limit w := by
  intro hnests
  cases h with
  | expression | nothing => cases hresult
  | gap depth outer inner rest gap => cases gap <;> cases hresult
  | tooDeep outer rest hw houter =>
    have hopen := hnests (outer ++ ['(']) ⟨rest, by simp [hw]⟩ (houter.viable Awaits.start.viable)
    rw [openParentheses_append, houter.openParentheses, openParentheses_left] at hopen
    simp only [openParentheses_nil] at hopen
    omega

theorem Finds.expression_iff (h : Finds limit w result count) (hnests : NestsWithin limit w)
    {e : Expr} : result = .ok (some e) ↔ ∃ rest, w = e.render ++ rest := by
  constructor
  . rintro rfl
    cases h with
    | expression e rest hw hlimit => exact ⟨rest, hw⟩
  . rintro ⟨rest, hw⟩
    rcases h.of_render hw with ⟨-, hresult⟩ | ⟨-, hresult⟩
    . exact hresult
    . exact absurd hnests (h.not_nestsWithin hresult)

theorem Finds.nothing_iff (h : Finds limit w result count) :
    result = .ok none ↔ ∀ c ∈ w.head?, ¬ Gap.expression.Admits c := by
  constructor
  . rintro rfl
    cases h with
    | nothing hnone => exact hnone
  . intro hnone
    cases h with
    | expression e rest hw hlimit =>
      obtain ⟨c, hc, hadmits⟩ := exists_admits_render e rest
      exact absurd hadmits (hnone c (hw ▸ hc))
    | nothing => rfl
    | gap depth outer inner rest gap hw hlimit houter =>
      rw [hw, List.append_assoc, List.cons_append, houter.head?_append] at hnone
      exact absurd (.inr rfl) (hnone '(' rfl)
    | tooDeep outer rest hw houter =>
      rw [hw, houter.head?_append] at hnone
      exact absurd (.inr rfl) (hnone '(' rfl)

end Parser

end ParenCalc
