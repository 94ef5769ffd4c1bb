import ParenCalc.Expr.Derivation

namespace ParenCalc

theorem Digit.toChar_ne_parenthesis (d : Digit) : d.toChar ≠ '(' ∧ d.toChar ≠ ')' := by
  revert d
  decide

theorem Digit.toChar_ne_symbol (d : Digit) (op : Operator) : d.toChar ≠ op.symbol := by
  revert d
  cases op <;> decide

theorem Digit.ofChar?_eq_some_iff {c : Char} {d : Digit} : ofChar? c = some d ↔ c = d.toChar := by
  constructor
  . intro h
    unfold ofChar? at h
    split at h
    . next hdigit =>
      simp only [Option.some.injEq] at h
      have hlow : 48 ≤ c.toNat := by
        simp only [Char.isDigit, Bool.and_eq_true, decide_eq_true_eq] at hdigit
        exact UInt32.le_iff_toNat_le.mp hdigit.1
      rw [← h]
      unfold toChar
      rw [show 48 + (c.toNat - 48) = c.toNat by omega, Char.ofNat_toNat]
    . simp at h
  . rintro rfl
    exact ofChar?_toChar d

theorem Digit.ofChar?_eq_none_iff {c : Char} : ofChar? c = none ↔ ¬ c.isDigit = true := by
  simp [ofChar?]

theorem Digit.isDigit_iff {c : Char} : c.isDigit = true ↔ ∃ d : Digit, c = d.toChar := by
  simp only [← ofChar?_eq_some_iff]
  rw [← Option.isSome_iff_exists, Option.isSome_iff_ne_none, ne_eq, ofChar?_eq_none_iff,
    Decidable.not_not]

theorem Operator.symbol_ne_parenthesis (op : Operator) : op.symbol ≠ '(' ∧ op.symbol ≠ ')' := by
  cases op <;> decide

namespace Expr

theorem derives_iff {w : List Char} {e : Expr} : Derives w e ↔ w = e.render := by
  constructor
  . intro h
    induction h with
    | digit c d h => rw [Digit.ofChar?_eq_some_iff.mp h, render]
    | binary left right c l r op hl hop hr ihl ihr =>
      rw [ihl, ihr, Operator.ofSymbol?_eq_some_iff.mp hop, render]
  . rintro rfl
    exact derives_render e

theorem sentence_iff {w : List Char} : Sentence w ↔ ∃ e : Expr, w = e.render := by
  simp only [Sentence, derives_iff]

theorem sentence_render (e : Expr) : Sentence e.render :=
  ⟨e, derives_render e⟩

theorem viable_iff {w : List Char} :
    Viable w ↔ ∃ (e : Expr) (rest : List Char), e.render = w ++ rest := by
  simp only [Viable, sentence_iff]
  constructor
  . rintro ⟨rest, e, h⟩
    exact ⟨e, rest, h.symm⟩
  . rintro ⟨e, rest, h⟩
    exact ⟨rest, e, h.symm⟩

theorem render_binary_append (left right : Expr) (op : Operator) (rest : List Char) :
    (binary left op right).render ++ rest =
      '(' :: (left.render ++ op.symbol :: (right.render ++ ')' :: rest)) := by
  simp [render]

theorem exists_binary_of_render {e : Expr} {v w : List Char} (h : e.render ++ v = '(' :: w) :
    ∃ left op right, e = binary left op right ∧
      left.render ++ op.symbol :: (right.render ++ ')' :: v) = w := by
  cases e with
  | digit d =>
    simp only [render, List.cons_append, List.cons.injEq] at h
    exact absurd h.1 d.toChar_ne_parenthesis.1
  | binary left op right =>
    rw [render_binary_append] at h
    exact ⟨left, op, right, rfl, (List.cons.inj h).2⟩

theorem render_append_inj {a b : Expr} {x y : List Char} (h : a.render ++ x = b.render ++ y) :
    a = b ∧ x = y := by
  induction a generalizing b x y with
  | digit d =>
    cases b with
    | digit d' =>
      simp only [render, List.cons_append, List.nil_append, List.cons.injEq] at h
      rw [Digit.toChar_injective h.1, h.2]
      exact ⟨rfl, rfl⟩
    | binary left op right =>
      rw [render_binary_append] at h
      simp only [render, List.cons_append, List.cons.injEq] at h
      exact absurd h.1 d.toChar_ne_parenthesis.1
  | binary left op right ihl ihr =>
    rw [render_binary_append] at h
    obtain ⟨left', op', right', rfl, hoperation⟩ := exists_binary_of_render h.symm
    -- The left operands end together, and then so do the right ones.
    obtain ⟨hleft, hmiddle⟩ := ihl hoperation.symm
    obtain ⟨hop, hright⟩ := List.cons.inj hmiddle
    obtain ⟨hright, hrest⟩ := ihr hright
    rw [hleft, Operator.symbol_injective hop, hright]
    exact ⟨rfl, (List.cons.inj hrest).2⟩

def alphabet : List Char :=
  "0123456789+*()".toList

theorem mem_alphabet_of_mem_render {e : Expr} {c : Char} (h : c ∈ e.render) : c ∈ alphabet := by
  induction e with
  | digit d =>
    have hdigits : ∀ d : Digit, d.toChar ∈ alphabet := by decide
    rw [List.mem_singleton.mp h]
    exact hdigits d
  | binary left op right ihl ihr =>
    simp only [render, List.cons_append, List.mem_cons, List.mem_append, List.not_mem_nil,
      or_false] at h
    rcases h with rfl | (hleft | rfl | hright) | rfl
    . decide
    . exact ihl hleft
    . cases op <;> decide
    . exact ihr hright
    . decide

theorem all_render {p : Char → Bool} (h : alphabet.all p = true) (e : Expr) :
    ∀ c ∈ e.render, p c = true :=
  fun c hc => List.all_eq_true.mp h c (mem_alphabet_of_mem_render hc)

theorem ne_of_mem_render {symbol : Char} (h : symbol ∉ alphabet) (e : Expr) :
    ∀ c ∈ e.render, c ≠ symbol :=
  fun _ hc hsymbol => h (hsymbol ▸ mem_alphabet_of_mem_render hc)

theorem render_ne_nil (e : Expr) : e.render ≠ [] := by
  cases e <;> simp [render]

theorem openParentheses_cons (c : Char) (w : List Char) :
    openParentheses (c :: w) =
      (if c = '(' then 1 else if c = ')' then -1 else 0) + openParentheses w := by
  -- Where the count starts makes no difference to what is added to it.
  have hfold (n : Int) :
      w.foldl (fun n c => if c = '(' then n + 1 else if c = ')' then n - 1 else n) n =
        n + openParentheses w := by
    unfold openParentheses
    induction w generalizing n with
    | nil => simp
    | cons c w ih =>
      simp only [List.foldl_cons]
      rw [ih, ih (if c = '(' then 0 + 1 else if c = ')' then 0 - 1 else 0)]
      split
      . omega
      . split <;> omega
  rw [openParentheses, List.foldl_cons, hfold]
  simp

@[simp]
theorem openParentheses_nil : openParentheses [] = 0 := rfl

@[simp]
theorem openParentheses_append (v w : List Char) :
    openParentheses (v ++ w) = openParentheses v + openParentheses w := by
  induction v with
  | nil => simp
  | cons c v ih =>
    rw [List.cons_append, openParentheses_cons, openParentheses_cons, ih]
    omega

@[simp]
theorem openParentheses_left (w : List Char) :
    openParentheses ('(' :: w) = openParentheses w + 1 := by
  rw [openParentheses_cons]
  simp [Int.add_comm]

@[simp]
theorem openParentheses_right (w : List Char) :
    openParentheses (')' :: w) = openParentheses w - 1 := by
  rw [openParentheses_cons]
  simp
  omega

@[simp]
theorem openParentheses_digit (d : Digit) (w : List Char) :
    openParentheses (d.toChar :: w) = openParentheses w := by
  rw [openParentheses_cons]
  simp [d.toChar_ne_parenthesis]

@[simp]
theorem openParentheses_symbol (op : Operator) (w : List Char) :
    openParentheses (op.symbol :: w) = openParentheses w := by
  rw [openParentheses_cons]
  simp [op.symbol_ne_parenthesis]

@[simp]
theorem openParentheses_render (e : Expr) : openParentheses e.render = 0 := by
  induction e with
  | digit d => simp [render]
  | binary left op right ihl ihr => simp [render, ihl, ihr]

theorem openParentheses_le_length (w : List Char) : openParentheses w ≤ w.length := by
  induction w with
  | nil => simp
  | cons c w ih =>
    rw [openParentheses_cons, List.length_cons]
    split
    . omega
    . split <;> omega

end Expr

end ParenCalc
