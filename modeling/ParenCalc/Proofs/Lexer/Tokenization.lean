import ParenCalc.Proofs.Lexer.OfText

namespace ParenCalc

namespace Lexer

theorem tokenize_eq (text : String) :
    tokenize text = (List.range ((unspaced text.toList).length + 1)).map
      (tokenAt (unspaced text.toList) (positionAt text.toList)) := by
  unfold tokenize
  rw [show ofString text = stateAt text.toList 0 from rfl, (feed_stateAt text.toList).tokens_eq]

def nthToken (text : String) (index : Nat) : Option Token :=
  (tokenize text)[min index ((tokenize text).length - 1)]?

theorem ahead_eq_nil {text : List Char} {n : Nat} (h : (unspaced text).length ≤ n) :
    ahead text n = [] := by
  rw [← List.head?_eq_none_iff, head?_ahead, List.getElem?_eq_none_iff]
  exact h

theorem passed_eq_self {text : List Char} {n : Nat} (h : (unspaced text).length ≤ n) :
    passed text n = text := by
  have htext := passed_append_ahead text n
  rwa [ahead_eq_nil h, List.append_nil] at htext

theorem tokenAt_min (text : List Char) (n : Nat) :
    tokenAt (unspaced text) (positionAt text) (min n (unspaced text).length) =
      tokenAt (unspaced text) (positionAt text) n := by
  by_cases h : n ≤ (unspaced text).length
  . rw [Nat.min_eq_left h]
  . rw [Nat.min_eq_right (by omega)]
    unfold tokenAt positionAt
    rw [passed_eq_self (Nat.le_refl _), passed_eq_self (n := n) (by omega),
      List.getElem?_eq_none (Nat.le_refl _), List.getElem?_eq_none (i := n) (by omega)]

theorem nthToken_eq (text : String) (index : Nat) :
    nthToken text index = some (tokenAt (unspaced text.toList) (positionAt text.toList) index) := by
  unfold nthToken
  rw [tokenize_eq, List.length_map, List.length_range, Nat.add_sub_cancel, List.getElem?_map,
    List.getElem?_range (by omega), Option.map_some, tokenAt_min]

theorem texts_tokenize (text : String) :
    (tokenize text).map (·.text) = (unspaced text.toList).map String.singleton ++ ["#"] := by
  rw [tokenize_eq, List.map_map, List.range_succ, List.map_append]
  congr 1
  . apply List.ext_getElem
    . simp
    . intro n hn hn'
      simp only [List.length_map, List.length_range] at hn hn'
      simp [tokenAt, Token.ofChar?, Token.ofChar, hn]
  . simp [tokenAt, Token.ofChar?, Token.endOfInput]

theorem join_singletons (w : List Char) :
    String.join (w.map String.singleton) = String.ofList w := by
  induction w with
  | nil => rfl
  | cons c w ih =>
    rw [List.map_cons, String.join_cons, ih, ← String.toList_inj]
    simp

def spelled (text : String) (index count : Nat) : String :=
  String.join ((((tokenize text).drop index).take count).map (·.text))

theorem spelled_eq {text : String} {index : Nat} {v rest : List Char}
    (h : (unspaced text.toList).drop index = v ++ rest) :
    spelled text index v.length = String.ofList v := by
  unfold spelled
  rw [List.map_take, List.map_drop, texts_tokenize, List.drop_append, ← List.map_drop, h,
    List.map_append, List.append_assoc, List.take_left' (by rw [List.length_map]), join_singletons]

end Lexer

end ParenCalc
