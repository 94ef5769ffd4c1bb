import Mathlib.Data.List.Forall2
import ParenCalc.Proofs.Lexer.Tokenization
import ParenCalc.Proofs.Position

namespace ParenCalc

namespace Token

structure Shows (before : List Char) (c : Char) (token : Token) : Prop where
  text : token.text = String.singleton c
  digit : token.kind = .digit ↔ '0' ≤ c ∧ c ≤ '9'
  plus : token.kind = .plus ↔ c = '+'
  star : token.kind = .star ↔ c = '*'
  leftParenthesis : token.kind = .leftParenthesis ↔ c = '('
  rightParenthesis : token.kind = .rightParenthesis ↔ c = ')'
  unknown : token.kind = .unknown ↔ ¬ ('0' ≤ c ∧ c ≤ '9') ∧ c ∉ ['+', '*', '(', ')']
  position : Position.Marks before token.position

theorem Kind.ofChar_eq_unknown_iff {c : Char} :
    ofChar c = .unknown ↔ ¬ c.isDigit = true ∧ c ∉ ['+', '*', '(', ')'] := by
  unfold ofChar
  repeat' split
  all_goals simp_all

theorem shows_ofChar (before : List Char) (c : Char) :
    Shows before c (ofChar c (Position.after {} before)) where
  text := rfl
  digit := Kind.ofChar_eq_digit_iff.trans Lexer.isDigit_iff_range
  plus := Kind.ofChar_eq_iff rfl
  star := Kind.ofChar_eq_iff rfl
  leftParenthesis := Kind.ofChar_eq_iff rfl
  rightParenthesis := Kind.ofChar_eq_iff rfl
  unknown := by
    rw [← Lexer.isDigit_iff_range]
    exact Kind.ofChar_eq_unknown_iff
  position := Position.marks_after before

theorem tag_cases (token : Token) :
    token.kind = .digit ∧ token.tag = .kind .digit ∨
      token.kind = .endOfInput ∧ token.tag = .kind .endOfInput ∨
      token.kind ∉ [.digit, .endOfInput] ∧ token.tag = .text token.text := by
  unfold tag
  cases token.kind <;> simp

theorem tag_eq_iff (token token' : Token) :
    token.tag = token'.tag ↔
      token.kind = .digit ∧ token'.kind = .digit ∨
        token.kind = .endOfInput ∧ token'.kind = .endOfInput ∨
        token.kind ∉ [.digit, .endOfInput] ∧ token'.kind ∉ [.digit, .endOfInput] ∧
          token.text = token'.text := by
  rcases tag_cases token with ⟨hkind, htag⟩ | ⟨hkind, htag⟩ | ⟨hkind, htag⟩ <;>
    rcases tag_cases token' with ⟨hkind', htag'⟩ | ⟨hkind', htag'⟩ | ⟨hkind', htag'⟩ <;>
      simp_all

end Token

namespace Lexer

def place (text : List Char) (index : Nat) : Nat :=
  (passed text index).length

theorem isSpace_eq_false_iff {c : Char} : isSpace c = false ↔ c ∉ [' ', '\t', '\n'] := by
  simp [isSpace, and_assoc]

theorem passed_eq_take (text : List Char) (n : Nat) : passed text n = text.take (place text n) := by
  exact List.prefix_iff_eq_take.mp ⟨ahead text n, passed_append_ahead text n⟩

theorem getElem?_place (text : List Char) (n : Nat) :
    text[place text n]? = (unspaced text)[n]? := by
  have hahead : (passed text n ++ ahead text n)[place text n]? =
      (ahead text n)[place text n - place text n]? :=
    List.getElem?_append_right (Nat.le_refl _)
  rwa [passed_append_ahead, Nat.sub_self, ← List.head?_eq_getElem?, head?_ahead] at hahead

theorem place_lt_place {text : List Char} {n m : Nat} (h : n < m)
    (hm : m ≤ (unspaced text).length) :
    place text n < place text m := by
  -- What is in front of a later token has more tokens.
  have hlength (k : Nat) (hk : k ≤ (unspaced text).length) :
      (unspaced (text.take (place text k))).length = k := by
    rw [← passed_eq_take, unspaced_passed, List.length_take, Nat.min_eq_left hk]
  apply Nat.lt_of_not_le
  intro hle
  have hbefore : text.take (place text m) <+: text.take (place text n) :=
    List.take_prefix_take_left hle
  have hunspaced := (hbefore.filter fun c => !isSpace c).length_le
  rw [← unspaced, ← unspaced, hlength n (by omega), hlength m hm] at hunspaced
  omega

theorem exists_place {text : List Char} {i : Nat} {c : Char} (h : text[i]? = some c)
    (hc : isSpace c = false) :
    ∃ n < (unspaced text).length, place text n = i := by
  obtain ⟨hi, hget⟩ := List.getElem?_eq_some_iff.mp h
  have hdrop : text.drop i = c :: text.drop (i + 1) := by rw [List.drop_eq_getElem_cons hi, hget]
  -- The token is the one that has as many others in front of it as the part of the text up to it.
  have htext : unspaced (text.take i) ++ unspaced (text.drop i) = unspaced text := by
    rw [← unspaced_append, List.take_append_drop]
  have htake : unspaced (text.take i) = (unspaced text).take (unspaced (text.take i)).length :=
    List.prefix_iff_eq_take.mp ⟨_, htext⟩
  have hlt : (unspaced (text.take i)).length < (unspaced text).length := by
    rw [← htext, List.length_append, hdrop]
    simp [unspaced, hc]
  refine ⟨_, hlt, ?_⟩
  have hafter : ∀ c ∈ (text.drop i).head?, isSpace c = false := by
    rw [hdrop]
    rintro _ ⟨⟩
    exact hc
  have hpassed : passed text (unspaced (text.take i)).length = text.take i :=
    (eq_of_unspaced_eq (by rw [passed_append_ahead, List.take_append_drop])
      (by rw [unspaced_passed, ← htake])
      (fun _ => isSpace_of_mem_head?_ahead) hafter).1
  rw [place, hpassed, List.length_take, Nat.min_eq_left (Nat.le_of_lt hi)]

def places (text : List Char) : List Nat :=
  (List.range (unspaced text).length).map (place text)

theorem pairwise_places (text : List Char) : (places text).Pairwise (· < ·) := by
  unfold places
  rw [List.pairwise_map]
  refine List.pairwise_lt_range.imp_of_mem ?_
  intro n m _ hm hlt
  exact place_lt_place hlt (Nat.le_of_lt (List.mem_range.mp hm))

theorem mem_places_iff {text : List Char} {i : Nat} :
    i ∈ places text ↔ ∃ c, text[i]? = some c ∧ c ∉ [' ', '\t', '\n'] := by
  unfold places
  simp only [List.mem_map, List.mem_range, ← isSpace_eq_false_iff]
  constructor
  . rintro ⟨n, hn, rfl⟩
    rw [getElem?_place, List.getElem?_eq_getElem hn]
    refine ⟨_, rfl, ?_⟩
    have hmem := List.getElem_mem hn
    simpa using (List.mem_filter.mp hmem).2
  . rintro ⟨c, hget, hc⟩
    exact exists_place hget hc

theorem tokenAt_shows {text : List Char} {n : Nat} (hn : n < (unspaced text).length) :
    ∃ c, text[place text n]? = some c ∧
      (tokenAt (unspaced text) (positionAt text) n).Shows (text.take (place text n)) c := by
  rw [getElem?_place, ← passed_eq_take]
  refine ⟨_, List.getElem?_eq_getElem hn, ?_⟩
  unfold tokenAt positionAt
  rw [List.getElem?_eq_getElem hn]
  exact Token.shows_ofChar _ _

theorem tokenAt_length (text : List Char) :
    tokenAt (unspaced text) (positionAt text) (unspaced text).length =
      .endOfInput (Position.after {} text) := by
  unfold tokenAt positionAt
  rw [passed_eq_self (Nat.le_refl _), List.getElem?_eq_none (Nat.le_refl _)]
  rfl

/--
The tokens of a text are its characters that are no spaces, in order, and then the end of the text.
Each has the position behind the characters in front of it. Of two tokens of any texts, the tags are
the same where both are digits, where both are ends of a text, and where neither is one of these and
they show the same character.
-/
theorem tokenize_shows_characters (text : String) :
    (∃ indices shown ending, tokenize text = shown ++ [ending] ∧
      indices.Pairwise (· < ·) ∧
      (∀ i, i ∈ indices ↔ ∃ c, text.toList[i]? = some c ∧ c ∉ [' ', '\t', '\n']) ∧
      List.Forall₂ (fun i token =>
        ∃ c, text.toList[i]? = some c ∧ token.Shows (text.toList.take i) c) indices shown ∧
      ending.kind = .endOfInput ∧ ending.text = "#" ∧ Position.Marks text.toList ending.position) ∧
    ∀ token token' : Token,
      token.tag = token'.tag ↔
        token.kind = .digit ∧ token'.kind = .digit ∨
          token.kind = .endOfInput ∧ token'.kind = .endOfInput ∨
          token.kind ∉ [.digit, .endOfInput] ∧ token'.kind ∉ [.digit, .endOfInput] ∧
            token.text = token'.text := by
  refine ⟨?_, Token.tag_eq_iff⟩
  refine ⟨places text.toList, (List.range (unspaced text.toList).length).map
    (tokenAt (unspaced text.toList) (positionAt text.toList)),
    .endOfInput (Position.after {} text.toList), ?_,
    pairwise_places text.toList, fun i => mem_places_iff, ?_, rfl, rfl,
    Position.marks_after text.toList⟩
  . rw [tokenize_eq, List.range_succ, List.map_append, List.map_singleton, tokenAt_length]
  . unfold places
    rw [List.forall₂_map_left_iff, List.forall₂_map_right_iff, List.forall₂_same]
    intro n hn
    exact tokenAt_shows (List.mem_range.mp hn)

end Lexer

end ParenCalc
