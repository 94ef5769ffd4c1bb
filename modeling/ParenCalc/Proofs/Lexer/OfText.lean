import ParenCalc.Proofs.Lexer.Feed

/-!
This module contains the lexer of a text, state by state: which part of the text it has passed in
front of each of its tokens, and that it is a feed of the characters of the text that are no spaces.
-/

namespace ParenCalc

namespace Source

theorem scan_eq (skip : Char → Bool) (text : List Char) :
    scan skip text =
      (⟨text.takeWhile skip, (text.dropWhile skip).head?⟩, (text.dropWhile skip).tail) := by
  unfold scan
  cases hdrop : text.dropWhile skip with
  | nil =>
    have hall := List.takeWhile_append_dropWhile (p := skip) (l := text)
    rw [hdrop, List.append_nil] at hall
    simp [hall]
  | cons c rest => rfl

end Source

namespace Lexer

theorem isDigit_iff_range {c : Char} : c.isDigit = true ↔ '0' ≤ c ∧ c ≤ '9' := by
  simp [Char.isDigit, Char.le_def]

def unspaced (text : List Char) : List Char :=
  text.filter fun c => !isSpace c

def behind (text : List Char) : (count : Nat) → List Char
  | 0 => text
  | count + 1 => ((behind text count).dropWhile isSpace).tail

def read (text : List Char) : (count : Nat) → List Char
  | 0 => []
  | count + 1 =>
    read text count ++ (behind text count).takeWhile isSpace ++
      ((behind text count).dropWhile isSpace).take 1

/--
What is left of a text in front of the token with the given index: it starts with the token, or is
empty where the text has no such token.
-/
def ahead (text : List Char) (index : Nat) : List Char :=
  (behind text index).dropWhile isSpace

def passed (text : List Char) (index : Nat) : List Char :=
  read text index ++ (behind text index).takeWhile isSpace

def positionAt (text : List Char) (index : Nat) : Position :=
  Position.after {} (passed text index)

def stateAt (text : List Char) (count : Nat) : Lexer where
  source := .ofText (behind text count)
  position := Position.after {} (read text count)
  current :=
    match count with
    | 0 => none
    | index + 1 => some (tokenAt (unspaced text) (positionAt text) index)
  lexed := ((List.range count).map (tokenAt (unspaced text) (positionAt text))).reverse

theorem behind_succ (text : List Char) (n : Nat) : behind text (n + 1) = (ahead text n).tail := rfl

theorem read_succ (text : List Char) (n : Nat) :
    read text (n + 1) = passed text n ++ (ahead text n).take 1 := rfl

@[simp]
theorem unspaced_append (text rest : List Char) :
    unspaced (text ++ rest) = unspaced text ++ unspaced rest := by
  simp [unspaced]

theorem unspaced_takeWhile (text : List Char) : unspaced (text.takeWhile isSpace) = [] := by
  unfold unspaced
  rw [List.filter_eq_nil_iff]
  intro c hc
  have hall := List.all_eq_true.mp (List.all_takeWhile (p := isSpace) (l := text)) c hc
  simp [hall]

theorem unspaced_dropWhile (text : List Char) :
    unspaced (text.dropWhile isSpace) = unspaced text := by
  have htext := congrArg unspaced (List.takeWhile_append_dropWhile (p := isSpace) (l := text))
  rw [unspaced_append, unspaced_takeWhile] at htext
  exact htext

theorem isSpace_of_mem_head?_ahead {text : List Char} {n : Nat} {c : Char}
    (h : c ∈ (ahead text n).head?) : isSpace c = false := by
  have hnot := List.head?_dropWhile_not isSpace (behind text n)
  rw [← ahead, Option.mem_def.mp h] at hnot
  exact hnot

theorem unspaced_ahead_eq (text : List Char) (n : Nat) :
    unspaced (ahead text n) = (ahead text n).take 1 ++ unspaced (behind text (n + 1)) := by
  rw [behind_succ]
  cases hahead : ahead text n with
  | nil => rfl
  | cons c rest =>
    have hc : isSpace c = false := isSpace_of_mem_head?_ahead (by rw [hahead]; rfl)
    simp [unspaced, hc]

theorem unspaced_behind (text : List Char) (n : Nat) :
    unspaced (behind text n) = (unspaced text).drop n := by
  induction n with
  | zero => rfl
  | succ n ih =>
    have hahead := unspaced_ahead_eq text n
    rw [ahead, unspaced_dropWhile, ih, ← ahead] at hahead
    rw [← List.drop_drop, hahead, behind_succ]
    cases ahead text n <;> simp [unspaced]

theorem unspaced_ahead (text : List Char) (n : Nat) :
    unspaced (ahead text n) = (unspaced text).drop n := by
  rw [ahead, unspaced_dropWhile, unspaced_behind]

theorem head?_ahead (text : List Char) (n : Nat) : (ahead text n).head? = (unspaced text)[n]? := by
  rw [← List.head?_drop, ← unspaced_ahead, unspaced_ahead_eq]
  cases hahead : ahead text n with
  | nil => simp [behind_succ, hahead, unspaced]
  | cons c rest => rfl

theorem read_append_behind (text : List Char) (n : Nat) : read text n ++ behind text n = text := by
  induction n with
  | zero => rfl
  | succ n ih =>
    rw [read_succ, behind_succ, List.append_assoc, ← List.drop_one, List.take_append_drop, passed,
      ahead, List.append_assoc, List.takeWhile_append_dropWhile, ih]

theorem passed_append_ahead (text : List Char) (n : Nat) :
    passed text n ++ ahead text n = text := by
  rw [passed, ahead, List.append_assoc, List.takeWhile_append_dropWhile, read_append_behind]

theorem unspaced_read (text : List Char) (n : Nat) :
    unspaced (read text n) = (unspaced text).take n := by
  -- What is read and what is left make up the text, and so do their tokens.
  have htext : unspaced (read text n) ++ (unspaced text).drop n =
      (unspaced text).take n ++ (unspaced text).drop n := by
    rw [List.take_append_drop, ← unspaced_behind, ← unspaced_append, read_append_behind]
  exact List.append_cancel_right htext

theorem unspaced_passed (text : List Char) (n : Nat) :
    unspaced (passed text n) = (unspaced text).take n := by
  rw [passed, unspaced_append, unspaced_takeWhile, unspaced_read, List.append_nil]

theorem eq_of_unspaced_eq {before before' after after' : List Char}
    (h : before ++ after = before' ++ after')
    (hunspaced : unspaced before = unspaced before') (hafter : ∀ c ∈ after.head?, isSpace c = false)
    (hafter' : ∀ c ∈ after'.head?, isSpace c = false) : before = before' ∧ after = after' := by
  have hnone {between rest : List Char} (hbetween : unspaced between = [])
      (hrest : ∀ c ∈ (between ++ rest).head?, isSpace c = false) : between = [] := by
    cases between with
    | nil => rfl
    | cons c between => simp [unspaced, hrest c rfl] at hbetween
  rcases List.append_eq_append_iff.mp h with ⟨between, rfl, rfl⟩ | ⟨between, rfl, rfl⟩
  . simp [hnone (by simpa using hunspaced) hafter]
  . simp [hnone (by simpa using hunspaced) hafter']

theorem advance_of_source {lexer : Lexer} (text : List Char) (h : lexer.source = .ofText text) :
    let rest := text.dropWhile isSpace
    let position := lexer.position.after (text.takeWhile isSpace)
    let token := Token.ofChar? rest.head? position
    advance lexer =
      .ok token (lexer.accept (.ofText rest.tail) (position.after (rest.take 1)) token) := by
  unfold advance
  rw [h, Source.find_ofText, Source.scan_eq]
  cases text.dropWhile isSpace <;> rfl

theorem feed_stateAt (text : List Char) :
    Feed (unspaced text) (positionAt text) (stateAt text) where
  current := rfl
  advance n := by
    have hposition : (stateAt text n).position.after ((behind text n).takeWhile isSpace) =
        positionAt text n := by
      rw [positionAt, passed, Position.after_append]
      rfl
    rw [advance_of_source (behind text n) rfl, hposition, ← ahead, head?_ahead]
    simp [accept, stateAt, tokenAt, List.range_succ, behind_succ, read_succ, positionAt]

end Lexer

end ParenCalc
