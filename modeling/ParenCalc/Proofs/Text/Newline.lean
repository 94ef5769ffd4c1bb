import ParenCalc.Text.Newline
import ParenCalc.Text.Output

namespace ParenCalc.Text

theorem joinLineEnds_go (text joined before : List Char) :
    joinLineEnds.go text (joined ++ before) = before.reverse ++ joinLineEnds.go text joined := by
  fun_induction joinLineEnds.go text joined with
  | case1 joined rest ih =>
    rw [joinLineEnds.go]
    exact ih
  | case2 joined c rest hpair ih =>
    rw [joinLineEnds.go]
    . exact ih
    . exact hpair
  | case3 joined => simp [joinLineEnds.go]

theorem joinLineEnds_pair (rest : List Char) :
    joinLineEnds ('\r' :: '\n' :: rest) = '\n' :: joinLineEnds rest :=
  joinLineEnds_go rest [] ['\n']

theorem joinLineEnds_cons {c : Char} {rest : List Char} (h : c = '\r' → rest.head? ≠ some '\n') :
    joinLineEnds (c :: rest) = c :: joinLineEnds rest := by
  have hstep : joinLineEnds.go (c :: rest) [] = joinLineEnds.go rest [c] := by
    rw [joinLineEnds.go]
    intro rest' hc hrest
    exact h hc (by rw [hrest]; rfl)
  exact hstep.trans (joinLineEnds_go rest [] [c])

namespace Newline

def replaceReturns (text : List Char) : List Char :=
  text.map fun c => if c = '\r' then '\n' else c

theorem unify_go (held : Bool) (text unified : List Char) :
    unify.go held text unified = (unified.reverse ++ (unify held text).1, (unify held text).2) := by
  unfold unify
  induction text generalizing held unified with
  | nil => simp [unify.go]
  | cons c rest ih =>
    cases held with
    | false =>
      simp only [unify.go]
      split
      . exact ih true unified
      . rw [ih false (c :: unified), ih false [c]]
        simp
    | true =>
      simp only [unify.go]
      split
      . rw [ih true ('\n' :: unified), ih true ['\n']]
        simp
      . split
        . rw [ih false ('\n' :: unified), ih false ['\n']]
          simp
        . rw [ih false (c :: '\n' :: unified), ih false [c, '\n']]
          simp

theorem unify_nil (held : Bool) : unify held [] = ([], held) := rfl

theorem unify_cons_return (held : Bool) (rest : List Char) :
    unify held ('\r' :: rest) = (finish held ++ (unify true rest).1, (unify true rest).2) := by
  cases held with
  | false => rfl
  | true => exact unify_go true rest ['\n']

theorem unify_cons_feed (held : Bool) (rest : List Char) :
    unify held ('\n' :: rest) = ('\n' :: (unify false rest).1, (unify false rest).2) := by
  cases held <;> exact unify_go false rest ['\n']

theorem unify_cons_other (held : Bool) {c : Char} (rest : List Char) (hreturn : c ≠ '\r')
    (hfeed : c ≠ '\n') :
    unify held (c :: rest) = (finish held ++ c :: (unify false rest).1, (unify false rest).2) := by
  cases held with
  | false =>
    have hstep : unify false (c :: rest) = unify.go false rest [c] := by
      simp [unify, unify.go, hreturn]
    rw [hstep, unify_go]
    rfl
  | true =>
    have hstep : unify true (c :: rest) = unify.go false rest [c, '\n'] := by
      simp [unify, unify.go, hreturn, hfeed]
    rw [hstep, unify_go]
    rfl

theorem unify_append (held : Bool) (text rest : List Char) :
    unify held (text ++ rest) =
      ((unify held text).1 ++ (unify (unify held text).2 rest).1,
        (unify (unify held text).2 rest).2) := by
  induction text generalizing held with
  | nil => simp [unify_nil]
  | cons c text ih =>
    rw [List.cons_append]
    by_cases hreturn : c = '\r'
    . subst hreturn
      simp [unify_cons_return, ih]
    . by_cases hfeed : c = '\n'
      . subst hfeed
        simp [unify_cons_feed, ih]
      . simp [unify_cons_other held _ hreturn hfeed, ih]

theorem replaceReturns_cons (c : Char) (rest : List Char) :
    replaceReturns (c :: rest) = (if c = '\r' then '\n' else c) :: replaceReturns rest := rfl

/--
A return that is held is as good as one in front of the text.
-/
theorem unify_append_finish (held : Bool) (text : List Char) :
    (unify held text).1 ++ finish (unify held text).2 =
      replaceReturns (joinLineEnds (if held then '\r' :: text else text)) := by
  induction text generalizing held with
  | nil => cases held <;> rfl
  | cons c rest ih =>
    by_cases hreturn : c = '\r'
    . subst hreturn
      rw [unify_cons_return, List.append_assoc, ih true]
      cases held with
      | false => rfl
      | true =>
        have hpair : '\r' = '\r' → ('\r' :: rest).head? ≠ some '\n' := by simp
        rw [if_pos rfl, if_pos rfl, joinLineEnds_cons hpair, replaceReturns_cons]
        rfl
    by_cases hfeed : c = '\n'
    . subst hfeed
      rw [unify_cons_feed, List.cons_append, ih false, if_neg Bool.false_ne_true]
      cases held with
      | false =>
        rw [if_neg Bool.false_ne_true, joinLineEnds_cons (by simp), replaceReturns_cons]
        rfl
      | true =>
        rw [if_pos rfl, joinLineEnds_pair, replaceReturns_cons]
        rfl
    . have hjoin : joinLineEnds (c :: rest) = c :: joinLineEnds rest :=
        joinLineEnds_cons fun h => absurd h hreturn
      rw [unify_cons_other held rest hreturn hfeed, List.append_assoc, List.cons_append, ih false]
      cases held with
      | false =>
        rw [if_neg Bool.false_ne_true, if_neg Bool.false_ne_true, hjoin, replaceReturns_cons,
          if_neg hreturn]
        rfl
      | true =>
        rw [if_neg Bool.false_ne_true, if_pos rfl, joinLineEnds_cons (by simp [hfeed]), hjoin,
          replaceReturns_cons, replaceReturns_cons, if_neg hreturn]
        rfl

theorem unifyAll_eq (text : List Char) : unifyAll text = replaceReturns (joinLineEnds text) :=
  unify_append_finish false text

theorem return_not_mem_unifyAll (text : List Char) : '\r' ∉ unifyAll text := by
  rw [unifyAll_eq, replaceReturns, List.mem_map]
  rintro ⟨c, -, hc⟩
  split at hc
  . cases hc
  . next hreturn => exact hreturn hc

theorem unify_of_no_return {text : List Char} (h : ∀ c ∈ text, c ≠ '\r') :
    unify false text = (text, false) := by
  induction text with
  | nil => rfl
  | cons c rest ih =>
    have hrest := ih fun c hc => h c (List.mem_cons_of_mem _ hc)
    by_cases hfeed : c = '\n'
    . subst hfeed
      rw [unify_cons_feed, hrest]
    . rw [unify_cons_other false rest (h c List.mem_cons_self) hfeed, hrest]
      rfl

theorem unifyAll_of_no_return {text : List Char} (h : ∀ c ∈ text, c ≠ '\r') :
    unifyAll text = text := by
  unfold unifyAll
  rw [unify_of_no_return h]
  exact List.append_nil text

def dropFinalReturn (text : List Char) : List Char :=
  if text.getLast? = some '\r' then text.dropLast else text

theorem unify_snd (held : Bool) (text : List Char) :
    (unify held text).2 = (text.getLast?.elim held (· == '\r')) := by
  induction text generalizing held with
  | nil => rfl
  | cons c rest ih =>
    rw [List.getLast?_cons]
    by_cases hreturn : c = '\r'
    . subst hreturn
      rw [unify_cons_return]
      simp only [ih]
      cases rest.getLast? <;> rfl
    . have hc : (c == '\r') = false := by simpa using hreturn
      by_cases hfeed : c = '\n'
      . subst hfeed
        rw [unify_cons_feed]
        simp only [ih]
        cases rest.getLast? <;> rfl
      . rw [unify_cons_other held rest hreturn hfeed]
        simp only [ih]
        cases rest.getLast? <;> simp [hc]

theorem unify_fst (text : List Char) : (unify false text).1 = unifyAll (dropFinalReturn text) := by
  by_cases hreturn : text.getLast? = some '\r'
  . obtain ⟨before, rfl⟩ := List.getLast?_eq_some_iff.mp hreturn
    unfold dropFinalReturn
    rw [if_pos hreturn, List.dropLast_concat, unify_append, unify_cons_return, unify_nil,
      List.append_nil]
    rfl
  . have hheld : (unify false text).2 = false := by
      rw [unify_snd]
      cases hlast : text.getLast? with
      | none => rfl
      | some c => simpa [hlast] using hreturn
    unfold dropFinalReturn
    rw [if_neg hreturn]
    change _ = (unify false text).1 ++ finish (unify false text).2
    rw [hheld, finish_false, List.append_nil]

end Newline

end ParenCalc.Text
