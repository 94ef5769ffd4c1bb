import ParenCalc.Proofs.Text.Lines
import ParenCalc.Proofs.Tree.Showing

/-!
This module contains that an outline is that of one tree only: its lines name the nodes of the tree
in order, and with the number of operands that each has, this order is enough to build the tree
again, without the depths of the lines.
-/

namespace ParenCalc

namespace Expr

def unindent (line : String) : String :=
  String.ofList (line.toList.dropWhile (· == ' '))

structure IsLabel (label : String) : Prop where
  start : ∃ c rest, label.toList = c :: rest ∧ c ≠ ' '
  oneLine : '\n' ∉ label.toList

variable {label : String}

theorem isLabel_digit (d : Digit) : IsLabel ("Digit(" ++ toString d.val ++ ")") where
  start := ⟨'D', _, by simp; rfl, by decide⟩
  oneLine := by
    rw [Tree.toString_digit]
    have hdigit : '\n' ≠ d.toChar := by
      revert d
      decide
    simp [hdigit]

theorem isLabel_operator (op : Operator) : IsLabel ("Parenthesized(" ++ op.name ++ ")") where
  start := ⟨'P', _, by simp; rfl, by decide⟩
  oneLine := by cases op <;> decide

theorem isLabel_of_mem_labels {e : Expr} {depth : Nat} {entry : Nat × String}
    (h : entry ∈ e.labels depth) :
    IsLabel entry.2 := by
  induction e generalizing depth with
  | digit d =>
    rw [List.mem_singleton.mp h]
    exact isLabel_digit d
  | binary left op right ihl ihr =>
    rw [labels, List.cons_append, List.mem_cons, List.mem_append] at h
    rcases h with rfl | hleft | hright
    . exact isLabel_operator op
    . exact ihl hleft
    . exact ihr hright

theorem unindent_indented (h : IsLabel label) (level : Int) :
    unindent (indented level label) = label := by
  obtain ⟨c, rest, hlabel, hc⟩ := h.start
  unfold unindent indented
  rw [String.toList_append, String.toList_ofList, List.dropWhile_append_of_pos (by simp), hlabel,
    List.dropWhile_cons_of_neg (by simpa using hc), ← hlabel, String.ofList_toList]

theorem oneLine_indented (h : IsLabel label) (level : Int) :
    '\n' ∉ (indented level label).toList := by
  unfold indented
  simp [h.oneLine]

theorem indented_ne_empty (h : IsLabel label) (level : Int) : indented level label ≠ "" := by
  obtain ⟨c, rest, hlabel, -⟩ := h.start
  intro hempty
  have hlist := congrArg String.toList hempty
  simp [indented, hlabel] at hlist

theorem digit_label_injective {d d' : Digit}
    (h : "Digit(" ++ toString d.val ++ ")" = "Digit(" ++ toString d'.val ++ ")") : d = d' := by
  have hdigit : toString d.val = toString d'.val :=
    (String.append_right_inj _).mp ((String.append_left_inj _).mp h)
  rw [Tree.toString_digit, Tree.toString_digit, String.ofList_inj] at hdigit
  exact Digit.toChar_injective (List.cons.inj hdigit).1

theorem operator_label_injective {op op' : Operator}
    (h : "Parenthesized(" ++ op.name ++ ")" = "Parenthesized(" ++ op'.name ++ ")") : op = op' := by
  revert h
  cases op <;> cases op' <;> decide

theorem digit_label_ne_operator_label (d : Digit) (op : Operator) :
    "Digit(" ++ toString d.val ++ ")" ≠ "Parenthesized(" ++ op.name ++ ")" := by
  intro h
  have hhead := congrArg (fun label : String => label.toList.head?) h
  simp at hhead

theorem map_labels_binary_append (left right : Expr) (op : Operator) (depth : Nat)
    (rest : List String) :
    ((binary left op right).labels depth).map (·.2) ++ rest =
      ("Parenthesized(" ++ op.name ++ ")") ::
        ((left.labels (depth + 1)).map (·.2) ++
          ((right.labels (depth + 1)).map (·.2) ++ rest)) := by
  rw [labels, List.cons_append, List.map_cons, List.map_append, List.cons_append, List.append_assoc]

/--
With the number of operands that each node has, the order of the nodes tells where an expression
ends.
-/
theorem labels_append_inj {a b : Expr} {depth depth' : Nat} {x y : List String}
    (h : (a.labels depth).map (·.2) ++ x = (b.labels depth').map (·.2) ++ y) : a = b ∧ x = y := by
  induction a generalizing b depth depth' x y with
  | digit d =>
    cases b with
    | digit d' =>
      obtain ⟨hlabel, hrest⟩ := List.cons.inj h
      rw [digit_label_injective hlabel]
      exact ⟨rfl, hrest⟩
    | binary left op right =>
      rw [map_labels_binary_append] at h
      exact absurd (List.cons.inj h).1 (digit_label_ne_operator_label d op)
  | binary left op right ihl ihr =>
    rw [map_labels_binary_append] at h
    cases b with
    | digit d => exact absurd (List.cons.inj h).1.symm (digit_label_ne_operator_label d op)
    | binary left' op' right' =>
      rw [map_labels_binary_append] at h
      obtain ⟨hlabel, hoperands⟩ := List.cons.inj h
      -- The left operands end together, and then so do the right ones.
      obtain ⟨hleft, hright⟩ := ihl hoperands
      obtain ⟨hright, hrest⟩ := ihr hright
      rw [hleft, operator_label_injective hlabel, hright]
      exact ⟨rfl, hrest⟩

theorem linesOf_outline (level : Int) (e : Expr) :
    Source.LinesOf ("\n".intercalate (e.outline level)).toList
      ((e.outline level).map String.toList) := by
  have hline {P : String → Prop} (h : ∀ label, IsLabel label → ∀ level, P (indented level label)) :
      ∀ line ∈ e.outline level, P line := by
    rw [← Int.add_zero level, ← Int.natCast_zero, outline_eq_map_labels, List.forall_mem_map]
    intro entry hentry
    exact h _ (isLabel_of_mem_labels hentry) _
  exact Source.linesOf_intercalate (hline fun _ => oneLine_indented)
    (hline fun _ => indented_ne_empty)

theorem map_unindent_outline (level : Int) (e : Expr) :
    (e.outline level).map unindent = (e.labels 0).map (·.2) := by
  rw [← Int.add_zero level, ← Int.natCast_zero, outline_eq_map_labels, List.map_map]
  apply List.map_congr_left
  intro entry hentry
  exact unindent_indented (isLabel_of_mem_labels hentry) _

theorem eq_of_outline_eq {a b : Expr} {level level' : Int}
    (h : "\n".intercalate (a.outline level) = "\n".intercalate (b.outline level')) : a = b := by
  have ha := linesOf_outline level a
  rw [h] at ha
  have hlines : a.outline level = b.outline level' := by
    have htexts := ha.unique (linesOf_outline level' b)
    rwa [List.map_inj_right fun _ _ => String.toList_inj.mp] at htexts
  have hlabels := congrArg (List.map unindent) hlines
  rw [map_unindent_outline, map_unindent_outline] at hlabels
  exact (labels_append_inj (congrArg (· ++ []) hlabels)).1

end Expr

namespace Tree

theorem WellFormed.exists_ofExpr {tree : Tree} (h : WellFormed tree) : ∃ e, tree = ofExpr e := by
  induction h with
  | digit d => exact ⟨.digit d, rfl⟩
  | binary left op right hleft hright ihl ihr =>
    obtain ⟨l, rfl⟩ := ihl
    obtain ⟨r, rfl⟩ := ihr
    exact ⟨.binary l op r, rfl⟩

/--
Trees in which all is in its place have outlines, and equal ones only if they are equal, whatever
the levels are at which the outlines start.
-/
theorem outline_determines_tree (level level' : Int) (tree tree' : Tree) (h : WellFormed tree)
    (h' : WellFormed tree') :
    ∃ text text', tree.outline level = .ok text ∧ tree'.outline level' = .ok text' ∧
      (text = text' → tree = tree') := by
  obtain ⟨e, rfl⟩ := h.exists_ofExpr
  obtain ⟨e', rfl⟩ := h'.exists_ofExpr
  refine ⟨_, _, outline_ofExpr level e, outline_ofExpr level' e', ?_⟩
  intro htext
  rw [Expr.eq_of_outline_eq htext]

theorem outline_determines_tree_below_zero :
    let tree : Tree :=
      .binary (.binary (.digit 1) (.operator .add) (.digit 2)) (.operator .multiply) (.digit 3)
    let tree' : Tree :=
      .binary (.digit 1) (.operator .add) (.binary (.digit 2) (.operator .multiply) (.digit 3))
    WellFormed tree ∧ WellFormed tree' ∧
      ∃ text text', tree.outline (-2) = .ok text ∧ tree'.outline (-2) = .ok text' ∧
        text ≠ text' := by
  intro tree tree'
  have h : WellFormed tree := .binary _ _ _ (.binary _ _ _ (.digit 1) (.digit 2)) (.digit 3)
  have h' : WellFormed tree' := .binary _ _ _ (.digit 1) (.binary _ _ _ (.digit 2) (.digit 3))
  obtain ⟨text, text', houtline, houtline', hsame⟩ :=
    outline_determines_tree (-2) (-2) tree tree' h h'
  refine ⟨h, h', text, text', houtline, houtline', ?_⟩
  intro htext
  exact absurd (Tree.binary.inj (hsame htext)).2.1 (by decide)

end Tree

end ParenCalc
