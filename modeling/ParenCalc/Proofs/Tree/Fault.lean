import ParenCalc.Tree.Evaluation
import ParenCalc.Tree.Printing

/-!
This module contains what is out of place in a tree, and that the evaluation of trees and the two
ways to show them fail at the first such node, each in its own order.
-/

namespace ParenCalc

namespace Tree

def Node.isSupported : Node → Bool
  | .digit _ => true
  | .operator op => op.operator?.isSome
  | .foreign _ => false

def firstFault (nodes : List Node) : Option Node :=
  nodes.find? fun node => !node.isSupported

def Node.evalError? : Node → Option EvalError
  | .digit _ => none
  | .operator (.operator _) => none
  | .operator op => some (.unsupportedOperator op)
  | .foreign value => some (.unsupportedNode value)

def Node.printError? (property : String) : Node → Option PrintError
  | .digit _ => none
  | .operator (.operator _) => none
  | .operator op => some (.noProperty op property)
  | .foreign value => some (.unsupportedNode value)

def TellsFaults {ε : Type} (error? : Node → Option ε) : Prop :=
  ∀ node, (error? node).isSome = !node.isSupported

theorem tellsFaults_evalError? : TellsFaults Node.evalError? := by
  intro node
  cases node with
  | digit d => rfl
  | operator op => cases op <;> rfl
  | foreign value => rfl

theorem tellsFaults_printError? (property : String) : TellsFaults (Node.printError? property) := by
  intro node
  cases node with
  | digit d => rfl
  | operator op => cases op <;> rfl
  | foreign value => rfl

theorem TellsFaults.findSome?_eq {ε : Type} {error? : Node → Option ε} (h : TellsFaults error?)
    (nodes : List Node) :
    nodes.findSome? error? = (firstFault nodes).bind error? := by
  induction nodes with
  | nil => rfl
  | cons node nodes ih =>
    have hnode := h node
    rw [firstFault, List.findSome?_cons, List.find?_cons, ← hnode]
    cases herror : error? node with
    | none => exact ih
    | some error => exact herror.symm

theorem firstFault_eq_none_iff {nodes : List Node} :
    firstFault nodes = none ↔ ∀ node ∈ nodes, node.isSupported = true := by
  simp [firstFault]

theorem mem_postorder_iff {tree : Tree} {node : Node} :
    node ∈ tree.postorder ↔ node ∈ tree.preorder := by
  induction tree with
  | digit d => rfl
  | foreign value => rfl
  | binary left op right ihl ihr =>
    simp only [postorder, preorder, List.cons_append, List.mem_append, List.mem_cons,
      List.not_mem_nil, or_false, ihl, ihr]
    exact or_comm

theorem exists_ofExpr_iff {tree : Tree} :
    (∃ e, tree = ofExpr e) ↔ ∀ node ∈ tree.preorder, node.isSupported = true := by
  constructor
  . rintro ⟨e, rfl⟩
    induction e with
    | digit d => simp [ofExpr, preorder, Node.isSupported]
    | binary left op right ihl ihr =>
      intro node hnode
      rcases List.mem_cons.mp hnode with rfl | hnode
      . rfl
      . exact (List.mem_append.mp hnode).elim (ihl node) (ihr node)
  . intro h
    induction tree with
    | digit d => exact ⟨.digit d, rfl⟩
    | foreign value => cases h (.foreign value) List.mem_cons_self
    | binary left op right ihl ihr =>
      obtain ⟨hop, h⟩ := List.forall_mem_cons.mp h
      obtain ⟨hl, hr⟩ := List.forall_mem_append.mp h
      obtain ⟨left, rfl⟩ := ihl hl
      obtain ⟨right, rfl⟩ := ihr hr
      cases op with
      | operator op => exact ⟨.binary left op right, rfl⟩
      | text s => cases hop
      | missing => cases hop

theorem firstFault_preorder_eq_none_iff {tree : Tree} :
    firstFault tree.preorder = none ↔ ∃ e, tree = ofExpr e := by
  rw [firstFault_eq_none_iff, exists_ofExpr_iff]

theorem firstFault_postorder_eq_none_iff {tree : Tree} :
    firstFault tree.postorder = none ↔ ∃ e, tree = ofExpr e := by
  simp only [firstFault_eq_none_iff, exists_ofExpr_iff, mem_postorder_iff]

section ErrorOf

variable {ε α β : Type}

def errorOf : Except ε α → Option ε
  | .ok _ => none
  | .error error => some error

theorem errorOf_eq_some_iff {result : Except ε α} {error : ε} :
    errorOf result = some error ↔ result = .error error := by
  cases result <;> simp [errorOf]

theorem errorOf_eq_none_iff {result : Except ε α} :
    errorOf result = none ↔ ∃ a, result = .ok a := by
  cases result <;> simp [errorOf]

theorem errorOf_map (f : α → β) (result : Except ε α) :
    errorOf (result.map f) = errorOf result := by
  cases result <;> rfl

theorem errorOf_bind {result : Except ε α} {next : α → Except ε β} {error? : Option ε}
    (h : ∀ a, errorOf (next a) = error?) :
    errorOf (result >>= next) = (errorOf result).or error? := by
  cases result with
  | error error => rfl
  | ok a => exact h a

theorem errorOf_three {γ δ : Type} (first : Except ε α) (second : Except ε β) (third : Except ε γ)
    (f : α → β → γ → δ) :
    errorOf (first >>= fun a => second >>= fun b => third >>= fun c => .ok (f a b c)) =
      (errorOf first).or ((errorOf second).or (errorOf third)) := by
  apply errorOf_bind
  intro a
  apply errorOf_bind
  intro b
  cases third <;> rfl

end ErrorOf

section Failures

variable {ε α : Type} {error? : Node → Option ε} {nodes : List Node} {result : Except ε α}

theorem TellsFaults.eq_error_of_firstFault {node : Node} (h : TellsFaults error?)
    (hresult : errorOf result = nodes.findSome? error?) (hfault : firstFault nodes = some node) :
    ∃ error, error? node = some error ∧ result = .error error := by
  have hnode := List.find?_some hfault
  rw [← h node] at hnode
  obtain ⟨error, herror⟩ := Option.isSome_iff_exists.mp hnode
  rw [h.findSome?_eq, hfault, Option.bind_some, herror, errorOf_eq_some_iff] at hresult
  exact ⟨error, herror, hresult⟩

theorem TellsFaults.fails_iff (h : TellsFaults error?)
    (hresult : errorOf result = nodes.findSome? error?) :
    (∃ error, result = .error error) ↔ firstFault nodes ≠ none := by
  cases hfault : firstFault nodes with
  | none =>
    rw [h.findSome?_eq, hfault, Option.bind_none, errorOf_eq_none_iff] at hresult
    obtain ⟨a, rfl⟩ := hresult
    simp
  | some node =>
    obtain ⟨error, -, herror⟩ := h.eq_error_of_firstFault hresult hfault
    simp [herror]

end Failures

theorem errorOf_apply (op : OperatorField) (left right : Nat) :
    errorOf (op.apply left right) = (Node.operator op).evalError? := by
  cases op <;> rfl

theorem errorOf_symbol (op : OperatorField) :
    errorOf op.symbol = (Node.operator op).printError? "symbol" := by
  cases op <;> rfl

theorem errorOf_name (op : OperatorField) :
    errorOf op.name = (Node.operator op).printError? "name" := by
  cases op <;> rfl

theorem findSome?_preorder_binary {ε : Type} (error? : Node → Option ε) (left : Tree)
    (op : OperatorField) (right : Tree) :
    (binary left op right).preorder.findSome? error? =
      (error? (.operator op)).or ((left.preorder.findSome? error?).or
        (right.preorder.findSome? error?)) := by
  rw [preorder, ← List.singleton_append, List.append_assoc, List.findSome?_append,
    List.findSome?_append, List.findSome?_singleton]

theorem errorOf_value (tree : Tree) :
    errorOf tree.value = tree.postorder.findSome? Node.evalError? := by
  induction tree with
  | digit d => rfl
  | foreign value => rfl
  | binary left op right ihl ihr =>
    rw [value, postorder, List.append_assoc, List.findSome?_append, List.findSome?_append, ← ihl,
      ← ihr]
    apply errorOf_bind
    intro l
    apply errorOf_bind
    intro r
    rw [errorOf_apply, List.findSome?_singleton]

theorem errorOf_program (tree : Tree) :
    errorOf tree.program = tree.preorder.findSome? (Node.printError? "symbol") := by
  induction tree with
  | digit d => rfl
  | foreign value => rfl
  | binary left op right ihl ihr =>
    rw [program, findSome?_preorder_binary, ← ihl, ← ihr, ← errorOf_symbol]
    exact errorOf_three _ _ _ _

theorem errorOf_outlineLines (level : Int) (tree : Tree) :
    errorOf (tree.outlineLines level) = tree.preorder.findSome? (Node.printError? "name") := by
  induction tree generalizing level with
  | digit d => rfl
  | foreign value => rfl
  | binary left op right ihl ihr =>
    rw [outlineLines, findSome?_preorder_binary, ← ihl (level + 1), ← ihr (level + 1),
      ← errorOf_name]
    exact errorOf_three _ _ _ _

end Tree

end ParenCalc
