import ParenCalc.Tree

/-!
This module contains the two ways to show a tree, as a program and as an outline. Each is defined by
recursion on the tree, and again with a list of what is yet to be shown, which needs no room on the
call stack.
-/

namespace ParenCalc

namespace Tree

/--
Why a tree cannot be shown: it holds a plain value, or what stands in the place of an operator has
none of the properties of one.
-/
inductive PrintError
  | unsupportedNode (value : Value)
  | noProperty (op : OperatorField) (property : String)

def PrintError.message : PrintError → String
  | .unsupportedNode value => "Unsupported node: " ++ value.kindName
  | .noProperty op property =>
    "'" ++ op.kindName ++ "' object has no attribute '" ++ property ++ "'"

def OperatorField.symbol (op : OperatorField) : Except PrintError String :=
  match op.operator? with
  | some op => .ok (String.singleton op.symbol)
  | none => .error (.noProperty op "symbol")

def OperatorField.name (op : OperatorField) : Except PrintError String :=
  match op.operator? with
  | some op => .ok op.name
  | none => .error (.noProperty op "name")

/--
The program that stands for a tree. What is out of place is found in the order operator, left
operand, right operand.
-/
def program : Tree → Except PrintError String
  | .digit d => .ok (toString d.val)
  | .binary left op right => do
    let symbol ← op.symbol
    let left ← left.program
    let right ← right.program
    .ok ("(" ++ left ++ symbol ++ right ++ ")")
  | .foreign value => .error (.unsupportedNode value)

def outlineLines (level : Int) : Tree → Except PrintError (List String)
  | .digit d => .ok [Expr.outlineLine level ("Digit(" ++ toString d.val ++ ")")]
  | .binary left op right => do
    let name ← op.name
    let left ← left.outlineLines (level + 1)
    let right ← right.outlineLines (level + 1)
    .ok (Expr.outlineLine level ("Parenthesized(" ++ name ++ ")") :: left ++ right)
  | .foreign value => .error (.unsupportedNode value)

def size : Tree → Nat
  | .digit _ => 1
  | .binary left _ right => left.size + right.size + 4
  | .foreign _ => 1

inductive Piece
  | text (s : String)
  | tree (tree : Tree)

def Piece.weight : Piece → Nat
  | .text _ => 1
  | .tree t => t.size

def writePieces : List Piece → (written : String) → Except PrintError String
  | [], written => .ok written
  | .text s :: pieces, written => writePieces pieces (written ++ s)
  | .tree (.digit d) :: pieces, written => writePieces pieces (written ++ toString d.val)
  | .tree (.binary left op right) :: pieces, written =>
    match op.symbol with
    | .ok symbol =>
      writePieces
        (.text "(" :: .tree left :: .text symbol :: .tree right :: .text ")" :: pieces) written
    | .error error => .error error
  | .tree (.foreign value) :: _, _ => .error (.unsupportedNode value)
termination_by pieces => pieces.foldr (fun piece weight => piece.weight + weight) 0
decreasing_by
  all_goals simp only [List.foldr_cons, Piece.weight, size]
  all_goals omega

def render (tree : Tree) : Except PrintError String :=
  writePieces [.tree tree] ""

/--
Write the outlines of trees, each at its level, behind the lines `written`, the last of which is the
first of the list.
-/
def writeOutlines : List (Tree × Int) → (written : List String) → Except PrintError (List String)
  | [], written => .ok written.reverse
  | (.digit d, level) :: trees, written =>
    writeOutlines trees (Expr.outlineLine level ("Digit(" ++ toString d.val ++ ")") :: written)
  | (.binary left op right, level) :: trees, written =>
    match op.name with
    | .ok name =>
      writeOutlines ((left, level + 1) :: (right, level + 1) :: trees)
        (Expr.outlineLine level ("Parenthesized(" ++ name ++ ")") :: written)
    | .error error => .error error
  | (.foreign value, _) :: _, _ => .error (.unsupportedNode value)
termination_by trees => trees.foldr (fun entry size => entry.1.size + size) 0
decreasing_by
  all_goals simp only [List.foldr_cons, size]
  all_goals omega

def outline (level : Int) (tree : Tree) : Except PrintError String :=
  (writeOutlines [(tree, level)] []).map ("\n".intercalate ·)

end Tree

end ParenCalc
