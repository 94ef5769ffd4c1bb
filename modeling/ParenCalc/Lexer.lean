import ParenCalc.Source
import ParenCalc.Token

/-!
This module contains the lexer. It reads an input one character at a time, never puts one back, and
holds a single token, the current one.
-/

namespace ParenCalc

open Text (Utf8.Fault)

/--
A lexer: the input, the position of the next character as far as the lexer itself has read, the
current token once there is one, and all tokens that were ever current, the latest first.
-/
structure Lexer where
  source : Source
  position : Position := {}
  current : Option Token := none
  lexed : List Token := []
  deriving DecidableEq, Repr

abbrev LexerM := EStateM Utf8.Fault Lexer

namespace Lexer

def ofString (text : String) : Lexer :=
  { source := .ofString text }

def isSpace (c : Char) : Bool :=
  c == ' ' || c == '\t' || c == '\n'

def accept (lexer : Lexer) (source : Source) (position : Position) (token : Token) : Lexer :=
  { source, position, current := some token, lexed := token :: lexer.lexed }

def advance : LexerM Token := fun lexer =>
  match lexer.source.find isSpace with
  | (.error fault, source) => .error fault { lexer with source }
  | (.ok ⟨skipped, some c⟩, source) =>
    let position := lexer.position.after skipped
    let token := Token.ofChar c position
    .ok token (lexer.accept source (position.next c) token)
  | (.ok ⟨skipped, none⟩, source) =>
    let position := lexer.position.after skipped
    let token := Token.endOfInput position
    .ok token (lexer.accept source position token)

def peek : LexerM Token := fun lexer =>
  match lexer.current with
  | some token => .ok token lexer
  | none => advance lexer

def readDirectly (read : Source → Except Utf8.Fault α × Source) : LexerM α := fun lexer =>
  match read lexer.source with
  | (.ok a, source) => .ok a { lexer with source }
  | (.error fault, source) => .error fault { lexer with source }

end Lexer

end ParenCalc
