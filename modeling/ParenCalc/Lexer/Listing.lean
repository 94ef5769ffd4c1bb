import ParenCalc.Lexer.Progress

namespace ParenCalc

namespace Lexer

/--
Tokens in order, and the fault that ended them if the input could not be decoded to its end.
-/
structure Listing where
  tokens : List Token
  fault : Option Text.Utf8.Fault := none
  deriving DecidableEq, Repr

def tokens (lexer : Lexer) : Listing × Lexer :=
  match lexer.peek with
  | .error fault lexer => (⟨[], some fault⟩, lexer)
  | .ok token lexer =>
    if token.kind = .endOfInput then (⟨[token], none⟩, lexer) else go lexer [token]
where
  go (lexer : Lexer) (listed : List Token) : Listing × Lexer :=
    match _h : advance lexer with
    | .error fault lexer => (⟨listed.reverse, some fault⟩, lexer)
    | .ok token lexer =>
      if _hkind : token.kind = .endOfInput then (⟨(token :: listed).reverse, none⟩, lexer)
      else go lexer (token :: listed)
  termination_by lexer.source.size
  decreasing_by exact advance_size _h _hkind

def tokenize (text : String) : List Token :=
  (ofString text).tokens.1.tokens

end Lexer

end ParenCalc
