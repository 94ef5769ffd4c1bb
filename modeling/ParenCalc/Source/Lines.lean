import ParenCalc.Lexer.Progress

namespace ParenCalc

namespace Source

/--
Lines in order, without their ends, and the fault that ended them if the input could not be decoded
to its end. What stands behind the last line end is a line unless it is empty.
-/
structure Lines where
  lines : List (List Char)
  fault : Option Text.Utf8.Fault := none
  deriving DecidableEq, Repr

def isInLine (c : Char) : Bool :=
  c != '\n'

def lines (source : Source) : Lines :=
  go source []
where
  go (source : Source) (read : List (List Char)) : Lines :=
    match _h : source.find isInLine with
    | (.error fault, _) => ⟨read.reverse, some fault⟩
    | (.ok ⟨line, some _⟩, source) => go source (line :: read)
    | (.ok ⟨line, none⟩, _) => ⟨(if line = [] then read else line :: read).reverse, none⟩
  termination_by source.size
  decreasing_by exact find_size _h

end Source

end ParenCalc
