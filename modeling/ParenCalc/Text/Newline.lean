namespace ParenCalc.Text.Newline

/--
Unify the line ends of a piece of text. A carriage return at the end of a piece is held, since a
line feed at the start of the next piece belongs to it. `held` says whether the piece before ended
so. Returns the text and whether it ends so itself.
-/
def unify (held : Bool) (text : List Char) : List Char × Bool :=
  go held text []
where
  go : Bool → List Char → List Char → List Char × Bool
    | held, [], unified => (unified.reverse, held)
    | false, c :: rest, unified =>
      if c = '\r' then go true rest unified else go false rest (c :: unified)
    | true, c :: rest, unified =>
      if c = '\r' then go true rest ('\n' :: unified)
      else if c = '\n' then go false rest ('\n' :: unified)
      else go false rest (c :: '\n' :: unified)

def finish (held : Bool) : List Char :=
  if held then ['\n'] else []

def unifyAll (text : List Char) : List Char :=
  let (unified, held) := unify false text
  unified ++ finish held

@[simp]
theorem finish_false : finish false = [] := rfl

@[simp]
theorem finish_true : finish true = ['\n'] := rfl

end ParenCalc.Text.Newline
