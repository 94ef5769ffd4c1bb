import ParenCalc.Text.Blank

namespace ParenCalc.Text

/--
Make every carriage return with a line feed behind it, and that line feed, a single line feed. This
is one pass: what it brings together is not looked at again.
-/
def joinLineEnds (text : List Char) : List Char :=
  go text []
where
  go : List Char → List Char → List Char
    | '\r' :: '\n' :: rest, joined => go rest ('\n' :: joined)
    | c :: rest, joined => go rest (c :: joined)
    | [], joined => joined.reverse

def normalizeOutput (text : List Char) : List Char :=
  trimRight (joinLineEnds text)

def occursIn (part : List Char) : List Char → Bool
  | [] => part.isEmpty
  | c :: rest => part.isPrefixOf (c :: rest) || occursIn part rest

end ParenCalc.Text
