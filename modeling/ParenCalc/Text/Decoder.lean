import ParenCalc.Text.Newline
import ParenCalc.Text.Utf8

/-!
This module contains the reader of a text that arrives as chunks of bytes: it decodes UTF-8 and
unifies line ends, and keeps between two chunks what the later one has to complete.
-/

namespace ParenCalc.Text

/--
What earlier chunks have left open: an unfinished sequence of bytes, and a carriage return that a
line feed may follow.
-/
structure Decoder where
  carried : List UInt8 := []
  heldReturn : Bool := false
  deriving DecidableEq, Repr

namespace Decoder

def push (decoder : Decoder) (chunk : List UInt8) : Except Utf8.Fault (List Char × Decoder) :=
  match Utf8.decode decoder.carried chunk with
  | .error fault => .error fault
  | .ok (text, carried) =>
    let (text, heldReturn) := Newline.unify decoder.heldReturn text
    .ok (text, ⟨carried, heldReturn⟩)

def finish (decoder : Decoder) : Except Utf8.Fault (List Char) :=
  if decoder.carried = [] then .ok (Newline.finish decoder.heldReturn)
  else .error (Utf8.truncated 0 decoder.carried)

@[simp]
theorem finish_start : finish {} = .ok [] := rfl

end Decoder

def decodeFile (bytes : List UInt8) : Except Utf8.Fault (List Char) :=
  (Utf8.decodeAll bytes).map Newline.unifyAll

end ParenCalc.Text
