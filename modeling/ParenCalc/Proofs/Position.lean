import ParenCalc.ParseError

namespace ParenCalc

namespace Position

theorem line_after (position : Position) (text : List Char) :
    (position.after text).line = position.line + text.count '\n' := by
  induction text generalizing position with
  | nil => simp
  | cons c text ih =>
    rw [after_cons, ih, next, List.count_cons]
    split
    . next h => simp [h]; omega
    . next h => simp [h]

theorem column_after (text : List Char) :
    (Position.after {} text).column = (text.reverse.takeWhile (· != '\n')).length := by
  -- From the end backwards, the columns are counted up to the first line end.
  have hreverse (s : List Char) :
      (Position.after {} s.reverse).column = (s.takeWhile (· != '\n')).length := by
    induction s with
    | nil => rfl
    | cons c s ih =>
      rw [List.reverse_cons, after_append, after_cons, after_nil, next, List.takeWhile_cons]
      split
      . next h => simp [h]
      . next h => simp [h, ih]
  simpa using hreverse text.reverse

structure Marks (read : List Char) (position : Position) : Prop where
  line : position.line = 1 + read.count '\n'
  column : position.column = (read.reverse.takeWhile (· != '\n')).length

theorem marks_after (read : List Char) : Marks read (Position.after {} read) where
  line := line_after {} read
  column := column_after read

end Position

end ParenCalc
