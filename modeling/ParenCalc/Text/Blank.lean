import ParenCalc.Text.CharRange

namespace ParenCalc.Text

/--
The blank characters: those of Unicode's bidirectional classes `WS`, `B` and `S`, and the space
separators.
-/
def blankRanges : List CharRange :=
  [⟨0x9, 0xD⟩, ⟨0x1C, 0x20⟩, ⟨0x85, 0x85⟩, ⟨0xA0, 0xA0⟩, ⟨0x1680, 0x1680⟩, ⟨0x2000, 0x200A⟩,
    ⟨0x2028, 0x2029⟩, ⟨0x202F, 0x202F⟩, ⟨0x205F, 0x205F⟩, ⟨0x3000, 0x3000⟩]

def isBlank (c : Char) : Bool :=
  CharRange.search c.toNat blankRanges

def trimLeft (text : List Char) : List Char :=
  text.dropWhile isBlank

def trimRight (text : List Char) : List Char :=
  (text.reverse.dropWhile isBlank).reverse

def trim (text : List Char) : List Char :=
  trimRight (trimLeft text)

@[simp]
theorem trim_nil : trim [] = [] := rfl

@[simp]
theorem trimRight_append_blank (text : List Char) (c : Char) (h : isBlank c = true) :
    trimRight (text ++ [c]) = trimRight text := by
  simp [trimRight, h]

@[simp]
theorem trimRight_append_ink (text : List Char) (c : Char) (h : isBlank c = false) :
    trimRight (text ++ [c]) = text ++ [c] := by
  simp [trimRight, h]

theorem trimLeft_of_ink {text : List Char} (h : ∀ c ∈ text, isBlank c = false) :
    trimLeft text = text := by
  unfold trimLeft
  cases text with
  | nil => rfl
  | cons c rest => rw [List.dropWhile_cons, h c List.mem_cons_self, if_neg Bool.false_ne_true]

theorem trim_of_ink {text : List Char} (h : ∀ c ∈ text, isBlank c = false) : trim text = text := by
  have hreverse : trimLeft text.reverse = text.reverse :=
    trimLeft_of_ink fun c hc => h c (List.mem_reverse.mp hc)
  unfold trim trimRight
  rw [trimLeft_of_ink h, ← trimLeft, hreverse, List.reverse_reverse]

end ParenCalc.Text
