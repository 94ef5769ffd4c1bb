import ParenCalc.Text.Utf8

namespace ParenCalc.Text.Utf8

/--
`Decodes carried bytes text left` states that `bytes` complete the sequence `carried`, go on with
`text`, and leave the sequence `left` unfinished.
-/
inductive Decodes : (carried bytes : List UInt8) → List Char → (left : List UInt8) → Prop
  | nil (carried : List UInt8) : Decodes carried [] [] carried
  | char (carried : List UInt8) (byte : UInt8) (c : Char) (rest : List UInt8) (text : List Char)
      (left : List UInt8) (hstep : step carried byte = .char c)
      (hrest : Decodes [] rest text left) :
      Decodes carried (byte :: rest) (c :: text) left
  | unfinished (carried : List UInt8) (byte : UInt8) (sequence rest : List UInt8) (text : List Char)
      (left : List UInt8) (hstep : step carried byte = .unfinished sequence)
      (hrest : Decodes sequence rest text left) : Decodes carried (byte :: rest) text left

theorem Decodes.decode_go {carried bytes left : List UInt8} {text : List Char}
    (h : Decodes carried bytes text left) (start : Nat) (decoded : List Char) :
    decode.go carried start bytes decoded = .ok (decoded.reverse ++ text, left) := by
  induction h generalizing start decoded with
  | nil carried => simp [decode.go]
  | char carried byte c rest text left hstep hrest ih =>
    rw [decode.go, hstep]
    simp only
    rw [ih]
    simp
  | unfinished carried byte sequence rest text left hstep hrest ih =>
    rw [decode.go, hstep]
    simp only
    rw [ih]

theorem Decodes.decode_eq {carried bytes left : List UInt8} {text : List Char}
    (h : Decodes carried bytes text left) : decode carried bytes = .ok (text, left) :=
  h.decode_go 0 []

theorem decodes_of_decode_go {carried bytes left : List UInt8} {start : Nat}
    {decoded text : List Char}
    (h : decode.go carried start bytes decoded = .ok (text, left)) :
    ∃ behind, text = decoded.reverse ++ behind ∧ Decodes carried bytes behind left := by
  induction bytes generalizing carried start decoded with
  | nil =>
    rw [decode.go, Except.ok.injEq, Prod.mk.injEq] at h
    obtain ⟨rfl, rfl⟩ := h
    exact ⟨[], by simp, .nil _⟩
  | cons byte rest ih =>
    rw [decode.go] at h
    cases hstep : step carried byte with
    | char c =>
      rw [hstep] at h
      obtain ⟨behind, rfl, hdecodes⟩ := ih h
      exact ⟨c :: behind, by simp, .char _ _ _ _ _ _ hstep hdecodes⟩
    | unfinished sequence =>
      rw [hstep] at h
      obtain ⟨behind, rfl, hdecodes⟩ := ih h
      exact ⟨behind, rfl, .unfinished _ _ _ _ _ _ hstep hdecodes⟩
    | refused bytes reason =>
      rw [hstep] at h
      cases h

theorem decode_eq_ok_iff {carried bytes left : List UInt8} {text : List Char} :
    decode carried bytes = .ok (text, left) ↔ Decodes carried bytes text left := by
  constructor
  . intro h
    obtain ⟨behind, rfl, hdecodes⟩ := decodes_of_decode_go h
    exact hdecodes
  . exact Decodes.decode_eq

theorem Decodes.append {carried bytes between rest left : List UInt8} {text text' : List Char}
    (h : Decodes carried bytes text between) (hrest : Decodes between rest text' left) :
    Decodes carried (bytes ++ rest) (text ++ text') left := by
  induction h with
  | nil carried => exact hrest
  | char carried byte c bytes text between hstep _ ih => exact .char _ _ _ _ _ _ hstep (ih hrest)
  | unfinished carried byte sequence bytes text between hstep _ ih =>
    exact .unfinished _ _ _ _ _ _ hstep (ih hrest)

theorem Decodes.split {carried bytes rest left : List UInt8} {text : List Char}
    (h : Decodes carried (bytes ++ rest) text left) :
    ∃ before behind between, text = before ++ behind ∧ Decodes carried bytes before between ∧
      Decodes between rest behind left := by
  induction bytes generalizing carried text with
  | nil => exact ⟨[], text, carried, rfl, .nil carried, h⟩
  | cons byte bytes ih =>
    cases h with
    | char _ _ c _ text _ hstep hrest =>
      obtain ⟨before, behind, between, rfl, hbefore, hbehind⟩ := ih hrest
      exact ⟨c :: before, behind, between, rfl, .char _ _ _ _ _ _ hstep hbefore, hbehind⟩
    | unfinished _ _ sequence _ _ _ hstep hrest =>
      obtain ⟨before, behind, between, rfl, hbefore, hbehind⟩ := ih hrest
      exact ⟨before, behind, between, rfl, .unfinished _ _ _ _ _ _ hstep hbefore, hbehind⟩

section Bytes

variable {lead second third byte : UInt8}

theorem isContinuation_iff : isContinuation byte = true ↔ 128 ≤ byte.toNat ∧ byte.toNat < 192 := by
  simp only [isContinuation, Bool.and_eq_true, decide_eq_true_eq, UInt8.le_iff_toNat_le,
    UInt8.reduceToNat]
  omega

theorem mayFollow_iff : mayFollow lead byte = true ↔ isContinuation byte = true ∧
    (lead.toNat = 0xE0 → 0xA0 ≤ byte.toNat) ∧ (lead.toNat = 0xF0 → 0x90 ≤ byte.toNat) ∧
    (lead.toNat = 0xF4 → byte.toNat < 0x90) := by
  rw [isContinuation_iff]
  simp only [mayFollow, isContinuation, ← UInt8.toNat_inj, UInt8.reduceToNat]
  split
  . simp only [Bool.and_eq_true, decide_eq_true_eq, UInt8.le_iff_toNat_le, UInt8.reduceToNat]
    omega
  . split
    . simp only [Bool.and_eq_true, decide_eq_true_eq, UInt8.le_iff_toNat_le, UInt8.reduceToNat]
      omega
    . split
      all_goals
        simp only [Bool.and_eq_true, decide_eq_true_eq, UInt8.le_iff_toNat_le, UInt8.reduceToNat]
        omega

theorem startsSurrogate_iff :
    startsSurrogate lead second = true ↔ lead.toNat = 0xED ∧ 0xA0 ≤ second.toNat := by
  simp only [startsSurrogate, Bool.and_eq_true, decide_eq_true_eq, UInt8.le_iff_toNat_le,
    ← UInt8.toNat_inj, UInt8.reduceToNat]

theorem step_lead (h : 0xC2 ≤ byte.toNat) (h' : byte.toNat < 0xF5) :
    step [] byte = .unfinished [byte] := by
  simp only [step, UInt8.lt_iff_toNat_lt, UInt8.le_iff_toNat_le, UInt8.reduceToNat]
  rw [if_neg (by omega), if_pos (by simp [h, h'])]

theorem step_ascii (h : byte.toNat < 0x80) : step [] byte = .char (.ofNat byte.toNat) := by
  simp only [step, UInt8.lt_iff_toNat_lt, UInt8.reduceToNat]
  rw [if_pos h]

theorem step_second_of_two (hbyte : isContinuation byte = true) (h : lead.toNat < 0xE0) :
    step [lead] byte = .char (compose (lead.toNat % 32) [byte]) := by
  have hfollow : mayFollow lead byte = true :=
    mayFollow_iff.mpr ⟨hbyte, by omega, by omega, by omega⟩
  simp [step, hfollow, UInt8.lt_iff_toNat_lt, h]

theorem step_second (hbyte : mayFollow lead byte = true) (h : 0xE0 ≤ lead.toNat) :
    step [lead] byte = .unfinished [lead, byte] := by
  simp [step, hbyte, UInt8.lt_iff_toNat_lt, h]

theorem step_third_of_three (hsecond : startsSurrogate lead second = false)
    (hbyte : isContinuation byte = true) (h : lead.toNat < 0xF0) :
    step [lead, second] byte = .char (compose (lead.toNat % 16) [second, byte]) := by
  simp [step, hsecond, hbyte, UInt8.lt_iff_toNat_lt, h]

theorem step_third (hbyte : isContinuation byte = true) (h : 0xF0 ≤ lead.toNat) :
    step [lead, second] byte = .unfinished [lead, second, byte] := by
  have hsecond : startsSurrogate lead second = false := by
    rw [Bool.eq_false_iff, ne_eq, startsSurrogate_iff]
    omega
  simp [step, hsecond, hbyte, UInt8.lt_iff_toNat_lt, h]

theorem step_fourth (hbyte : isContinuation byte = true) :
    step [lead, second, third] byte = .char (compose (lead.toNat % 8) [second, third, byte]) := by
  simp [step, hbyte]

end Bytes

section Encoding

variable {n : Nat} {lead second third fourth : UInt8}

theorem decodes_two (hlow : 0x7F < n) (hhigh : n ≤ 0x7FF) (hlead : lead.toNat = n / 64 % 32 + 192)
    (hsecond : second.toNat = n % 64 + 128) : Decodes [] [lead, second] [.ofNat n] [] := by
  have hcompose : compose (lead.toNat % 32) [second] = .ofNat n := by
    simp only [compose, List.foldl_cons, List.foldl_nil]
    congr 1
    omega
  apply Decodes.unfinished _ _ _ _ _ _ (step_lead (by omega) (by omega))
  rw [← hcompose]
  apply Decodes.char _ _ _ _ _ _ (step_second_of_two (isContinuation_iff.mpr (by omega)) (by omega))
  exact .nil []

theorem decodes_three (hlow : 0x7FF < n) (hhigh : n ≤ 0xFFFF) (hchar : n < 0xD800 ∨ 0xDFFF < n)
    (hlead : lead.toNat = n / 4096 % 16 + 224) (hsecond : second.toNat = n / 64 % 64 + 128)
    (hthird : third.toNat = n % 64 + 128) : Decodes [] [lead, second, third] [.ofNat n] [] := by
  have hcompose : compose (lead.toNat % 16) [second, third] = .ofNat n := by
    simp only [compose, List.foldl_cons, List.foldl_nil]
    congr 1
    omega
  have hfollow : mayFollow lead second = true :=
    mayFollow_iff.mpr ⟨isContinuation_iff.mpr (by omega), by omega, by omega, by omega⟩
  have hsurrogate : startsSurrogate lead second = false := by
    rw [Bool.eq_false_iff, ne_eq, startsSurrogate_iff]
    omega
  apply Decodes.unfinished _ _ _ _ _ _ (step_lead (by omega) (by omega))
  apply Decodes.unfinished _ _ _ _ _ _ (step_second hfollow (by omega))
  rw [← hcompose]
  apply Decodes.char _ _ _ _ _ _
    (step_third_of_three hsurrogate (isContinuation_iff.mpr (by omega)) (by omega))
  exact .nil []

theorem decodes_four (hlow : 0xFFFF < n) (hhigh : n < 0x110000)
    (hlead : lead.toNat = n / 262144 % 8 + 240) (hsecond : second.toNat = n / 4096 % 64 + 128)
    (hthird : third.toNat = n / 64 % 64 + 128) (hfourth : fourth.toNat = n % 64 + 128) :
    Decodes [] [lead, second, third, fourth] [.ofNat n] [] := by
  have hcompose : compose (lead.toNat % 8) [second, third, fourth] = .ofNat n := by
    simp only [compose, List.foldl_cons, List.foldl_nil]
    congr 1
    omega
  have hfollow : mayFollow lead second = true :=
    mayFollow_iff.mpr ⟨isContinuation_iff.mpr (by omega), by omega, by omega, by omega⟩
  apply Decodes.unfinished _ _ _ _ _ _ (step_lead (by omega) (by omega))
  apply Decodes.unfinished _ _ _ _ _ _ (step_second hfollow (by omega))
  apply Decodes.unfinished _ _ _ _ _ _ (step_third (isContinuation_iff.mpr (by omega)) (by omega))
  rw [← hcompose]
  apply Decodes.char _ _ _ _ _ _ (step_fourth (isContinuation_iff.mpr (by omega)))
  exact .nil []

theorem decodes_utf8EncodeChar (c : Char) : Decodes [] (String.utf8EncodeChar c) [c] [] := by
  have hchar : c.toNat < 0xD800 ∨ 0xDFFF < c.toNat ∧ c.toNat < 0x110000 := c.valid
  have hbyte (k : Nat) (h : k < 256) : (UInt8.ofNat k).toNat = k := by
    rw [UInt8.toNat_ofNat', Nat.mod_eq_of_lt h]
  unfold String.utf8EncodeChar
  simp only [show c.val.toNat = c.toNat from rfl]
  have hc := Char.ofNat_toNat c
  generalize c.toNat = n at *
  subst hc
  -- The length of the sequence goes by the size of the code point.
  split
  . apply Decodes.char
    . rw [step_ascii (by rw [hbyte] <;> omega), hbyte n (by omega)]
    . exact .nil []
  split
  . exact decodes_two (by omega) (by omega) (hbyte _ (by omega)) (hbyte _ (by omega))
  split
  . exact decodes_three (by omega) (by omega) (by omega) (hbyte _ (by omega)) (hbyte _ (by omega))
      (hbyte _ (by omega))
  . exact decodes_four (by omega) (by omega) (hbyte _ (by omega)) (hbyte _ (by omega))
      (hbyte _ (by omega)) (hbyte _ (by omega))

theorem decodes_encode (text : List Char) : Decodes [] (encode text) text [] := by
  induction text with
  | nil => exact .nil []
  | cons c text ih =>
    rw [encode_cons]
    exact (decodes_utf8EncodeChar c).append ih

end Encoding

end ParenCalc.Text.Utf8
