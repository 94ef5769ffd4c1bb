import ParenCalc.Lexer

/-!
This module contains a measure of what is left of an input, and the proof that reading a character
makes it smaller. It is why a lexer comes to the end of its input.
-/

namespace ParenCalc

namespace Text

theorem Utf8.length_step {carried : List UInt8} {byte : UInt8} {sequence : List UInt8}
    (h : Utf8.step carried byte = .unfinished sequence) : sequence.length ≤ carried.length + 1 := by
  unfold Utf8.step at h
  repeat' split at h
  all_goals cases h <;> simp

theorem Utf8.decode.length_go (carried : List UInt8) (start : Nat) (bytes : List UInt8)
    (decoded text : List Char) (left : List UInt8)
    (h : Utf8.decode.go carried start bytes decoded = .ok (text, left)) :
    text.length + left.length ≤ decoded.length + carried.length + bytes.length := by
  induction bytes generalizing carried start decoded with
  | nil =>
    simp only [go, Except.ok.injEq, Prod.mk.injEq] at h
    simp [← h.1, ← h.2]
  | cons byte rest ih =>
    simp only [go] at h
    split at h
    . have hrest := ih _ _ _ h
      simp only [List.length_cons, List.length_nil] at hrest ⊢
      omega
    . next sequence hstep =>
      have hrest := ih _ _ _ h
      have hsequence := length_step hstep
      simp only [List.length_cons] at hrest ⊢
      omega
    . simp at h

theorem Newline.unify.length_go (held : Bool) (text unified : List Char) :
    (Newline.unify.go held text unified).1.length + (Newline.unify.go held text unified).2.toNat ≤
      unified.length + held.toNat + text.length := by
  induction text generalizing held unified with
  | nil => cases held <;> simp [go]
  | cons c rest ih =>
    cases held <;> simp only [go] <;> (repeat' split) <;> refine Nat.le_trans (ih _ _) ?_ <;>
      simp <;> omega

def Decoder.size (decoder : Decoder) : Nat :=
  decoder.carried.length + decoder.heldReturn.toNat

theorem Decoder.size_push {decoder decoder' : Decoder} {chunk : List UInt8} {text : List Char}
    (h : decoder.push chunk = .ok (text, decoder')) :
    text.length + decoder'.size ≤ decoder.size + chunk.length := by
  unfold push at h
  split at h
  . simp at h
  . next decoded carried hdecode =>
    simp only [Except.ok.injEq, Prod.mk.injEq] at h
    obtain ⟨rfl, rfl⟩ := h
    have hdecode := Utf8.decode.length_go _ _ _ _ _ _ hdecode
    have hunify := Newline.unify.length_go decoder.heldReturn decoded []
    simp only [size, Newline.unify, List.length_nil] at *
    omega

theorem Decoder.size_finish {decoder : Decoder} {text : List Char}
    (h : decoder.finish = .ok text) : text.length ≤ decoder.size := by
  unfold finish at h
  split at h
  . simp only [Except.ok.injEq] at h
    subst h
    cases hheld : decoder.heldReturn <;> simp [size, hheld]
  . simp at h

end Text

namespace Source

open Text

/--
No fewer than the characters that are left.
-/
def size (source : Source) : Nat :=
  source.pending.length + source.decoder.size + source.chunks.flatten.length

theorem scan_size {skip : Char → Bool} {text rest skipped : List Char} {c : Char}
    (h : scan skip text = (⟨skipped, some c⟩, rest)) : rest.length < text.length := by
  unfold scan at h
  split at h
  . simp at h
  . next hdrop =>
    simp only [Prod.mk.injEq, Passage.mk.injEq, Option.some.injEq] at h
    obtain ⟨⟨-, rfl⟩, rfl⟩ := h
    have hlength := (List.dropWhile_sublist skip (l := text)).length_le
    rw [hdrop] at hlength
    simp only [List.length_cons] at hlength
    omega

theorem find_size {skip : Char → Bool} {source source' : Source} {skipped : List Char} {c : Char}
    (h : source.find skip = (.ok ⟨skipped, some c⟩, source')) : source'.size < source.size := by
  obtain ⟨pending, chunks, decoder⟩ := source
  simp only [find] at h
  induction chunks generalizing pending decoder skipped with
  | nil =>
    simp only [find.go] at h
    split at h
    . next hscan =>
      simp only [Prod.mk.injEq, Except.ok.injEq, Passage.mk.injEq] at h
      obtain ⟨-, rfl⟩ := h
      have hbehind := scan_size hscan
      simp only [size] at *
      omega
    . split at h
      . simp at h
      . next text hfinish =>
        simp only [Prod.mk.injEq, Except.ok.injEq] at h
        obtain ⟨hpassage, rfl⟩ := h
        have hfound : (scan skip text).1.found = some c := by
          rw [← show (⟨skipped, some c⟩ : Passage).found = some c from rfl, ← hpassage]
          rfl
        have hscan : scan skip text =
            (⟨(scan skip text).1.skipped, some c⟩, (scan skip text).2) := by rw [← hfound]
        have hbehind := scan_size hscan
        have hgiven := Decoder.size_finish hfinish
        simp only [size, Decoder.size, List.length_nil, List.flatten_nil, Bool.toNat_false] at *
        omega
  | cons chunk chunks ih =>
    simp only [find.go] at h
    split at h
    . next hscan =>
      simp only [Prod.mk.injEq, Except.ok.injEq, Passage.mk.injEq] at h
      obtain ⟨-, rfl⟩ := h
      have hbehind := scan_size hscan
      simp only [size] at *
      omega
    . split at h
      . simp at h
      . next text decoder' hpush =>
        simp only [Prod.mk.injEq] at h
        obtain ⟨hmap, hsource⟩ := h
        rcases hgo : find.go skip chunks decoder' text with ⟨fault | ⟨skipped', found⟩, rest⟩
        . simp [hgo, Except.map] at hmap
        . simp only [hgo, Except.map, Except.ok.injEq, Passage.prepend, Passage.mk.injEq] at hmap
          obtain ⟨-, rfl⟩ := hmap
          have hbehind := @ih skipped' text decoder' (by rw [hgo, ← hsource, hgo])
          have hgiven := Decoder.size_push hpush
          simp only [size, List.flatten_cons, List.length_append] at *
          omega

end Source

namespace Lexer

theorem advance_size {lexer lexer' : Lexer} {token : Token} (h : advance lexer = .ok token lexer')
    (hkind : token.kind ≠ .endOfInput) : lexer'.source.size < lexer.source.size := by
  unfold advance at h
  split at h
  . simp at h
  . next hfind =>
    simp only [EStateM.Result.ok.injEq] at h
    rw [← h.2]
    exact Source.find_size hfind
  . simp only [EStateM.Result.ok.injEq] at h
    rw [← h.1] at hkind
    simp [Token.endOfInput] at hkind

end Lexer

end ParenCalc
