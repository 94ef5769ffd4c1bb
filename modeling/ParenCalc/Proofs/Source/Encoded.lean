import ParenCalc.Proofs.Source.Content
import ParenCalc.Proofs.Text.Newline
import ParenCalc.Proofs.Text.Utf8

namespace ParenCalc

namespace Source

open Text Text.Utf8

theorem ofChunks_append {carried left : List UInt8} {before : List (List UInt8)} {text : List Char}
    (h : Decodes carried before.flatten text left) (held : Bool) (behind : List (List UInt8)) :
    let rest := Content.ofChunks behind ⟨left, (Newline.unify held text).2⟩
    Content.ofChunks (before ++ behind) ⟨carried, held⟩ =
      ⟨(Newline.unify held text).1 ++ rest.text, rest.fault⟩ := by
  -- Between two chunks stands what the decoder carries over and a return that it may hold.
  induction before generalizing carried text held with
  | nil =>
    cases h
    rfl
  | cons chunk chunks ih =>
    rw [List.flatten_cons] at h
    obtain ⟨before, behind, between, rfl, hbefore, hbehind⟩ := h.split
    have hpush : Decoder.push ⟨carried, held⟩ chunk =
        .ok ((Newline.unify held before).1, ⟨between, (Newline.unify held before).2⟩) := by
      unfold Decoder.push
      rw [hbefore.decode_eq]
    rw [List.cons_append, Content.ofChunks, hpush]
    simp only
    rw [ih hbehind, Newline.unify_append, List.append_assoc]

theorem ofChunks_of_decodes {carried : List UInt8} {chunks : List (List UInt8)} {text : List Char}
    (h : Decodes carried chunks.flatten text []) (held : Bool) :
    Content.ofChunks chunks ⟨carried, held⟩ =
      ⟨(Newline.unify held text).1 ++ Newline.finish (Newline.unify held text).2, none⟩ := by
  have hchunks := ofChunks_append h held []
  rw [List.append_nil] at hchunks
  rw [hchunks]
  rfl

theorem content_of_decodes {chunks : List (List UInt8)} {text : List Char}
    (h : Decodes [] chunks.flatten text []) :
    content { chunks } = ⟨Newline.unifyAll text, none⟩ := by
  unfold content
  simp only
  rw [ofChunks_of_decodes h]
  rfl

theorem content_of_chunks {chunks : List (List UInt8)} {text : List Char}
    (h : chunks.flatten = encode text) :
    content { chunks } = ⟨Newline.unifyAll text, none⟩ := by
  apply content_of_decodes
  rw [h]
  exact decodes_encode text

theorem flatten_cut (size : Nat) (bytes : List UInt8) : (cut size bytes).flatten = bytes := by
  fun_induction cut size bytes with
  | case1 => rfl
  | case2 byte rest ih => simp [ih]

theorem content_ofBytes (text : List Char) :
    (ofBytes (encode text)).content = ⟨Newline.unifyAll text, none⟩ :=
  content_of_chunks (flatten_cut _ _)

theorem content_ofBytes_of_no_return {text : List Char} (h : ∀ c ∈ text, c ≠ '\r') :
    (ofBytes (encode text)).content = ⟨text, none⟩ := by
  rw [content_ofBytes, Newline.unifyAll_of_no_return h]

end Source

end ParenCalc
