import ParenCalc.Proofs.Lexer.OfText

/-!
This module contains what an input holds, decoded to its end or up to the first chunk that cannot
be, and that reading from the input is reading from the text that it holds.
-/

namespace ParenCalc

namespace Source

open Text

structure Content where
  text : List Char
  fault : Option Utf8.Fault
  deriving DecidableEq, Repr

def Content.ofChunks : List (List UInt8) → Decoder → Content
  | [], decoder =>
    match decoder.finish with
    | .ok text => ⟨text, none⟩
    | .error fault => ⟨[], some fault⟩
  | chunk :: chunks, decoder =>
    match decoder.push chunk with
    | .ok (text, decoder) =>
      let behind := ofChunks chunks decoder
      ⟨text ++ behind.text, behind.fault⟩
    | .error fault => ⟨[], some fault⟩

def content (source : Source) : Content :=
  let behind := Content.ofChunks source.chunks source.decoder
  ⟨source.pending ++ behind.text, behind.fault⟩

def Content.find (skip : Char → Bool) (content : Content) : Except Utf8.Fault Passage :=
  match (scan skip content.text).1.found, content.fault with
  | none, some fault => .error fault
  | _, _ => .ok (scan skip content.text).1

variable {skip : Char → Bool}

theorem content_ofText (text : List Char) : (ofText text).content = ⟨text, none⟩ := by
  simp [content, ofText, Content.ofChunks]

theorem skip_of_scan {text skipped rest : List Char}
    (h : scan skip text = (⟨skipped, none⟩, rest)) : ∀ c ∈ text, skip c = true := by
  unfold scan at h
  split at h
  . next hdrop =>
    have htext := List.takeWhile_append_dropWhile (p := skip) (l := text)
    rw [hdrop, List.append_nil] at htext
    rw [← htext]
    exact List.all_eq_true.mp List.all_takeWhile
  . simp at h

theorem eq_of_scan {text skipped rest : List Char} {c : Char}
    (h : scan skip text = (⟨skipped, some c⟩, rest)) :
    text = skipped ++ c :: rest ∧ (∀ c ∈ skipped, skip c = true) ∧ skip c = false := by
  unfold scan at h
  split at h
  . simp at h
  . next c' rest' hdrop =>
    simp only [Prod.mk.injEq, Passage.mk.injEq, Option.some.injEq] at h
    obtain ⟨⟨rfl, rfl⟩, rfl⟩ := h
    have hnot := List.head?_dropWhile_not skip text
    rw [hdrop] at hnot
    refine ⟨?_, List.all_eq_true.mp List.all_takeWhile, hnot⟩
    rw [← hdrop, List.takeWhile_append_dropWhile]

theorem scan_append_of_all {text : List Char} (h : ∀ c ∈ text, skip c = true) (behind : List Char) :
    scan skip (text ++ behind) = ((scan skip behind).1.prepend text, (scan skip behind).2) := by
  unfold scan
  rw [List.dropWhile_append_of_pos h, List.takeWhile_append_of_pos h]
  split <;> rfl

theorem scan_append_of_found {text skipped rest : List Char} {c : Char}
    (h : scan skip text = (⟨skipped, some c⟩, rest)) (behind : List Char) :
    scan skip (text ++ behind) = (⟨skipped, some c⟩, rest ++ behind) := by
  obtain ⟨rfl, hall, hc⟩ := eq_of_scan h
  rw [List.append_assoc, List.cons_append, scan_append_of_all hall, scan_cons,
    if_neg (by simp [hc])]
  simp [Passage.prepend]

theorem Content.find_append {text : List Char} (h : ∀ c ∈ text, skip c = true) (content : Content) :
    Content.find skip ⟨text ++ content.text, content.fault⟩ =
      (content.find skip).map (·.prepend text) := by
  unfold find
  rw [scan_append_of_all h]
  simp only [Passage.prepend]
  split <;> simp_all [Except.map]

theorem Content.find_eq_ok {content : Content} {passage : Passage}
    (h : content.find skip = .ok passage) : passage = (scan skip content.text).1 := by
  unfold find at h
  split at h
  . cases h
  . exact (Except.ok.inj h).symm

theorem Content.fault_of_find_eq_ok {skip : Char → Bool} {content : Content} {passage : Passage}
    (h : content.find skip = .ok passage) (hfound : passage.found = none) :
    content.fault = none := by
  obtain rfl := find_eq_ok h
  unfold find at h
  split at h
  . cases h
  . next hfault =>
    cases hcontent : content.fault with
    | none => rfl
    | some fault => exact absurd hcontent (hfault fault hfound)

theorem Content.find_eq_error {content : Content} {fault : Utf8.Fault}
    (h : content.find skip = .error fault) :
    content.fault = some fault ∧ (scan skip content.text).1.found = none := by
  unfold find at h
  split at h
  . next hfound hfault => exact ⟨hfault.trans (congrArg some (Except.error.inj h)), hfound⟩
  . cases h

theorem find_eq (skip : Char → Bool) (source : Source) :
    (source.find skip).1 = source.content.find skip ∧
      (∀ passage, source.content.find skip = .ok passage →
        (source.find skip).2.content =
          ⟨(scan skip source.content.text).2, source.content.fault⟩) := by
  obtain ⟨pending, chunks, decoder⟩ := source
  unfold find
  simp only
  induction chunks generalizing decoder pending with
  | nil =>
    unfold find.go
    split
    . next skipped c rest hscan =>
      have hcontent := scan_append_of_found hscan (Content.ofChunks [] decoder).text
      simp [Content.find, content, hcontent]
    . next skipped rest hscan =>
      split
      . next fault hfinish =>
        simp [Content.find, content, Content.ofChunks, hfinish, hscan]
      . next text hfinish =>
        have hcontent := scan_append_of_all (skip_of_scan hscan) text
        simp [Content.find, content, Content.ofChunks, hfinish, hcontent]
  | cons chunk chunks ih =>
    unfold find.go
    split
    . next skipped c rest hscan =>
      have hcontent := scan_append_of_found hscan (Content.ofChunks (chunk :: chunks) decoder).text
      simp [Content.find, content, hcontent]
    . next skipped rest hscan =>
      split
      . next fault hpush =>
        simp [Content.find, content, Content.ofChunks, hpush, hscan]
      . next text decoder' hpush =>
        have hall := skip_of_scan hscan
        have hcontent : content ⟨pending, chunk :: chunks, decoder⟩ =
            ⟨pending ++ (content ⟨text, chunks, decoder'⟩).text,
              (content ⟨text, chunks, decoder'⟩).fault⟩ := by
          simp [content, Content.ofChunks, hpush]
        rw [hcontent, Content.find_append hall, scan_append_of_all hall]
        obtain ⟨hpassage, hrest⟩ := ih text decoder'
        constructor
        . exact congrArg (Except.map _) hpassage
        . intro passage hmap
          cases hfind : (content ⟨text, chunks, decoder'⟩).find skip with
          | error fault =>
            rw [hfind] at hmap
            cases hmap
          | ok passage' => exact hrest passage' hfind

end Source

end ParenCalc
