import ParenCalc.Proofs.Source.Encoded

namespace ParenCalc

namespace Source

open Text Text.Utf8

/--
`FailsNext carried chunks` states that what comes next behind the unfinished sequence `carried`
cannot be decoded: the first of the chunks, or the end where there are none left.
-/
inductive FailsNext (carried : List UInt8) : List (List UInt8) → Prop
  | chunk (chunk : List UInt8) (behind : List (List UInt8))
      (h : ∀ text left, ¬ Decodes carried chunk text left) :
      FailsNext carried (chunk :: behind)
  | ending (h : carried ≠ []) : FailsNext carried []

theorem decodes_or_failsNext (carried : List UInt8) (chunks : List (List UInt8)) :
    (∃ text, Decodes carried chunks.flatten text []) ∨
      ∃ before behind text left, chunks = before ++ behind ∧
        Decodes carried before.flatten text left ∧
        FailsNext left behind := by
  induction chunks generalizing carried with
  | nil =>
    by_cases hcarried : carried = []
    . rw [hcarried]
      exact .inl ⟨[], .nil []⟩
    . exact .inr ⟨[], [], [], carried, rfl, .nil carried, .ending hcarried⟩
  | cons chunk chunks ih =>
    by_cases hchunk : ∃ text left, Decodes carried chunk text left
    . obtain ⟨text, left, hdecodes⟩ := hchunk
      rcases ih left with ⟨text', hrest⟩ | ⟨before, behind, text', left', rfl, hbefore, hbehind⟩
      . exact .inl ⟨text ++ text', hdecodes.append hrest⟩
      . exact .inr ⟨chunk :: before, behind, text ++ text', left', rfl,
          hdecodes.append hbefore, hbehind⟩
    . refine .inr ⟨[], chunk :: chunks, [], carried, rfl, .nil carried, .chunk chunk chunks ?_⟩
      intro text left hdecodes
      exact hchunk ⟨text, left, hdecodes⟩

theorem ofChunks_of_failsNext {carried : List UInt8} {behind : List (List UInt8)}
    (h : FailsNext carried behind)
    (held : Bool) : ∃ fault, Content.ofChunks behind ⟨carried, held⟩ = ⟨[], some fault⟩ := by
  cases h with
  | ending h =>
    refine ⟨truncated 0 carried, ?_⟩
    unfold Content.ofChunks Decoder.finish
    rw [if_neg h]
  | chunk chunk behind h =>
    cases hdecode : decode carried chunk with
    | ok decoded => exact absurd (decode_eq_ok_iff.mp hdecode) (h decoded.1 decoded.2)
    | error fault =>
      refine ⟨fault, ?_⟩
      unfold Content.ofChunks Decoder.push
      rw [hdecode]

theorem content_of_failsNext {before behind : List (List UInt8)} {text : List Char}
    {carried : List UInt8}
    (hbefore : Decodes [] before.flatten text carried) (hbehind : FailsNext carried behind) :
    ∃ fault, content { chunks := before ++ behind } =
      ⟨Newline.unifyAll (Newline.dropFinalReturn text), some fault⟩ := by
  obtain ⟨fault, hfault⟩ := ofChunks_of_failsNext hbehind (Newline.unify false text).2
  refine ⟨fault, ?_⟩
  unfold content
  simp only
  rw [ofChunks_append hbefore, hfault, Newline.unify_fst, List.nil_append, List.append_nil]

end Source

end ParenCalc
