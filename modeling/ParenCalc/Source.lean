import ParenCalc.Text.Decoder

/-!
This module contains the input that programs are read from: a text, or bytes that are decoded a
chunk at a time, and only when a character beyond those decoded so far is asked for.
-/

namespace ParenCalc

open Text

/--
An input: the characters that are decoded and not yet read, and the chunks of bytes behind them. A
text is an input without chunks.
-/
structure Source where
  pending : List Char := []
  chunks : List (List UInt8) := []
  decoder : Decoder := {}
  deriving DecidableEq, Repr

namespace Source

def chunkSize : Nat := 8192

/--
Cut bytes into chunks of `size + 1` bytes and a last one that may be shorter.
-/
def cut (size : Nat) : List UInt8 → List (List UInt8)
  | [] => []
  | byte :: rest => (byte :: rest.take size) :: cut size (rest.drop size)
termination_by bytes => bytes.length
decreasing_by simp only [List.length_drop, List.length_cons]; omega

def ofText (text : List Char) : Source :=
  { pending := text }

def ofString (text : String) : Source :=
  ofText text.toList

def ofBytes (bytes : List UInt8) : Source :=
  { chunks := cut (chunkSize - 1) bytes }

/--
A stretch of input: the characters passed over, and the one that ended it unless the input did.
-/
structure Passage where
  skipped : List Char
  found : Option Char
  deriving DecidableEq, Repr

def Passage.prepend (text : List Char) (passage : Passage) : Passage :=
  { passage with skipped := text ++ passage.skipped }

def scan (skip : Char → Bool) (text : List Char) : Passage × List Char :=
  match text.dropWhile skip with
  | [] => (⟨text, none⟩, [])
  | c :: rest => (⟨text.takeWhile skip, some c⟩, rest)

/--
Read characters while `skip` holds, and the one after them. Chunks are decoded as long as the
characters at hand do not end the passage. One that fails is lost, and the input stands behind it as
it did in front of it.
-/
def find (skip : Char → Bool) (source : Source) : Except Utf8.Fault Passage × Source :=
  go source.chunks source.decoder source.pending
where
  go : List (List UInt8) → Decoder → List Char → Except Utf8.Fault Passage × Source
    | [], decoder, pending =>
      match scan skip pending with
      | (⟨skipped, some c⟩, rest) => (.ok ⟨skipped, some c⟩, ⟨rest, [], decoder⟩)
      | (⟨_, none⟩, _) =>
        match decoder.finish with
        | .error fault => (.error fault, ⟨[], [], decoder⟩)
        | .ok text =>
          let (passage, rest) := scan skip text
          (.ok (passage.prepend pending), ⟨rest, [], {}⟩)
    | chunk :: chunks, decoder, pending =>
      match scan skip pending with
      | (⟨skipped, some c⟩, rest) => (.ok ⟨skipped, some c⟩, ⟨rest, chunk :: chunks, decoder⟩)
      | (⟨_, none⟩, _) =>
        match decoder.push chunk with
        | .error fault => (.error fault, ⟨[], chunks, decoder⟩)
        | .ok (text, decoder) =>
          let (passage, source) := go chunks decoder text
          (passage.map (·.prepend pending), source)

def next (source : Source) : Except Utf8.Fault (Option Char) × Source :=
  let (passage, source) := source.find fun _ => false
  (passage.map (·.found), source)

def rest (source : Source) : Except Utf8.Fault (List Char) × Source :=
  let (passage, source) := source.find fun _ => true
  (passage.map (·.skipped), source)

section Lemmas

variable (skip : Char → Bool)

theorem scan_nil : scan skip [] = (⟨[], none⟩, []) := rfl

theorem scan_cons (c : Char) (text : List Char) :
    scan skip (c :: text) =
      if skip c then ((scan skip text).1.prepend [c], (scan skip text).2)
      else (⟨[], some c⟩, text) := by
  by_cases h : skip c
  . simp only [scan, List.dropWhile_cons, List.takeWhile_cons, h, if_true]
    cases List.dropWhile skip text <;> rfl
  . simp [scan, h]

theorem scan_all (text : List Char) (h : ∀ c ∈ text, skip c = true) :
    scan skip text = (⟨text, none⟩, []) := by
  induction text with
  | nil => rfl
  | cons c text ih =>
    simp only [List.mem_cons, forall_eq_or_imp] at h
    simp [scan_cons, h.1, ih h.2, Passage.prepend]

theorem find_ofText (text : List Char) :
    (ofText text).find skip = (.ok (scan skip text).1, ofText (scan skip text).2) := by
  simp only [find, ofText, find.go]
  match h : scan skip text with
  | (⟨skipped, some c⟩, rest) => rfl
  | (⟨skipped, none⟩, rest) =>
    unfold scan at h
    split at h
    . simp only [Prod.mk.injEq, Passage.mk.injEq] at h
      obtain ⟨⟨rfl, -⟩, rfl⟩ := h
      simp [scan_nil, Passage.prepend]
    . simp at h

@[simp]
theorem next_ofText_nil : (ofText []).next = (.ok none, ofText []) := rfl

@[simp]
theorem next_ofText_cons (c : Char) (text : List Char) :
    (ofText (c :: text)).next = (.ok (some c), ofText text) := by
  simp [next, find_ofText, scan, Except.map]

@[simp]
theorem rest_ofText (text : List Char) : (ofText text).rest = (.ok text, ofText []) := by
  simp [rest, find_ofText, scan_all, Except.map]

end Lemmas

end Source

end ParenCalc
