import ParenCalc.Proofs.Files.FileTree
import ParenCalc.Proofs.Run.Stop
import ParenCalc.Proofs.Source.Encoded

namespace ParenCalc

namespace Run

open Text Text.Utf8

theorem outcome_of_chunks (limit : Nat) {chunks : List (List UInt8)} {text : List Char}
    (h : chunks.flatten = encode text) :
    (ofSource limit { chunks }).outcome =
      (ofSource limit (.ofText (Newline.unifyAll text))).outcome :=
  (run_of_content_none limit (Source.content_of_chunks h)).1

theorem outcome_ofBytes (limit : Nat) (text : List Char) :
    (ofSource limit (.ofBytes (encode text))).outcome =
      (ofSource limit (.ofText (Newline.unifyAll text))).outcome :=
  (run_of_content_none limit (Source.content_ofBytes text)).1

theorem ofFile_of_lookup (limit : Nat) {tree : FileTree} {path : Path} {bytes : List UInt8}
    (h : tree.lookup path = .file bytes) :
    ∃ run, ofFile limit tree path = .ok run ∧
      run.outcome = (ofSource limit (.ofBytes bytes)).outcome ∧
      run.log = .running (toString path) :: (ofSource limit (.ofBytes bytes)).log := by
  unfold ofFile ofLookup
  rw [h]
  exact ⟨_, rfl, rfl, rfl⟩

def withLineFeeds (s : String) : String :=
  String.ofList (Newline.replaceReturns (joinLineEnds s.toList))

theorem ofString_withLineFeeds (limit : Nat) (s : String) :
    ofString limit (withLineFeeds s) = ofSource limit (.ofText (Newline.unifyAll s.toList)) := by
  unfold ofString Source.ofString withLineFeeds
  rw [String.toList_ofList, Newline.unifyAll_eq]

/--
The bytes of a text have the outcome of the text with its line ends made line feeds: in chunks of
any size, as an input, and in a file.
-/
theorem encoded_program_outcome (limit : Nat) (s : String) :
    (∀ chunks : List (List UInt8), chunks.flatten = encode s.toList →
      (ofSource limit { chunks }).outcome = (ofString limit (withLineFeeds s)).outcome) ∧
    (ofSource limit (.ofBytes (encode s.toList))).outcome =
      (ofString limit (withLineFeeds s)).outcome ∧
    (∀ (tree : FileTree) (path : Path), tree.lookup path = .file (encode s.toList) →
      ∃ run, ofFile limit tree path = .ok run ∧
        run.outcome = (ofString limit (withLineFeeds s)).outcome) := by
  rw [ofString_withLineFeeds]
  refine ⟨?_, ?_, ?_⟩
  . intro chunks hchunks
    exact outcome_of_chunks limit hchunks
  . exact outcome_ofBytes limit s.toList
  . intro tree path hlookup
    obtain ⟨run, hrun, houtcome, -⟩ := ofFile_of_lookup limit hlookup
    exact ⟨run, hrun, houtcome.trans (outcome_ofBytes limit s.toList)⟩

theorem split_program_outcome :
    let chunks : List (List UInt8) := [[40, 49, 43, 13], [10, 50, 41, 195], [169]]
    let tree : FileTree := { entries := [(["sum.dh"], some chunks.flatten)] }
    chunks.flatten = encode "(1+\r\n2)é".toList ∧
      (ofSource 20 { chunks }).outcome = (ofString 20 "(1+\n2)é").outcome ∧
      tree.lookup (.ofString "sum.dh") = .file (encode "(1+\r\n2)é".toList) ∧
      ∃ run, ofFile 20 tree (.ofString "sum.dh") = .ok run ∧
        run.outcome = (ofString 20 "(1+\n2)é").outcome := by
  intro chunks tree
  have hchunks : chunks.flatten = encode "(1+\r\n2)é".toList := by decide
  have hlookup : tree.lookup (.ofString "sum.dh") = .file (encode "(1+\r\n2)é".toList) := by
    rw [← hchunks]
    exact FileTree.lookup_singleton _ (by decide) (by decide) (by decide) (by decide)
  obtain ⟨hsource, -, hfile⟩ := encoded_program_outcome 20 "(1+\r\n2)é"
  exact ⟨hchunks, hsource chunks hchunks, hlookup, hfile tree _ hlookup⟩

end Run

end ParenCalc
