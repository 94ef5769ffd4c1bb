import ParenCalc.Proofs.Command.Asking
import ParenCalc.Proofs.Lexer.Listing
import ParenCalc.Proofs.Source.Faulty
import ParenCalc.Proofs.Text.Lines

namespace ParenCalc

open Text Text.Utf8

/--
`HasTokens chunks tokens fails` states which tokens are those of an input that comes in chunks, and
whether it fails. Chunks that are decoded to their end have the tokens of their text, with the end
of the input. Where they are not, the text of the chunks in front of the one that fails has its
tokens without the end of the input.
-/
inductive Lexer.HasTokens (chunks : List (List UInt8)) :
    (tokens : List Token) → (fails : Bool) → Prop
  | decoded (text : List Char) (h : Decodes [] chunks.flatten text []) :
      HasTokens chunks (tokenize (String.ofList (Newline.unifyAll text))) false
  | faulty (before behind : List (List UInt8)) (text : List Char) (carried : List UInt8)
      (hchunks : chunks = before ++ behind) (hbefore : Decodes [] before.flatten text carried)
      (hbehind : Source.FailsNext carried behind) :
      HasTokens chunks
        (tokenize (String.ofList (Newline.unifyAll (Newline.dropFinalReturn text)))).dropLast true

namespace Lexer

variable {chunks : List (List UInt8)} {tokens : List Token} {fails : Bool}

theorem exists_hasTokens (chunks : List (List UInt8)) :
    ∃ tokens fails, HasTokens chunks tokens fails := by
  rcases Source.decodes_or_failsNext [] chunks with
    ⟨text, h⟩ | ⟨before, behind, text, carried, h, hbefore, hbehind⟩
  . exact ⟨_, _, .decoded text h⟩
  . exact ⟨_, _, .faulty before behind text carried h hbefore hbehind⟩

theorem HasTokens.tokens_eq (h : HasTokens chunks tokens fails) :
    ∃ fault : Option Fault, (Lexer.tokens { source := { chunks } }).1 = ⟨tokens, fault⟩ ∧
      fault.isSome = fails := by
  cases h with
  | decoded text h =>
    refine ⟨none, ?_, rfl⟩
    rw [tokens_of_content (Source.content_of_decodes h), Listing.before_none]
  | faulty before behind text carried hchunks hbefore hbehind =>
    obtain ⟨fault, hcontent⟩ := Source.content_of_failsNext hbefore hbehind
    rw [← hchunks] at hcontent
    refine ⟨some fault, ?_, rfl⟩
    rw [tokens_of_content hcontent, Listing.before_some]

theorem kind_of_mem_dropLast_tokenize {text : String} {token : Token}
    (h : token ∈ (tokenize text).dropLast) :
    token.kind ≠ .endOfInput := by
  rw [tokenize_eq, List.range_succ, List.map_append, List.map_singleton, List.dropLast_concat] at h
  obtain ⟨index, hindex, rfl⟩ := List.mem_map.mp h
  rw [List.mem_range] at hindex
  rw [ne_eq, kind_tokenAt_eq_endOfInput_iff]
  omega

theorem HasTokens.kind_ne_endOfInput (h : HasTokens chunks tokens true) :
    ∀ token ∈ tokens, token.kind ≠ .endOfInput := by
  cases h with
  | faulty => exact fun token => kind_of_mem_dropLast_tokenize

end Lexer

namespace Command

open Lexer (HasTokens)

def written (tokens : List Token) : String :=
  String.join (tokens.map fun token => token.listing ++ "\n")

theorem written_injective {tokens tokens' : List Token} (h : written tokens = written tokens') :
    tokens = tokens' := by
  have hlines (tokens : List Token) :
      Source.LinesOf (written tokens).toList ((tokens.map Token.listing).map String.toList) := by
    have hjoin := @Source.linesOf_join (tokens.map Token.listing) ?_
    . rw [List.map_map] at hjoin
      exact hjoin
    . intro line hline
      obtain ⟨token, -, rfl⟩ := List.mem_map.mp hline
      exact token.oneLine_listing
  have hlistings := (hlines tokens).unique (h ▸ hlines tokens')
  rw [List.map_inj_right (fun _ _ => String.toList_inj.mp),
    List.map_inj_right (fun _ _ => Token.listing_injective)] at hlistings
  exact hlistings

section Command

variable {source : Source} {listed : List Token}

theorem tokens_of_whole (h : (Lexer.tokens { source }).1 = ⟨listed, none⟩) :
    (tokens source).2 = .ok 0 ∧ Console.stdout (tokens source).1 = written listed ∧
      Console.errors (tokens source).1 = "" := by
  let log := (Lexer.tokens { source }).2.lexed.reverse.map Log.Entry.lexed
  have htokens : tokens source =
      (listed.map (fun token => .out (token.listing ++ "\n")) ++ log.map .log, .ok 0) := by
    simp only [tokens, h, log]
  rw [htokens]
  refine ⟨rfl, ?_, ?_⟩
  . rw [Console.stdout_append, Console.stdout_out, Console.stdout_log, String.append_empty, written]
  . rw [Console.errors_append, Console.errors_out, Console.errors_log, String.append_empty]

theorem tokens_of_fault {fault : Fault} (h : (Lexer.tokens { source }).1 = ⟨listed, some fault⟩) :
    (tokens source).2 = .ok 1 ∧ Console.stdout (tokens source).1 = written listed ∧
      Console.errors (tokens source).1 =
        "[dharma] Error: " ++ ("Read error: " ++ fault.message) ++ "\n" := by
  let log := (Lexer.tokens { source }).2.lexed.reverse.map Log.Entry.lexed
  let message := "[dharma] Error: " ++ ("Read error: " ++ fault.message) ++ "\n"
  have htokens : tokens source =
      (listed.map (fun token => .out (token.listing ++ "\n")) ++
        (log.map .log ++ [.err message]), .ok 1) := by
    simp only [tokens, h, failure, log, message, Outcome.message?, Option.getD_some]
  have hout : Console.stdout [.err message] = "" := rfl
  have herror : Console.errors [.err message] = message := String.empty_append
  rw [htokens]
  refine ⟨rfl, ?_, ?_⟩
  . rw [Console.stdout_append, Console.stdout_out, Console.stdout_append, Console.stdout_log, hout,
      String.append_empty, String.append_empty, written]
  . rw [Console.errors_append, Console.errors_out, Console.errors_append, Console.errors_log,
      herror, String.empty_append, String.empty_append]

end Command

variable {arguments : List String} {invocation : Invocation} {stdin : Source}
  {lookup : Path → FileTree.Lookup} {chunks : List (List UInt8)} {listed : List Token}
  {fails : Bool}

inductive ListsTokens (verbose : Bool) (report : Report) (listed : List Token) :
    (fails : Bool) → Prop
  | whole (h : report.Writes verbose 0 (written listed) "") :
      ListsTokens verbose report listed false
  | fault (fault : Fault) (hkind : ∀ token ∈ listed, token.kind ≠ .endOfInput)
      (hline : OneLine fault.message)
      (h : report.Writes verbose 1 (written listed)
        ("[dharma] Error: " ++ ("Read error: " ++ fault.message) ++ "\n")) :
      ListsTokens verbose report listed true

theorem AsksFor.listsTokens (h : AsksFor arguments .tokens invocation) (host : Host)
    (hopen : openInput stdin lookup invocation.input = .ok { chunks })
    (htokens : HasTokens chunks listed fails) :
    ListsTokens invocation.verbose (execute host arguments stdin lookup) listed fails := by
  obtain ⟨fault, hlisted, rfl⟩ := htokens.tokens_eq
  cases fault with
  | none =>
    obtain ⟨hending, hstdout, herrors⟩ := tokens_of_whole hlisted
    exact .whole (h.writes ((h.perform_tokens hopen).trans (Prod.ext rfl hending)) hstdout herrors)
  | some fault =>
    obtain ⟨hending, hstdout, herrors⟩ := tokens_of_fault hlisted
    exact .fault fault htokens.kind_ne_endOfInput fault.oneLine_message
      (h.writes ((h.perform_tokens hopen).trans (Prod.ext rfl hending)) hstdout herrors)

theorem ListsTokens.stdout {verbose : Bool} {report : Report}
    (h : ListsTokens verbose report listed fails) : report.stdout = written listed := by
  cases h with
  | whole h => exact h.stdout
  | fault _ _ _ h => exact h.stdout

/--
The command that lists tokens writes one line for each token of its input, in order. It ends well if
the input can be decoded to its end. If not, it stops in front of the chunk that cannot be, without
a line for the end of the input, and ends badly with one line for the error. Inputs for which the
same is written have the same tokens.
-/
theorem tokens_listed_line_by_line (host : Host) (arguments : List String) (invocation : Invocation)
    (stdin : Source) (lookup : Path → FileTree.Lookup) (chunks : List (List UInt8))
    (h : AsksFor arguments .tokens invocation)
    (hopen : openInput stdin lookup invocation.input = .ok { chunks }) :
    let report := execute host arguments stdin lookup
    (∃ tokens fails, HasTokens chunks tokens fails) ∧
    ∀ tokens fails, HasTokens chunks tokens fails →
      report.stdout = String.join (tokens.map fun token => token.listing ++ "\n") ∧
      (∀ token ∈ tokens, OneLine token.listing) ∧
      ListsTokens invocation.verbose report tokens fails ∧
      ∀ host' arguments' invocation' stdin' lookup' chunks' tokens' fails',
        AsksFor arguments' .tokens invocation' →
        openInput stdin' lookup' invocation'.input = .ok { chunks := chunks' } →
        HasTokens chunks' tokens' fails' →
        (execute host' arguments' stdin' lookup').stdout = report.stdout → tokens' = tokens := by
  intro report
  refine ⟨Lexer.exists_hasTokens chunks, ?_⟩
  intro tokens fails htokens
  have hlists : ListsTokens invocation.verbose report tokens fails :=
    h.listsTokens host hopen htokens
  refine ⟨hlists.stdout, fun token _ => token.oneLine_listing, hlists, ?_⟩
  intro host' arguments' invocation' stdin' lookup' chunks' tokens' fails' h' hopen' htokens' hsame
  have hlists' := h'.listsTokens host' hopen' htokens'
  rw [hlists.stdout, hlists'.stdout] at hsame
  exact written_injective hsame

theorem tokens_listed_line_by_line_faulty :
    let host : Host := { room := 994, paint := id }
    let invocation : Invocation := { name := some .tokens }
    let lookup := ({} : FileTree).lookup
    let whole : List (List UInt8) := [[49, 13], [10, 39]]
    let faulty : List (List UInt8) := [[49, 13], [10, 39, 255]]
    AsksFor ["tokens", "-"] .tokens invocation ∧
      (∀ chunks, openInput { chunks } lookup invocation.input = .ok { chunks }) ∧
      HasTokens whole (Lexer.tokenize "1\n'") false ∧
      HasTokens faulty (Lexer.tokenize "1").dropLast true ∧
      (execute host ["tokens", "-"] { chunks := whole } lookup).stdout =
        "1:0\tDIGIT\t'1'\n2:0\tUNKNOWN\t\"'\"\n2:1\tEND_OF_INPUT\t'#'\n" ∧
      (execute host ["tokens", "-"] { chunks := faulty } lookup).stdout = "1:0\tDIGIT\t'1'\n" := by
  intro host invocation lookup whole faulty
  have harguments : AsksFor ["tokens", "-"] .tokens invocation :=
    @asksFor_input .tokens "-" rfl (.inl rfl)
  have hopen (chunks : List (List UInt8)) :
      openInput { chunks } lookup invocation.input = .ok { chunks } := rfl
  have hwhole : HasTokens whole (Lexer.tokenize "1\n'") false :=
    .decoded "1\r\n'".toList (decode_eq_ok_iff.mp rfl)
  have hfaulty : HasTokens faulty (Lexer.tokenize "1").dropLast true := by
    refine .faulty [[49, 13]] [[10, 39, 255]] ['1', '\r'] [] rfl (decode_eq_ok_iff.mp rfl)
      (.chunk _ _ ?_)
    intro text left hdecodes
    cases hdecodes.decode_eq
  obtain ⟨-, hlisted⟩ :=
    tokens_listed_line_by_line host _ invocation _ lookup whole harguments (hopen whole)
  obtain ⟨-, hlisted'⟩ :=
    tokens_listed_line_by_line host _ invocation _ lookup faulty harguments (hopen faulty)
  refine ⟨harguments, hopen, hwhole, hfaulty, (hlisted _ _ hwhole).1.trans ?_,
    (hlisted' _ _ hfaulty).1.trans ?_⟩
  . rw [Lexer.tokenize_eq]
    decide +kernel
  . rw [Lexer.tokenize_eq]
    decide +kernel

end Command

end ParenCalc
