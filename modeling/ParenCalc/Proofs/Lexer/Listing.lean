import ParenCalc.Proofs.Lexer.Tokenization
import ParenCalc.Proofs.Parser.Decoded
import ParenCalc.Proofs.Run.Message
import ParenCalc.Proofs.Text.Numeral
import ParenCalc.Proofs.Text.Quoted

namespace ParenCalc

theorem Digit.isPrintable_toChar (d : Digit) : Text.isPrintable d.toChar = true := by
  revert d
  decide

namespace Text

theorem eq_of_append_cons_eq {separator : Char} {field field' rest rest' : List Char}
    (h : separator ∉ field)
    (h' : separator ∉ field') (heq : field ++ separator :: rest = field' ++ separator :: rest') :
    field = field' ∧ rest = rest' := by
  induction field generalizing field' with
  | nil =>
    cases field' with
    | nil => exact ⟨rfl, (List.cons.inj heq).2⟩
    | cons c field' => exact absurd ((List.cons.inj heq).1 ▸ List.mem_cons_self) h'
  | cons c field ih =>
    cases field' with
    | nil => exact absurd ((List.cons.inj heq).1 ▸ List.mem_cons_self) h
    | cons c' field' =>
      obtain ⟨rfl, hrest⟩ := List.cons.inj heq
      obtain ⟨rfl, rfl⟩ := ih (mt (List.mem_cons_of_mem c) h) (mt (List.mem_cons_of_mem c) h') hrest
      exact ⟨rfl, rfl⟩

theorem not_mem_toString {c : Char} (hdigit : c.isDigit = false) (hminus : c ≠ '-') (n : Int) :
    c ∉ (toString n).toList := by
  intro h
  rcases isDigit_or_minus_of_mem_toString h with h | h
  . rw [hdigit] at h
    cases h
  . exact hminus h

theorem isPrintable_of_mem_toString {n : Int} {c : Char} (h : c ∈ (toString n).toList) :
    isPrintable c = true := by
  rcases isDigit_or_minus_of_mem_toString h with h | rfl
  . obtain ⟨d, rfl⟩ := Digit.isDigit_iff.mp h
    exact d.isPrintable_toChar
  . decide

end Text

namespace Token

open Text

theorem toList_listing (token : Token) :
    token.listing.toList = (toString token.position.line).toList ++ ':' ::
      ((toString token.position.column).toList ++
      '\t' :: (token.kind.name.toList ++ '\t' :: (quote token.text).toList)) := by
  simp [listing]

theorem Kind.name_injective {kind kind' : Kind} (h : kind.name = kind'.name) : kind = kind' := by
  cases kind <;> cases kind' <;> first | rfl | exact absurd h (by decide)

theorem Kind.tab_not_mem_name (kind : Kind) : '\t' ∉ kind.name.toList := by
  cases kind <;> decide

theorem listing_injective {token token' : Token} (h : token.listing = token'.listing) :
    token = token' := by
  have hcolon := not_mem_toString (c := ':') rfl (by decide)
  have htab := not_mem_toString (c := '\t') rfl (by decide)
  have hchars := congrArg String.toList h
  rw [toList_listing, toList_listing] at hchars
  obtain ⟨hline, hchars⟩ := eq_of_append_cons_eq (hcolon _) (hcolon _) hchars
  obtain ⟨hcolumn, hchars⟩ := eq_of_append_cons_eq (htab _) (htab _) hchars
  obtain ⟨hname, htext⟩ :=
    eq_of_append_cons_eq (Kind.tab_not_mem_name _) (Kind.tab_not_mem_name _) hchars
  obtain ⟨kind, text, ⟨line, column⟩⟩ := token
  obtain ⟨kind', text', ⟨line', column'⟩⟩ := token'
  rw [String.toList_inj] at hline hcolumn hname htext
  obtain rfl : kind = kind' := Kind.name_injective hname
  obtain rfl : text = text' := quote_injective htext
  obtain rfl : line = line' := toString_int_injective hline
  obtain rfl : column = column' := toString_int_injective hcolumn
  rfl

theorem Kind.all_isPrintable_name (kind : Kind) : kind.name.toList.all isPrintable = true := by
  cases kind <;> rfl

theorem isPrintable_of_mem_listing {token : Token} {c : Char} (h : c ∈ token.listing.toList) :
    isPrintable c = true ∨ c = '\t' := by
  simp only [toList_listing, List.mem_append, List.mem_cons] at h
  rcases h with hline | rfl | hcolumn | rfl | hname | rfl | htext
  . exact .inl (isPrintable_of_mem_toString hline)
  . exact .inl (by decide)
  . exact .inl (isPrintable_of_mem_toString hcolumn)
  . exact .inr rfl
  . exact .inl (List.all_eq_true.mp (Kind.all_isPrintable_name _) c hname)
  . exact .inr rfl
  . exact .inl (isPrintable_of_mem_quote htext)

theorem oneLine_listing (token : Token) : OneLine token.listing := by
  intro h
  rcases isPrintable_of_mem_listing h with hprintable | htab
  . exact absurd hprintable (by decide)
  . exact absurd htab (by decide)

end Token

namespace Lexer

open Text (Utf8.Fault)

variable {lexer lexer' : Lexer} {token : Token} {fault : Utf8.Fault}

/--
What is left of the tokens of a text where a fault stands behind it: they end before the end of the
input.
-/
def Listing.before (fault : Option Utf8.Fault) (listing : Listing) : Listing :=
  match fault with
  | none => listing
  | some fault => ⟨listing.tokens.dropLast, some fault⟩

@[simp]
theorem Listing.before_none (listing : Listing) : listing.before none = listing := rfl

@[simp]
theorem Listing.before_some (fault : Utf8.Fault) (listing : Listing) :
    listing.before (some fault) = ⟨listing.tokens.dropLast, some fault⟩ := rfl

theorem exists_advance_decoded_of_error (h : advance lexer = .error fault lexer') :
    ∃ token lexer'', advance lexer.decoded = .ok token lexer'' ∧ token.kind = .endOfInput := by
  obtain ⟨-, hended⟩ := advance_decoded_of_error h
  have hadvance := @advance_of_source lexer.decoded lexer.source.content.text rfl
  refine ⟨_, _, hadvance, ?_⟩
  rw [hadvance] at hended
  obtain ⟨⟨token, htoken, hkind⟩, -⟩ := hended
  rw [← Option.some.inj htoken] at hkind
  exact hkind

theorem go_eq_before (lexer : Lexer) (listed : List Token) :
    (tokens.go lexer listed).1 =
      (tokens.go lexer.decoded listed).1.before lexer.source.content.fault := by
  fun_induction tokens.go lexer listed with
  | case1 lexer listed fault lexer' hadvance =>
    -- Where the fault is met, the text alone is at its end.
    obtain ⟨token, lexer'', hdecoded, hkind⟩ := exists_advance_decoded_of_error hadvance
    rw [(advance_decoded_of_error hadvance).1, tokens.go_of_ok hdecoded, if_pos hkind]
    simp
  | case2 lexer listed token lexer' hadvance hkind =>
    have hdecoded := (advance_decoded_of_ok hadvance).1
    rw [fault_of_advance_end hadvance hkind, tokens.go_of_ok hdecoded, if_pos hkind,
      Listing.before_none]
  | case3 lexer listed token lexer' hadvance hkind ih =>
    obtain ⟨hdecoded, hfault⟩ := advance_decoded_of_ok hadvance
    rw [ih, tokens.go_of_ok hdecoded, if_neg hkind, hfault]

theorem tokens_of_content {source : Source} {text : List Char} {fault : Option Utf8.Fault}
    (h : source.content = ⟨text, fault⟩) :
    (tokens { source }).1 = (Listing.mk (tokenize (String.ofList text)) none).before fault := by
  have htext : tokens { source := .ofText text } = _ := (feed_stateAt text).tokens_eq
  have hlisting : (tokens { source := .ofText text }).1 =
      ⟨tokenize (String.ofList text), none⟩ := by
    rw [tokenize_eq, String.toList_ofList, htext]
  rw [tokens_eq_go rfl, go_eq_before, h]
  rw [tokens_eq_go rfl] at hlisting
  rw [← hlisting]
  unfold decoded
  rw [h]

end Lexer

end ParenCalc
