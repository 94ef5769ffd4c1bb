import ParenCalc.Proofs.Lexer.OfText
import ParenCalc.Proofs.Position

namespace ParenCalc

namespace Lexer

/--
The uses of a lexer, and of its input behind its back. `first` asks for a listing of the tokens and
leaves it at the first of them.
-/
inductive Use
  | peek
  | advance
  | current
  | tokens
  | first
  | character
  | rest
  deriving DecidableEq, Repr

inductive Answer
  | token (token : Token)
  | current (token : Option Token)
  | tokens (listing : Listing)
  | character (c : Option Char)
  | rest (text : List Char)
  | failed (fault : Text.Utf8.Fault)
  deriving DecidableEq, Repr

namespace Answer

variable {α : Type}

def characters : Answer → List Char
  | .character c => c.toList
  | .rest text => text
  | _ => []

def ofResult (answer : α → Answer) : EStateM.Result Text.Utf8.Fault Lexer α → Answer × Lexer
  | .ok a lexer => (answer a, lexer)
  | .error fault lexer => (.failed fault, lexer)

end Answer

namespace Use

def isDirect : Use → Bool
  | .character | .rest => true
  | _ => false

def perform (use : Use) (lexer : Lexer) : Answer × Lexer :=
  match use with
  | .peek | .first => Answer.ofResult .token (Lexer.peek lexer)
  | .advance => Answer.ofResult .token (Lexer.advance lexer)
  | .current => (.current lexer.current, lexer)
  | .tokens => (.tokens lexer.tokens.1, lexer.tokens.2)
  | .character => Answer.ofResult .character (readDirectly Source.next lexer)
  | .rest => Answer.ofResult .rest (readDirectly Source.rest lexer)

def performAll (uses : List Use) (lexer : Lexer) : Lexer :=
  uses.foldl (fun lexer use => (use.perform lexer).2) lexer

end Use

structure Step where
  use : Use
  before : Lexer
  answer : Answer
  after : Lexer

def step (use : Use) (lexer : Lexer) : Step :=
  ⟨use, lexer, (use.perform lexer).1, (use.perform lexer).2⟩

def history : List Use → Lexer → List Step
  | [], _ => []
  | use :: uses, lexer => step use lexer :: history uses (step use lexer).after

def Step.own (s : Step) : List Char :=
  if s.use.isDirect then []
  else s.before.source.pending.take (s.before.source.pending.length - s.after.source.pending.length)

def Step.taken (s : Step) : List Char :=
  s.own ++ s.answer.characters

/--
`Reads lexer token lexer'` states that the lexer goes on to `token`: it reads spaces and the
character of the token, and nothing behind it, or nothing but spaces up to the end of the text.
-/
inductive Reads (lexer : Lexer) : Token → Lexer → Prop
  | character (spaces : List Char) (c : Char) (rest : List Char)
      (hspaces : ∀ s ∈ spaces, isSpace s = true)
      (hc : isSpace c = false) (hsource : lexer.source = .ofText (spaces ++ c :: rest)) :
      Reads lexer (.ofChar c (lexer.position.after spaces))
        (lexer.accept (.ofText rest) (lexer.position.after (spaces ++ [c]))
          (.ofChar c (lexer.position.after spaces)))
  | ending (spaces : List Char) (hspaces : ∀ s ∈ spaces, isSpace s = true)
      (hsource : lexer.source = .ofText spaces) :
      Reads lexer (.endOfInput (lexer.position.after spaces))
        (lexer.accept (.ofText []) (lexer.position.after spaces)
          (.endOfInput (lexer.position.after spaces)))

/--
`Lists token lexer tokens lexer'` states that the lexer, at the token `token`, goes on to the end of
the input and comes through `tokens`, the first of which is `token`.
-/
inductive Lists : Token → Lexer → List Token → Lexer → Prop
  | ending (token : Token) (lexer : Lexer) (hkind : token.kind = .endOfInput) :
      Lists token lexer [token] lexer
  | cons (token next : Token) (tokens : List Token) (lexer lexer' lexer'' : Lexer)
      (hkind : token.kind ≠ .endOfInput)
      (hreads : Reads lexer next lexer') (hlists : Lists next lexer' tokens lexer'') :
      Lists token lexer (token :: tokens) lexer''

inductive Accounts : Step → Prop
  | shows (use : Use) (lexer : Lexer) (token : Token) (huse : use = .peek ∨ use = .first)
      (hcurrent : lexer.current = some token) (hlatest : lexer.lexed.head? = some token) :
      Accounts ⟨use, lexer, .token token, lexer⟩
  | primes (use : Use) (lexer lexer' : Lexer) (token : Token) (huse : use = .peek ∨ use = .first)
      (hcurrent : lexer.current = none) (hreads : Reads lexer token lexer') :
      Accounts ⟨use, lexer, .token token, lexer'⟩
  | advances (lexer lexer' : Lexer) (token : Token) (hreads : Reads lexer token lexer') :
      Accounts ⟨.advance, lexer, .token token, lexer'⟩
  | current (lexer : Lexer) (hlatest : lexer.current = lexer.lexed.head?) :
      Accounts ⟨.current, lexer, .current lexer.current, lexer⟩
  | lists (lexer lexer' : Lexer) (token : Token) (tokens : List Token)
      (hcurrent : lexer.current = some token)
      (hlists : Lists token lexer tokens lexer') :
      Accounts ⟨.tokens, lexer, .tokens ⟨tokens, none⟩, lexer'⟩
  | primesAndLists (lexer lexer' lexer'' : Lexer) (token : Token) (tokens : List Token)
      (hcurrent : lexer.current = none) (hreads : Reads lexer token lexer')
      (hlists : Lists token lexer' tokens lexer'') :
      Accounts ⟨.tokens, lexer, .tokens ⟨tokens, none⟩, lexer''⟩
  | character (lexer : Lexer) (c : Char) (rest : List Char)
      (hsource : lexer.source = .ofText (c :: rest)) :
      Accounts ⟨.character, lexer, .character (some c), { lexer with source := .ofText rest }⟩
  | noCharacter (lexer : Lexer) (hsource : lexer.source = .ofText []) :
      Accounts ⟨.character, lexer, .character none, lexer⟩
  | rest (lexer : Lexer) (text : List Char) (hsource : lexer.source = .ofText text) :
      Accounts ⟨.rest, lexer, .rest text, { lexer with source := .ofText [] }⟩

/--
`Lexed own lexed` states that the characters `own`, read by a lexer itself, are those of the tokens
that it has read, the latest first, with spaces in front of them. The positions of the tokens count
these characters and no others.
-/
inductive Lexed : (own : List Char) → (lexed : List Token) → Prop
  | nil : Lexed [] []
  | character (own spaces : List Char) (c : Char) (position : Position) (lexed : List Token)
      (h : Lexed own lexed)
      (hspaces : ∀ s ∈ spaces, isSpace s = true) (hc : isSpace c = false)
      (hposition : position.Marks (own ++ spaces)) :
      Lexed (own ++ (spaces ++ [c])) (.ofChar c position :: lexed)
  | ending (own spaces : List Char) (position : Position) (lexed : List Token) (h : Lexed own lexed)
      (hspaces : ∀ s ∈ spaces, isSpace s = true) (hposition : position.Marks (own ++ spaces)) :
      Lexed (own ++ spaces) (.endOfInput position :: lexed)

structure Follows (own : List Char) (lexer : Lexer) : Prop where
  source : ∃ rest, lexer.source = .ofText rest
  position : lexer.position = Position.after {} own
  current : lexer.current = lexer.lexed.head?
  lexed : Lexed own lexer.lexed

structure AtEnd (token : Token) (lexer : Lexer) : Prop where
  source : lexer.source = .ofText []
  current : lexer.current = some token
  token : token = .endOfInput lexer.position

theorem follows_ofString (text : String) : Follows [] (.ofString text) where
  source := ⟨text.toList, rfl⟩
  position := rfl
  current := rfl
  lexed := .nil

section Reads

variable {lexer lexer' lexer'' : Lexer} {token : Token} {tokens : List Token} {text own : List Char}

theorem isSpace_of_mem_takeWhile (text : List Char) :
    ∀ s ∈ text.takeWhile isSpace, isSpace s = true :=
  List.all_eq_true.mp List.all_takeWhile

theorem reads_advance (h : lexer.source = .ofText text) :
    ∃ token lexer' rest, advance lexer = .ok token lexer' ∧ Reads lexer token lexer' ∧
      lexer'.source = .ofText rest ∧
      (token.kind ≠ .endOfInput → rest.length < text.length) := by
  have hadvance := advance_of_source text h
  have htext := List.takeWhile_append_dropWhile (p := isSpace) (l := text)
  have hspaces := isSpace_of_mem_takeWhile text
  have hnot := List.head?_dropWhile_not isSpace text
  simp only at hadvance
  generalize text.takeWhile isSpace = spaces at hadvance htext hspaces
  generalize text.dropWhile isSpace = rest at hadvance htext hnot
  subst htext
  cases rest with
  | nil =>
    rw [List.append_nil] at h
    refine ⟨_, _, [], hadvance, .ending spaces hspaces h, rfl, ?_⟩
    intro hkind
    exact absurd rfl hkind
  | cons c rest =>
    have hreads := Reads.character spaces c rest hspaces hnot h
    rw [Position.after_append] at hreads
    refine ⟨_, _, rest, hadvance, hreads, rfl, ?_⟩
    intro hkind
    simp only [List.length_append, List.length_cons]
    omega

theorem lists_go {lexer : Lexer} {token : Token} {text : List Char}
    (h : lexer.source = .ofText text) (listed : List Token) (hkind : token.kind ≠ .endOfInput) :
    ∃ tokens lexer', Lexer.tokens.go lexer listed = (⟨listed.reverse ++ tokens, none⟩, lexer') ∧
      Lists token lexer (token :: tokens) lexer' := by
  obtain ⟨next, lexer', rest, hadvance, hreads, hsource, hlength⟩ := reads_advance h
  rw [Lexer.tokens.go_of_ok hadvance]
  by_cases hnext : next.kind = .endOfInput
  . rw [if_pos hnext]
    refine ⟨[next], lexer', by rw [List.reverse_cons], ?_⟩
    exact .cons token next [next] lexer lexer' lexer' hkind hreads (.ending next lexer' hnext)
  . rw [if_neg hnext]
    have hshorter := hlength hnext
    obtain ⟨tokens, lexer'', hgo, hlists⟩ := lists_go hsource (next :: listed) hnext
    refine ⟨next :: tokens, lexer'', by rw [hgo, List.reverse_cons, List.append_assoc,
      List.singleton_append], ?_⟩
    exact .cons token next (next :: tokens) lexer lexer' lexer'' hkind hreads hlists
termination_by text.length

theorem lists_tokens (h : lexer.source = .ofText text) (hpeek : peek lexer = .ok token lexer) :
    ∃ tokens lexer', lexer.tokens = (⟨tokens, none⟩, lexer') ∧ Lists token lexer tokens lexer' := by
  unfold Lexer.tokens
  rw [hpeek]
  simp only
  by_cases hkind : token.kind = .endOfInput
  . rw [if_pos hkind]
    exact ⟨[token], lexer, rfl, .ending token lexer hkind⟩
  . rw [if_neg hkind]
    obtain ⟨tokens, lexer', hgo, hlists⟩ := lists_go h [token] hkind
    exact ⟨token :: tokens, lexer', hgo, hlists⟩

end Reads

section Accounts

variable {own : List Char} {lexer : Lexer}

theorem Follows.accounts_peek (h : Follows own lexer) {use : Use}
    (huse : use = .peek ∨ use = .first) :
    Accounts (step use lexer) := by
  have hstep : step use lexer =
      ⟨use, lexer, (Answer.ofResult .token (peek lexer)).1,
        (Answer.ofResult .token (peek lexer)).2⟩ := by
    rcases huse with rfl | rfl <;> rfl
  rw [hstep]
  cases hcurrent : lexer.current with
  | some token =>
    rw [peek_of_some hcurrent]
    exact .shows use lexer token huse hcurrent (h.current.symm.trans hcurrent)
  | none =>
    obtain ⟨rest, hrest⟩ := h.source
    obtain ⟨token, lexer', -, hadvance, hreads, -⟩ := reads_advance hrest
    rw [peek_of_none hcurrent, hadvance]
    exact .primes use lexer lexer' token huse hcurrent hreads

theorem Follows.accounts_tokens (h : Follows own lexer) : Accounts (step .tokens lexer) := by
  obtain ⟨rest, hrest⟩ := h.source
  have hstep : step .tokens lexer = ⟨.tokens, lexer, .tokens lexer.tokens.1, lexer.tokens.2⟩ := rfl
  rw [hstep]
  cases hcurrent : lexer.current with
  | some token =>
    obtain ⟨tokens, lexer', htokens, hlists⟩ := lists_tokens hrest (peek_of_some hcurrent)
    rw [htokens]
    exact .lists lexer lexer' token tokens hcurrent hlists
  | none =>
    obtain ⟨token, lexer', rest', hadvance, hreads, hrest', -⟩ := reads_advance hrest
    have hcurrent' : lexer'.current = some token := current_of_advance hadvance
    obtain ⟨tokens, lexer'', htokens, hlists⟩ := lists_tokens hrest' (peek_of_some hcurrent')
    have hsame : lexer.tokens = lexer'.tokens := by
      unfold Lexer.tokens
      rw [peek_of_none hcurrent, hadvance, peek_of_some hcurrent']
    rw [hsame, htokens]
    exact .primesAndLists lexer lexer' lexer'' token tokens hcurrent hreads hlists

theorem Follows.accounts (h : Follows own lexer) (use : Use) : Accounts (step use lexer) := by
  obtain ⟨rest, hrest⟩ := h.source
  cases use with
  | peek => exact h.accounts_peek (.inl rfl)
  | first => exact h.accounts_peek (.inr rfl)
  | advance =>
    obtain ⟨token, lexer', -, hadvance, hreads, -⟩ := reads_advance hrest
    have hstep : step .advance lexer = ⟨.advance, lexer, .token token, lexer'⟩ := by
      simp only [step, Use.perform, hadvance, Answer.ofResult]
    rw [hstep]
    exact .advances lexer lexer' token hreads
  | current => exact .current lexer h.current
  | tokens => exact h.accounts_tokens
  | character =>
    cases rest with
    | nil =>
      have hstep : step .character lexer = ⟨.character, lexer, .character none, lexer⟩ := by
        simp only [step, Use.perform, readDirectly, hrest, Source.next_ofText_nil, Answer.ofResult]
        rw [← hrest]
      rw [hstep]
      exact .noCharacter lexer hrest
    | cons c rest =>
      have hstep : step .character lexer =
          ⟨.character, lexer, .character (some c), { lexer with source := .ofText rest }⟩ := by
        simp only [step, Use.perform, readDirectly, hrest, Source.next_ofText_cons, Answer.ofResult]
      rw [hstep]
      exact .character lexer c rest hrest
  | rest =>
    have hstep : step .rest lexer =
        ⟨.rest, lexer, .rest rest, { lexer with source := .ofText [] }⟩ := by
      simp only [step, Use.perform, readDirectly, hrest, Source.rest_ofText, Answer.ofResult]
    rw [hstep]
    exact .rest lexer rest hrest

end Accounts

section Follows

variable {own taken : List Char} {lexer lexer' : Lexer} {token : Token} {tokens : List Token}

def Takes (taken : List Char) (lexer lexer' : Lexer) : Prop :=
  lexer.source.pending = taken ++ lexer'.source.pending ∧
    ∀ own, Follows own lexer → Follows (own ++ taken) lexer'

theorem Takes.refl (lexer : Lexer) : Takes [] lexer lexer := by
  refine ⟨rfl, ?_⟩
  intro own h
  rw [List.append_nil]
  exact h

theorem Takes.trans {taken' : List Char} {lexer'' : Lexer} (h : Takes taken lexer lexer')
    (h' : Takes taken' lexer' lexer'') : Takes (taken ++ taken') lexer lexer'' := by
  refine ⟨by rw [h.1, h'.1, List.append_assoc], ?_⟩
  intro own hfollows
  rw [← List.append_assoc]
  exact h'.2 _ (h.2 _ hfollows)

theorem Reads.takes (h : Reads lexer token lexer') : ∃ taken, Takes taken lexer lexer' := by
  cases h with
  | character spaces c rest hspaces hc hsource =>
    refine ⟨spaces ++ [c], by simp [hsource, accept, Source.ofText], ?_⟩
    intro own h
    have hposition (read : List Char) : lexer.position.after read =
        Position.after {} (own ++ read) := by
      rw [h.position, Position.after_append]
    rw [hposition, hposition]
    exact ⟨⟨rest, rfl⟩, rfl, rfl,
      .character own spaces c _ lexer.lexed h.lexed hspaces hc (Position.marks_after _)⟩
  | ending spaces hspaces hsource =>
    refine ⟨spaces, by simp [hsource, accept, Source.ofText], ?_⟩
    intro own h
    have hposition : lexer.position.after spaces = Position.after {} (own ++ spaces) := by
      rw [h.position, Position.after_append]
    rw [hposition]
    exact ⟨⟨[], rfl⟩, rfl, rfl, .ending own spaces _ lexer.lexed h.lexed hspaces
      (Position.marks_after _)⟩

theorem Lists.takes (h : Lists token lexer tokens lexer') : ∃ taken, Takes taken lexer lexer' := by
  induction h with
  | ending token lexer hkind => exact ⟨[], .refl lexer⟩
  | cons token next tokens lexer lexer' lexer'' hkind hreads hlists ih =>
    obtain ⟨taken, htakes⟩ := hreads.takes
    obtain ⟨taken', htakes'⟩ := ih
    exact ⟨taken ++ taken', htakes.trans htakes'⟩

end Follows

section Steps

variable {own : List Char} {s : Step}

theorem Takes.step {taken : List Char} (h : Takes taken s.before s.after)
    (huse : s.use.isDirect = false)
    (hanswer : s.answer.characters = []) (hfollows : Follows own s.before) :
    s.before.source.pending = s.taken ++ s.after.source.pending ∧
      Follows (own ++ s.own) s.after := by
  have hown : s.own = taken := by
    unfold Step.own
    rw [huse, h.1, List.length_append, Nat.add_sub_cancel, List.take_left]
    rfl
  unfold Step.taken
  rw [hanswer, hown, List.append_nil]
  exact ⟨h.1, h.2 own hfollows⟩

theorem Follows.direct {rest : List Char} (h : Follows own s.before) (huse : s.use.isDirect = true)
    (hsource : s.before.source = .ofText (s.answer.characters ++ rest))
    (hafter : s.after = { s.before with source := .ofText rest }) :
    s.before.source.pending = s.taken ++ s.after.source.pending ∧
      Follows (own ++ s.own) s.after := by
  have hown : s.own = [] := by
    unfold Step.own
    rw [huse]
    rfl
  unfold Step.taken
  rw [hown, List.nil_append, List.append_nil, hsource, hafter]
  exact ⟨rfl, ⟨rest, rfl⟩, h.position, h.current, h.lexed⟩

theorem Accounts.follows (haccounts : Accounts s) (h : Follows own s.before) :
    s.before.source.pending = s.taken ++ s.after.source.pending ∧
      Follows (own ++ s.own) s.after := by
  cases haccounts with
  | shows use lexer token huse =>
    have hdirect : use.isDirect = false := by
      rcases huse with rfl | rfl <;> rfl
    exact (Takes.refl lexer).step hdirect rfl h
  | primes use lexer lexer' token huse hcurrent hreads =>
    have hdirect : use.isDirect = false := by
      rcases huse with rfl | rfl <;> rfl
    obtain ⟨taken, htakes⟩ := hreads.takes
    exact htakes.step hdirect rfl h
  | advances lexer lexer' token hreads =>
    obtain ⟨taken, htakes⟩ := hreads.takes
    exact htakes.step rfl rfl h
  | current lexer => exact (Takes.refl lexer).step rfl rfl h
  | lists lexer lexer' token tokens hcurrent hlists =>
    obtain ⟨taken, htakes⟩ := hlists.takes
    exact htakes.step rfl rfl h
  | primesAndLists lexer lexer' lexer'' token tokens hcurrent hreads hlists =>
    obtain ⟨taken, htakes⟩ := hreads.takes
    obtain ⟨taken', htakes'⟩ := hlists.takes
    exact (htakes.trans htakes').step rfl rfl h
  | character lexer c rest hsource => exact h.direct rfl hsource rfl
  | noCharacter lexer hsource =>
    refine h.direct rfl hsource ?_
    rw [← hsource]
  | rest lexer text hsource =>
    refine h.direct rfl ?_ rfl
    rw [List.append_nil]
    exact hsource

end Steps

section AtEnd

variable {own : List Char} {lexer lexer' : Lexer} {token : Token} {s : Step}

theorem Reads.atEnd (h : Reads lexer token lexer') (hkind : token.kind = .endOfInput) :
    AtEnd token lexer' := by
  cases h with
  | character spaces c => exact absurd hkind (Token.Kind.ofChar_ne_endOfInput c)
  | ending spaces => exact ⟨rfl, rfl, rfl⟩

theorem AtEnd.kind (h : AtEnd token lexer) : token.kind = .endOfInput := by
  rw [h.token]
  rfl

theorem AtEnd.reads {token' : Token} (h : AtEnd token lexer) (hreads : Reads lexer token' lexer') :
    token' = token ∧ AtEnd token lexer' := by
  cases hreads with
  | character spaces c rest hspaces hc hsource => simp [h.source, Source.ofText] at hsource
  | ending spaces hspaces hsource =>
    obtain rfl : spaces = [] := by simpa [h.source, Source.ofText, eq_comm] using hsource
    rw [Position.after_nil, ← h.token]
    exact ⟨rfl, rfl, rfl, h.token⟩

theorem Accounts.atEnd (haccounts : Accounts s) (h : AtEnd token s.before) :
    AtEnd token s.after := by
  cases haccounts with
  | shows | current | noCharacter => exact h
  | primes use lexer lexer' token' huse hcurrent => cases hcurrent.symm.trans h.current
  | advances lexer lexer' token' hreads => exact (h.reads hreads).2
  | lists lexer lexer' token' tokens hcurrent hlists =>
    obtain rfl := Option.some.inj (hcurrent.symm.trans h.current)
    cases hlists with
    | ending => exact h
    | cons _ _ _ _ _ _ hkind => exact absurd h.kind hkind
  | primesAndLists lexer lexer' lexer'' token' tokens hcurrent =>
    cases hcurrent.symm.trans h.current
  | character lexer c rest hsource => cases hsource.symm.trans h.source
  | rest lexer text => exact ⟨rfl, h.current, h.token⟩

theorem Accounts.reads_of_advance (haccounts : Accounts s) (huse : s.use = .advance) :
    ∃ token, s.answer = .token token ∧ Reads s.before token s.after := by
  cases haccounts with
  | advances lexer lexer' token hreads => exact ⟨token, rfl, hreads⟩
  | shows use lexer token hlook => rcases hlook with rfl | rfl <;> cases huse
  | primes use lexer lexer' token hlook => rcases hlook with rfl | rfl <;> cases huse
  | _ => cases huse

end AtEnd

section History

variable {own : List Char} {lexer : Lexer}

theorem follows_history (h : Follows own lexer) (uses : List Use) :
    lexer.source.pending =
        (history uses lexer).flatMap Step.taken ++ (Use.performAll uses lexer).source.pending ∧
      Follows (own ++ (history uses lexer).flatMap Step.own) (Use.performAll uses lexer) ∧
      ∀ s ∈ history uses lexer, Accounts s := by
  induction uses generalizing own lexer with
  | nil =>
    rw [history, List.flatMap_nil, List.flatMap_nil, List.append_nil]
    refine ⟨rfl, h, ?_⟩
    intro s hs
    cases hs
  | cons use uses ih =>
    have haccounts := h.accounts use
    obtain ⟨hpending, hafter⟩ := haccounts.follows h
    obtain ⟨hrest, hfollows, hall⟩ := ih hafter
    rw [history, List.flatMap_cons, List.flatMap_cons, List.append_assoc, ← List.append_assoc own]
    refine ⟨?_, hfollows, ?_⟩
    . rw [show lexer.source.pending = _ from hpending, hrest]
      rfl
    . intro s hs
      rcases List.mem_cons.mp hs with rfl | hs
      . exact haccounts
      . exact hall s hs

theorem history_atEnd (h : Follows own lexer) {token : Token} (hend : AtEnd token lexer)
    (uses : List Use) :
    ∀ s ∈ history uses lexer, s.use = .advance → s.answer = .token token := by
  induction uses generalizing own lexer with
  | nil =>
    intro s hs
    cases hs
  | cons use uses ih =>
    have haccounts := h.accounts use
    intro s hs
    rcases List.mem_cons.mp hs with rfl | hs
    . intro huse
      obtain ⟨token', hanswer, hreads⟩ := haccounts.reads_of_advance huse
      rw [hanswer, (hend.reads hreads).1]
    . exact ih (haccounts.follows h).2 (haccounts.atEnd hend) s hs

def EndsAlike (earlier later : Step) : Prop :=
  ∀ token : Token, token.kind = .endOfInput → earlier.use = .advance →
    earlier.answer = .token token →
    later.use = .advance → later.answer = .token token

theorem history_endsAlike (h : Follows own lexer) (uses : List Use) :
    (history uses lexer).Pairwise EndsAlike := by
  induction uses generalizing own lexer with
  | nil => exact .nil
  | cons use uses ih =>
    have haccounts := h.accounts use
    have hafter := (haccounts.follows h).2
    refine .cons ?_ (ih hafter)
    intro later hlater token hkind huse hanswer
    obtain ⟨token', hanswer', hreads⟩ := haccounts.reads_of_advance huse
    obtain rfl := Answer.token.inj (hanswer.symm.trans hanswer')
    exact history_atEnd hafter (hreads.atEnd hkind) uses later hlater

end History

/--
However a lexer and its text are used, what they give in order is the beginning of the text, without
a gap. Of that, the characters that the lexer has read itself are those of its tokens and the spaces
in front of them.
-/
theorem uses_account_for_characters (text : String) (uses : List Use) :
    let steps := history uses (.ofString text)
    let lexer := Use.performAll uses (.ofString text)
    (∃ rest, lexer.source = .ofText rest ∧ text.toList = steps.flatMap Step.taken ++ rest) ∧
      Lexed (steps.flatMap Step.own) lexer.lexed ∧ lexer.current = lexer.lexed.head? ∧
      (∀ s ∈ steps, Accounts s) ∧ steps.Pairwise EndsAlike := by
  intro steps lexer
  have hfresh := follows_ofString text
  obtain ⟨hpending, hfollows, hall⟩ := follows_history hfresh uses
  obtain ⟨rest, hrest⟩ := hfollows.source
  refine ⟨⟨rest, hrest, ?_⟩, hfollows.lexed, hfollows.current, hall, history_endsAlike hfresh uses⟩
  rw [show text.toList = _ from hpending, hrest]
  rfl

theorem uses_account_for_direct_reads :
    let plus : Token := .ofChar '+' ⟨2, 0⟩
    let ending : Token := .endOfInput ⟨2, 1⟩
    let steps :=
      history [.peek, .character, .advance, .first, .advance, .rest, .advance] (.ofString "1x\n+")
    steps.map (·.answer) = [.token (.ofChar '1' ⟨1, 0⟩), .character (some 'x'), .token plus,
      .token plus, .token ending, .rest [], .token ending] ∧
      steps.map (·.taken) = [['1'], ['x'], ['\n', '+'], [], [], [], []] ∧
      Lexed ['1', '\n', '+'] [ending, ending, plus, .ofChar '1' ⟨1, 0⟩] ∧
        steps.Pairwise EndsAlike := by
  intro plus ending steps
  obtain ⟨-, hlexed, -, -, hends⟩ := uses_account_for_characters "1x\n+"
    [.peek, .character, .advance, .first, .advance, .rest, .advance]
  exact ⟨by decide, by decide, hlexed, hends⟩

end Lexer

end ParenCalc
