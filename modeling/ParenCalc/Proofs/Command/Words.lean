import ParenCalc.Command.Invocation

namespace ParenCalc

namespace CommandLine

variable {σ : Type}

def IsWord (argument : String) : Prop :=
  argument.toList.head? ≠ some '-'

instance (argument : String) : Decidable (IsWord argument) :=
  inferInstanceAs (Decidable (¬ _))

def IsInput (argument : String) : Prop :=
  argument = "-" ∨ IsWord argument

theorem IsWord.isInput {argument : String} (h : IsWord argument) : IsInput argument :=
  .inr h

theorem IsWord.ne_dash {argument : String} (h : IsWord argument) : argument ≠ "-" := by
  rintro rfl
  exact absurd h (by decide)

variable {flags : List (Flag σ)} {grammar : Grammar σ} {argument : String}

theorem classify_input (flags : List (Flag σ)) (h : IsInput argument) :
    classify flags argument = .ok .word := by
  unfold classify
  simp only
  split
  . next hchars =>
    rcases h with rfl | h
    . cases hchars
    . unfold IsWord at h
      rw [hchars] at h
      exact absurd rfl h
  . rfl

theorem ne_dashes_of_isInput (h : IsInput argument) : argument ≠ "--" := by
  rintro rfl
  rcases h with h | h
  . exact absurd h (by decide)
  . exact absurd h (by decide)

theorem classifyAll_cons_of_classify {item : Item σ} (hdashes : argument ≠ "--")
    (h : classify flags argument = .ok item) (rest : List String) :
    classifyAll flags (argument :: rest) =
      (classifyAll flags rest).map ((argument, item) :: ·) := by
  rw [classifyAll, if_neg hdashes, h]
  rfl

theorem classifyAll_cons {rest : List String} {items : List (String × Item σ)}
    (h : IsInput argument) (hrest : classifyAll flags rest = .ok items) :
    classifyAll flags (argument :: rest) = .ok ((argument, .word) :: items) := by
  rw [classifyAll_cons_of_classify (ne_dashes_of_isInput h) (classify_input flags h), hrest]
  rfl

theorem read_command {rest : List String} {items : List (String × Item σ)}
    (hgrammar : grammar.words = .command)
    (settings : σ) (h : IsInput argument) (hrest : classifyAll grammar.flags rest = .ok items) :
    grammar.read settings (argument :: rest) =
      .ok { settings, words := argument :: items.map (·.1) } := by
  unfold Grammar.read
  rw [classifyAll_cons h hrest, hgrammar]
  rfl

theorem read_one (hgrammar : grammar.words = .one) (settings : σ) (h : IsInput argument) :
    grammar.read settings [argument] = .ok { settings, words := [argument] } := by
  unfold Grammar.read
  rw [classifyAll_cons h rfl, hgrammar]
  rfl

end CommandLine

namespace Command

open CommandLine

theorem Name.ofString?_toString (name : Name) : Name.ofString? (toString name) = some name := by
  cases name <;> decide

theorem Name.isInput_toString (name : Name) : IsInput (toString name) := by
  right
  cases name <;> decide

theorem words_commandGrammar {name : Name} (h : name.takesInput = true) :
    (Invocation.commandGrammar name).words = .one := by
  cases name with
  | run | parse | tokens => rfl
  | _ => cases h

namespace Invocation

variable {input : String}

theorem ofArguments_command {name : Name} {rest : List String}
    {items : List (String × Item Invocation)}
    {reading : Reading Invocation} (hrest : classifyAll grammar.flags rest = .ok items)
    (hread : (commandGrammar name).read { name := some name } (items.map (·.1)) = .ok reading)
    (hwords : reading.words = [input]) (hextra : reading.extra = []) :
    ofArguments (toString name :: rest) = .ok { reading.settings with input } := by
  unfold ofArguments
  rw [read_command rfl _ name.isInput_toString hrest]
  simp only
  rw [Name.ofString?_toString]
  simp only
  rw [hread]
  simp only
  rw [hwords, hextra]
  rfl

theorem ofArguments_input {name : Name} (hname : name.takesInput = true) (hinput : IsInput input) :
    ofArguments [toString name, input] = .ok { name := some name, input } := by
  have hrest : classifyAll grammar.flags [input] = .ok [(input, .word)] :=
    classifyAll_cons hinput rfl
  have hread := read_one (words_commandGrammar hname) { name := some name } hinput
  exact ofArguments_command hrest hread rfl rfl

end Invocation

end Command

end ParenCalc
