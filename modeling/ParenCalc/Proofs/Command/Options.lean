import ParenCalc.Proofs.Command.Words

/-!
This module contains what an option that is added to a command line changes: the settings, in the
way that the option says, and nothing else.
-/

namespace ParenCalc

namespace CommandLine

variable {σ : Type} {flags : List (Flag σ)}

section Classify

variable {option : Flag σ} {name argument : List Char} {item : Item σ}

end Classify

section Uses

variable {option : Flag σ}

end Uses

def Reading.change (change : σ → σ) (reading : Reading σ) : Reading σ :=
  { reading with settings := change reading.settings }

section Commutes

variable {change : σ → σ}

end Commutes

section Read

variable {kind : Words} {reading : Reading σ} {option : Flag σ} {isLong : Bool}
  {attached : Option (List Char)}
  {argument : String} {items : List (String × Item σ)}

def Item.Awaits (flags : List (Flag σ)) : Item σ → Prop
  | .flag option isLong attached =>
    ∃ used, uses flags option isLong attached = .ok used ∧ used.any needsValue = true
  | _ => False

end Read

section ClassifyAll

variable {arguments front back : List String} {items : List (String × Item σ)} {argument : String}
  {item : Item σ}

end ClassifyAll

section Insert

variable {front back : List String} {argument : String}

end Insert

section Command

variable {front back : List String} {command argument : String}

end Command

end CommandLine

end ParenCalc
