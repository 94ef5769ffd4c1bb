namespace ParenCalc

structure Settings where
  prompt : String := ":>"
  banner : List String := ["Dharma interpreter (v0.1 alpha)"]
  exitCommand : String := "exit"
  logLevel : String := "WARNING"
  deriving DecidableEq, Repr

def Settings.intro (settings : Settings) : String :=
  "\n".intercalate settings.banner

end ParenCalc
