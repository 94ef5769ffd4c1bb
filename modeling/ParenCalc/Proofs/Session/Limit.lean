import ParenCalc.Proofs.Run.Limit
import ParenCalc.Proofs.Session.Fold

namespace ParenCalc

namespace Session

variable {session : Session} {limit : Nat}

def Fits (session : Session) : (lines : List (List Char)) → Prop
  | [] => True
  | line :: lines =>
    (∀ text, Request.ofLine session.settings line = .program text →
      Run.Fits session.limit (.ofText text)) ∧
    ((session.step line).verdict = .goesOn → Fits (session.step line).session lines)

end Session

end ParenCalc
