import ParenCalc.Text.Quoted

namespace ParenCalc.Text.Utf8

inductive Reason
  | invalidStart
  | invalidContinuation
  | unexpectedEnd
  deriving DecidableEq, Repr

def Reason.message : Reason → String
  | .invalidStart => "invalid start byte"
  | .invalidContinuation => "invalid continuation byte"
  | .unexpectedEnd => "unexpected end of data"

/--
Bytes that are no UTF-8. The position counts bytes from where the decoding that failed began.
-/
structure Fault where
  position : Nat
  bytes : List UInt8
  reason : Reason
  deriving DecidableEq, Repr

namespace Fault

def place (fault : Fault) : String :=
  match fault.bytes with
  | [byte] =>
    "byte 0x" ++ String.ofList (hexDigits 2 byte.toNat) ++ " in position " ++
      toString fault.position
  | bytes =>
    "bytes in position " ++ toString fault.position ++ "-" ++
      toString (fault.position + bytes.length - 1)

def message (fault : Fault) : String :=
  "'utf-8' codec can't decode " ++ fault.place ++ ": " ++ fault.reason.message

end Fault

def isContinuation (byte : UInt8) : Bool :=
  0x80 ≤ byte && byte ≤ 0xBF

/--
Whether `byte` may follow `lead`. Some lead bytes narrow the range of the byte after them, which
excludes overlong forms and code points beyond the last one.
-/
def mayFollow (lead byte : UInt8) : Bool :=
  if lead = 0xE0 then 0xA0 ≤ byte && byte ≤ 0xBF
  else if lead = 0xF0 then 0x90 ≤ byte && byte ≤ 0xBF
  else if lead = 0xF4 then 0x80 ≤ byte && byte ≤ 0x8F
  else isContinuation byte

/--
Whether two bytes would start a surrogate, which is no character. They are at fault as soon as
anything comes behind them, the end of the input included.
-/
def startsSurrogate (lead second : UInt8) : Bool :=
  lead = 0xED && 0xA0 ≤ second

def compose (lead : Nat) (continuation : List UInt8) : Char :=
  Char.ofNat (continuation.foldl (fun code byte => code * 64 + byte.toNat % 64) lead)

/--
What a byte makes of an unfinished sequence. Where it is refused, `bytes` are those at fault.
-/
inductive Step
  | char (c : Char)
  | unfinished (sequence : List UInt8)
  | refused (bytes : List UInt8) (reason : Reason)
  deriving DecidableEq, Repr

def step (carried : List UInt8) (byte : UInt8) : Step :=
  match carried with
  | [] =>
    if byte < 0x80 then .char (Char.ofNat byte.toNat)
    else if 0xC2 ≤ byte && byte < 0xF5 then .unfinished [byte]
    else .refused [byte] .invalidStart
  | [lead] =>
    if !mayFollow lead byte then .refused [lead] .invalidContinuation
    else if lead < 0xE0 then .char (compose (lead.toNat % 32) [byte])
    else .unfinished [lead, byte]
  | [lead, second] =>
    if startsSurrogate lead second then .refused [lead] .invalidContinuation
    else if !isContinuation byte then .refused [lead, second] .invalidContinuation
    else if lead < 0xF0 then .char (compose (lead.toNat % 16) [second, byte])
    else .unfinished [lead, second, byte]
  | lead :: second :: third :: _ =>
    if !isContinuation byte then .refused [lead, second, third] .invalidContinuation
    else .char (compose (lead.toNat % 8) [second, third, byte])

/--
Decode `bytes` behind the unfinished sequence `carried`. Returns the characters and the sequence
that is unfinished at the end. Positions count from the first carried byte.
-/
def decode (carried bytes : List UInt8) : Except Fault (List Char × List UInt8) :=
  go carried 0 bytes []
where
  go (carried : List UInt8) (start : Nat) :
      List UInt8 → List Char → Except Fault (List Char × List UInt8)
    | [], decoded => .ok (decoded.reverse, carried)
    | byte :: rest, decoded =>
      match step carried byte with
      | .char c => go [] (start + carried.length + 1) rest (c :: decoded)
      | .unfinished sequence => go sequence start rest decoded
      | .refused bytes reason => .error ⟨start, bytes, reason⟩

def truncated (position : Nat) (carried : List UInt8) : Fault :=
  match carried with
  | [lead, second] =>
    if startsSurrogate lead second then ⟨position, [lead], .invalidContinuation⟩
    else ⟨position, carried, .unexpectedEnd⟩
  | _ => ⟨position, carried, .unexpectedEnd⟩

def decodeAll (bytes : List UInt8) : Except Fault (List Char) :=
  match decode [] bytes with
  | .error fault => .error fault
  | .ok (text, []) => .ok text
  | .ok (_, carried) => .error (truncated (bytes.length - carried.length) carried)

def encode (text : List Char) : List UInt8 :=
  text.flatMap String.utf8EncodeChar

def size (text : String) : Nat :=
  (encode text.toList).length

@[simp]
theorem encode_nil : encode [] = [] := rfl

@[simp]
theorem encode_cons (c : Char) (text : List Char) :
    encode (c :: text) = String.utf8EncodeChar c ++ encode text := by
  simp [encode]

@[simp]
theorem encode_append (text rest : List Char) :
    encode (text ++ rest) = encode text ++ encode rest := by
  simp [encode]

end ParenCalc.Text.Utf8
