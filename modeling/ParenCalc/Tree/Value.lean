import ParenCalc.Decimal.Notation
import ParenCalc.Text.Quoted

namespace ParenCalc

/--
A plain value. The keys of a record and their values are given in order. Of a value of any other
kind, it is known what the kind is called and how the value is written.
-/
inductive Value
  | null
  | bool (b : Bool)
  | int (n : Int)
  | real (x : Float)
  | text (s : String)
  | list (items : List Value)
  | record (keys : List String) (values : List Value)
  | object (kind written : String)

namespace Value

def kindName : Value → String
  | .null => "NoneType"
  | .bool _ => "bool"
  | .int _ => "int"
  | .real _ => "float"
  | .text _ => "str"
  | .list _ => "list"
  | .record _ _ => "dict"
  | .object kind _ => kind

mutual

def write : Value → String
  | .null => "None"
  | .bool b => if b then "True" else "False"
  | .int n => toString n
  | .real x => Decimal.write x
  | .text s => Text.quote s
  | .list items => "[" ++ ", ".intercalate (writeItems items) ++ "]"
  | .record keys values => "\x7b" ++ ", ".intercalate (writeFields keys values) ++ "\x7d"
  | .object _ written => written

def writeItems : List Value → List String
  | [] => []
  | value :: rest => write value :: writeItems rest

def writeFields : List String → List Value → List String
  | key :: keys, value :: values =>
    (Text.quote key ++ ": " ++ write value) :: writeFields keys values
  | _, _ => []

end

def number? : Value → Option Rat
  | .bool b => some (if b then 1 else 0)
  | .int n => some n
  | .real x => if x.isFinite then some (Decimal.rational x) else none
  | _ => none

def lookup (key : String) : List String → List Value → Option Value
  | k :: keys, value :: values => if k = key then some value else lookup key keys values
  | _, _ => none

mutual

/--
Whether two values are the same. Numbers are compared as numbers, whatever their kind, and the order
of the fields of a record does not matter. Values of other kinds are the same where they are written
the same.
-/
def same : Value → Value → Bool
  | .null, other => match other with
    | .null => true
    | _ => false
  | .text s, other => match other with
    | .text t => s == t
    | _ => false
  | .list items, other => match other with
    | .list others => sameItems items others
    | _ => false
  | .record keys values, other => match other with
    | .record otherKeys others =>
      keys.length == otherKeys.length && sameFields keys values otherKeys others
    | _ => false
  | .object kind written, other => match other with
    | .object kind' written' => kind == kind' && written == written'
    | _ => false
  | .bool b, other => sameNumber (.bool b) other
  | .int n, other => sameNumber (.int n) other
  | .real x, other => match other with
    | .real y => x == y
    | other => sameNumber (.real x) other
where
  sameNumber (value other : Value) : Bool :=
    match value.number?, other.number? with
    | some m, some n => m == n
    | _, _ => false

def sameItems : List Value → List Value → Bool
  | [], others => others.isEmpty
  | value :: rest, others => match others with
    | [] => false
    | other :: others => same value other && sameItems rest others

def sameFields : List String → List Value → List String → List Value → Bool
  | key :: keys, value :: values, otherKeys, others =>
    (match lookup key otherKeys others with
      | some other => same value other
      | none => false) && sameFields keys values otherKeys others
  | _, _, _, _ => true

end

end Value

end ParenCalc
