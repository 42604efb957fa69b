import Enforcement.Error
import Enforcement.Text.Blank
import Enforcement.Text.LetterCase

/-! Algorithms for signing fragments. -/

namespace Enforcement

inductive Algorithm where
  | es256
  | es384
  | es512
  | ps256
  | ps384
  | ps512
  deriving DecidableEq, Repr, Inhabited

namespace Algorithm

def all : List Algorithm := [es256, es384, es512, ps256, ps384, ps512]

def name : Algorithm → String
  | es256 => "ES256"
  | es384 => "ES384"
  | es512 => "ES512"
  | ps256 => "PS256"
  | ps384 => "PS384"
  | ps512 => "PS512"

def standard : Algorithm := es384

/-- Neither letter case nor blanks around a name matter. -/
def ofName (name : String) : Except Error Algorithm :=
  match all.find? fun algorithm => Text.sameLetters algorithm.name (Text.trimmed name) with
  | some algorithm => .ok algorithm
  | none => .error (.input (.algorithmUnknown name))

end Algorithm

end Enforcement
