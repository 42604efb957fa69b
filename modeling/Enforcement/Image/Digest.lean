/-! Digests that name an artifact: an algorithm, a colon, and the encoded value. -/

namespace Enforcement.Image

def isLowerOrDigit (c : Char) : Bool := c.isLower || c.isDigit

def isEncodedChar (c : Char) : Bool := c.isAlphanum || c == '=' || c == '_' || c == '-'

def isAlgorithmSeparator (c : Char) : Bool := c == '.' || c == '+' || c == '_' || c == '-'

def isAlgorithm : List Char → Bool
  | [] => false
  | [c] => isLowerOrDigit c
  | c :: d :: rest =>
    isLowerOrDigit c && (isAlgorithm (d :: rest) || isAlgorithmSeparator d && isAlgorithm rest)

/-- Only such a digest may become part of a path. -/
def isDigest (digest : String) : Bool :=
  let algorithm := digest.toList.takeWhile (· != ':')
  match digest.toList.dropWhile (· != ':') with
  | _ :: encoded => isAlgorithm algorithm && !encoded.isEmpty && encoded.all isEncodedChar
  | [] => false

end Enforcement.Image
