import Enforcement.Text.WordCharacter

/-! Words of a refused login, found in any case in the output of a tool. -/

namespace Enforcement.Text

/-- The letter `s` has a third form, the long one. -/
def sameLetter (wanted c : Char) : Bool :=
  c.toLower == wanted || wanted == 's' && c == '\u017f'

def afterPhrase? : List Char → List Char → Option (List Char)
  | [], text => some text
  | _ :: _, [] => none
  | letter :: letters, c :: text =>
    if sameLetter letter c then afterPhrase? letters text else none

/-- Whether a phrase, which begins and ends in a word character, stands at this place as words. -/
def phraseAt (phrase : List Char) (before : Option Char) (text : List Char) : Bool :=
  match afterPhrase? phrase text with
  | none => false
  | some rest => !before.any isWord && !rest.head?.any isWord

def hasPhrase (phrase : List Char) (text : List Char) : Bool :=
  go none text
where
  go : Option Char → List Char → Bool
    | _, [] => false
    | before, c :: rest => phraseAt phrase before (c :: rest) || go (some c) rest

def refusalPhrases : List (List Char) := ["status code 401".toList, "unauthorized".toList]

def isRefusal (output : String) : Bool := refusalPhrases.any (hasPhrase · output.toList)

end Enforcement.Text
