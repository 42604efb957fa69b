/-! Image names without what selects a version of the image. -/

namespace Enforcement.Image

/-- The part of a name after its last slash is the only one whose colon starts a tag. -/
def stripTag (name : List Char) : List Char :=
  let component := (name.reverse.takeWhile (· != '/')).reverse
  let path := name.take (name.length - component.length)
  if component.contains ':' then
    path ++ ((component.reverse.dropWhile (· != ':')).drop 1).reverse
  else name

def stripVersion (image : String) : String :=
  String.ofList (stripTag (image.toList.takeWhile (· != '@')))

end Enforcement.Image
