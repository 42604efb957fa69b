import Enforcement.Error
import Enforcement.Text.Blank
import Enforcement.Text.WordCharacter

/-!
Image references: `registry/repository`, a tag and a digest. A reference that leaves out its
registry means the public one, and one with neither tag nor digest means the latest image.
-/

namespace Enforcement

open Enforcement.Text

structure ImageReference where
  registry : String
  repository : String
  tag : Option String
  digest : Option String
  deriving DecidableEq, Repr, Inhabited

namespace ImageReference

def publicRegistry : String := "docker.io"

def splitFirst (mark : Char) : List Char → List Char × Option (List Char)
  | [] => ([], none)
  | c :: rest =>
    if c = mark then ([], some rest)
    else
      let (before, after) := splitFirst mark rest
      (c :: before, after)

def splitAll (mark : Char) : List Char → List (List Char)
  | [] => [[]]
  | c :: rest =>
    if c = mark then [] :: splitAll mark rest
    else
      match splitAll mark rest with
      | [] => [[c]]
      | part :: parts => (c :: part) :: parts

def isPathChar (c : Char) : Bool := c.isLower || c.isDigit

/--
A component of a path: runs of lower-case letters and digits, and between two of them a point,
one or two underscores, or hyphens.
-/
def isComponent : List Char → Bool
  | [] => false
  | c :: rest => isPathChar c && afterRun rest
where
  afterRun : List Char → Bool
    | [] => true
    | '.' :: rest => inRun rest
    | '_' :: '_' :: rest => inRun rest
    | '_' :: rest => inRun rest
    | '-' :: rest => inHyphens rest
    | c :: rest => isPathChar c && afterRun rest
  inRun : List Char → Bool
    | [] => false
    | c :: rest => isPathChar c && afterRun rest
  inHyphens : List Char → Bool
    | [] => false
    | '-' :: rest => inHyphens rest
    | c :: rest => isPathChar c && afterRun rest

def isLabel (label : List Char) : Bool :=
  label.all (fun c => c.isAlphanum || c == '-') &&
    label.head?.any Char.isAlphanum && label.getLast?.any Char.isAlphanum

def isHost (host : List Char) : Bool :=
  let (labels, port) := splitFirst ':' host
  (splitAll '.' labels).all isLabel &&
    match port with
    | none => true
    | some digits => !digits.isEmpty && digits.all Char.isDigit

def isName (name : List Char) : Bool :=
  match splitAll '/' name with
  | [] => false
  | [component] => isComponent component
  | first :: rest => (isComponent first || isHost first) && rest.all isComponent

def isTag : List Char → Bool
  | [] => false
  | c :: rest =>
    isWord c && rest.length ≤ 127 && rest.all fun c => isWord c || c == '.' || c == '-'

def isHexDigit (c : Char) : Bool :=
  c.isDigit || 'a' ≤ c && c ≤ 'f' || 'A' ≤ c && c ≤ 'F'

def isDigestSeparator (c : Char) : Bool := c == '-' || c == '_' || c == '+' || c == '.'

def isDigestAlgorithm : List Char → Bool
  | [] => false
  | c :: rest => c.isAlpha && inWord rest
where
  inWord : List Char → Bool
    | [] => true
    | c :: rest => c.isAlphanum && inWord rest || isDigestSeparator c && atWord rest
  atWord : List Char → Bool
    | [] => false
    | c :: rest => c.isAlpha && inWord rest

def isDigest (digest : List Char) : Bool :=
  match splitFirst ':' digest with
  | (_, none) => false
  | (algorithm, some value) =>
    isDigestAlgorithm algorithm && 32 ≤ value.length && value.all isHexDigit

/-- Name and tag: a colon after the last slash starts a tag. -/
def splitTag (text : List Char) : List Char × Option (List Char) :=
  let component := (text.reverse.takeWhile (· != '/')).reverse
  let path := text.take (text.length - component.length)
  let (name, tag) := splitFirst ':' component
  (path ++ name, tag)

def parts? (text : List Char) : Option (List Char × Option (List Char) × Option (List Char)) :=
  let (tagged, digest) := splitFirst '@' text
  let (name, tag) := splitTag tagged
  if isName name && tag.all isTag && digest.all isDigest then some (name, tag, digest) else none

/-- Host and path of a name; a first component that can be no host belongs to the path. -/
def splitRegistry (name : List Char) : List Char × List Char :=
  let (registry, repository) := match splitFirst '/' name with
    | (first, some rest) =>
      if first.contains '.' || first.contains ':' || first == "localhost".toList then (first, rest)
      else (publicRegistry.toList, name)
    | (_, none) => (publicRegistry.toList, name)
  let registry :=
    if registry == "index.docker.io".toList then publicRegistry.toList else registry
  if registry == publicRegistry.toList && !repository.contains '/' then
    (registry, "library/".toList ++ repository)
  else (registry, repository)

def digestFault? (digest : List Char) : Option String :=
  let (algorithm, value) := splitFirst ':' digest
  let length := (value.getD []).length
  let expected? := match String.ofList algorithm with
    | "sha256" => some 64
    | "sha384" => some 96
    | "sha512" => some 128
    | _ => none
  match expected? with
  | none => some "unsupported digest algorithm"
  | some expected => if length = expected then none else some "invalid checksum digest length"

def read (text : List Char) : Except String ImageReference :=
  if text.isEmpty then .error "repository name must have at least one component"
  else
    match parts? text with
    | none => .error "invalid reference format"
    | some (name, tag, digest) =>
      let (registry, repository) := splitRegistry name
      if 255 < repository.length then
        .error "repository name must not be more than 255 characters"
      else
        match digest.bind digestFault? with
        | some fault => .error fault
        | none =>
          let tag := if tag.isNone && digest.isNone then some "latest".toList else tag
          .ok ⟨String.ofList registry, String.ofList repository, tag.map String.ofList,
            digest.map String.ofList⟩

def parse (text : String) : Except Error ImageReference :=
  let text := trimmed text
  (read text.toList).mapError fun reason => .input (.referenceInvalid text reason)

def name (reference : ImageReference) : String :=
  reference.registry ++ "/" ++ reference.repository

def toText (reference : ImageReference) : String :=
  let tag := match reference.tag with
    | some tag => ":" ++ tag
    | none => ""
  let digest := match reference.digest with
    | some digest => "@" ++ digest
    | none => ""
  reference.name ++ tag ++ digest

def atDigest (reference : ImageReference) (digest : String) : String :=
  reference.name ++ "@" ++ digest

end ImageReference

end Enforcement
