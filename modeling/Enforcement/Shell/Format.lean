import Enforcement.Shell.Arithmetic
import Enforcement.Text.Utf8

/-! Text written by format: escapes, and directives that take arguments. -/

namespace Enforcement.Shell

open Enforcement.Text

structure Written where
  bytes : List UInt8
  ended : Bool
  deriving DecidableEq, Repr, Inhabited

private def isOctalDigit (c : Char) : Bool := '0' ≤ c && c ≤ '7'

private def simpleEscape? (c : Char) : Option UInt8 :=
  if c = 'a' then some 7
  else if c = 'b' then some 8
  else if c = 'f' then some 12
  else if c = 'n' then some 10
  else if c = 'r' then some 13
  else if c = 't' then some 9
  else if c = 'v' then some 11
  else if c = '\\' then some 92
  else none

def escape (text : List Char) : List UInt8 × List Char :=
  match text with
  | [] => ([92], [])
  | c :: rest =>
    match simpleEscape? c with
    | some byte => ([byte], rest)
    | none =>
      let digits := (text.take 3).takeWhile isOctalDigit
      if digits.isEmpty then ([92], text)
      else
        let value := digits.foldl (fun value c => value * 8 + (c.toNat - 48)) 0
        ([UInt8.ofNat value], text.drop digits.length)

/-- Text with its escapes; octal numbers may start with one zero more, and one escape ends it. -/
def escaped : Nat → List Char → Written
  | 0, _ => ⟨[], false⟩
  | _ + 1, [] => ⟨[], false⟩
  | fuel + 1, c :: rest =>
    if c = '\\' then
      match rest with
      | 'c' :: _ => ⟨[], true⟩
      | rest =>
        let start := match rest with
          | '0' :: digit :: more => if isOctalDigit digit then digit :: more else rest
          | rest => rest
        let (bytes, rest) := escape start
        let more := escaped fuel rest
        ⟨bytes ++ more.bytes, more.ended⟩
    else
      let more := escaped fuel rest
      ⟨encodeUtf8 c.toString ++ more.bytes, more.ended⟩

def escapedText (text : String) : Written := escaped (text.length + 1) text.toList

def echoed (arguments : List String) : List UInt8 :=
  let (open_, words) := match arguments with
    | "-n" :: words => (true, words)
    | words => (false, words)
  let written := escapedText (" ".intercalate words)
  if open_ || written.ended then written.bytes else written.bytes ++ [10]

def echoedPlain (arguments : List String) : List UInt8 :=
  let isOption (word : String) := match word.toList with
    | '-' :: c :: rest => (c :: rest).all fun c => c == 'n' || c == 'e' || c == 'E'
    | _ => false
  let options := (arguments.takeWhile isOption).flatMap String.toList
  let words := " ".intercalate (arguments.dropWhile isOption)
  let withEscapes := (options.filter fun c => c == 'e' || c == 'E').getLast? == some 'e'
  let written : Written := if withEscapes then escapedText words else ⟨encodeUtf8 words, false⟩
  if options.contains 'n' || written.ended then written.bytes else written.bytes ++ [10]

structure Fitting where
  flags : List Char
  width : Nat
  precision : Option Nat
  deriving DecidableEq, Repr, Inhabited

private def spaces (count : Nat) (fill : UInt8) : List UInt8 := List.replicate count fill

private def padded (fitting : Fitting) (bytes : List UInt8) : List UInt8 :=
  let missing := fitting.width - bytes.length
  if fitting.flags.contains '-' then bytes ++ spaces missing 32 else spaces missing 32 ++ bytes

private def paddedNumber (fitting : Fitting) (sign digits : List Char) : List UInt8 :=
  let digits := match fitting.precision with
    | some least => List.replicate (least - digits.length) '0' ++ digits
    | none =>
      if fitting.flags.contains '0' && !fitting.flags.contains '-' then
        List.replicate (fitting.width - sign.length - digits.length) '0' ++ digits
      else digits
  padded fitting (encodeUtf8 (String.ofList (sign ++ digits)))

def argumentNumber (argument : String) : Int × Bool :=
  match (argument.toList.dropWhile fun c => c == ' ' || c == '\t' || c == '\n') with
  | [] => (0, argument.isEmpty)
  | '"' :: rest => ((rest.head?.map fun c => (c.toNat : Int)).getD 0, true)
  | '\'' :: rest => ((rest.head?.map fun c => (c.toNat : Int)).getD 0, true)
  | text =>
    let (negative, digits) := match text with
      | '-' :: rest => (true, rest)
      | '+' :: rest => (false, rest)
      | text => (false, text)
    let signed (value : Int) := if negative then -value else value
    match wholeNumber? digits with
    | some value => (signed value, true)
    | none =>
      let start := digits.takeWhile Char.isDigit
      (signed ((wholeNumber? start).getD 0), false)

private def digitsIn (base : Nat) (value : Nat) (upper : Bool) : List Char :=
  let digits := Nat.toDigits base value
  if upper then digits.map Char.toUpper else digits

private def directive (fitting : Fitting) (mark : Char) (argument : String) : Written × Bool :=
  let number := argumentNumber argument
  let unsigned := (number.1 % Nat.pow 2 64).toNat
  let cut (bytes : List UInt8) := match fitting.precision with
    | some most => bytes.take most
    | none => bytes
  if mark = 's' then (⟨padded fitting (cut (encodeUtf8 argument)), false⟩, true)
  else if mark = 'c' then (⟨padded fitting ((encodeUtf8 argument).take 1), false⟩, true)
  else if mark = 'b' then
    let written := escapedText argument
    (⟨padded fitting (cut written.bytes), written.ended⟩, true)
  else if mark = 'd' || mark = 'i' then
    let sign := if number.1 < 0 then ['-']
      else if fitting.flags.contains '+' then ['+']
      else if fitting.flags.contains ' ' then [' '] else []
    (⟨paddedNumber fitting sign (Nat.toDigits 10 number.1.natAbs), false⟩, number.2)
  else
    let (base, mark10) := if mark = 'o' then (8, ['0']) else if mark = 'x' then (16, ['0', 'x'])
      else if mark = 'X' then (16, ['0', 'X']) else (10, [])
    let sign := if fitting.flags.contains '#' && unsigned ≠ 0 then mark10 else []
    (⟨paddedNumber fitting sign (digitsIn base unsigned (mark = 'X')), false⟩, number.2)

private def isFlag (c : Char) : Bool :=
  c == '-' || c == '+' || c == ' ' || c == '0' || c == '#'

private def isDirective (c : Char) : Bool :=
  ['s', 'c', 'b', 'd', 'i', 'u', 'o', 'x', 'X'].contains c

structure Pass where
  bytes : List UInt8
  rest : List String
  /-- Arguments that should have been numbers. -/
  misfits : List String
  ended : Bool
  /-- A directive that there is not. -/
  invalid : Option String
  deriving Inhabited

private def Pass.after (earlier : List UInt8) (misfits : List String) (pass : Pass) : Pass :=
  { pass with bytes := earlier ++ pass.bytes, misfits := misfits ++ pass.misfits }

private def readSize (text : List Char) (arguments : List String) :
    Option Nat × List Char × List String :=
  match text with
  | '*' :: rest => (some (argumentNumber (arguments.headD "")).1.toNat, rest, arguments.drop 1)
  | text =>
    let digits := text.takeWhile Char.isDigit
    (if digits.isEmpty then none
      else some (digits.foldl (fun value c => value * 10 + (c.toNat - 48)) 0),
      text.dropWhile Char.isDigit, arguments)

def formatPass : Nat → List Char → List String → Pass
  | 0, _, arguments => ⟨[], arguments, [], false, none⟩
  | _ + 1, [], arguments => ⟨[], arguments, [], false, none⟩
  | fuel + 1, c :: rest, arguments =>
    if c = '\\' then
      let (bytes, rest) := escape rest
      (formatPass fuel rest arguments).after bytes []
    else if c = '%' then
      match rest with
      | '%' :: rest => (formatPass fuel rest arguments).after [37] []
      | rest =>
        let flags := rest.takeWhile isFlag
        let (width, rest, arguments) := readSize (rest.dropWhile isFlag) arguments
        let (precision, rest, arguments) := match rest with
          | '.' :: rest =>
            let (precision, rest, arguments) := readSize rest arguments
            (some (precision.getD 0), rest, arguments)
          | rest => (none, rest, arguments)
        match rest with
        | [] => ⟨[], arguments, [], true, some "%"⟩
        | mark :: rest =>
          if !isDirective mark then ⟨[], arguments, [], true, some ("%" ++ mark.toString)⟩
          else
            let argument := arguments.headD ""
            let (written, fits) := directive ⟨flags, width.getD 0, precision⟩ mark argument
            if written.ended then ⟨written.bytes, [], [], true, none⟩
            else (formatPass fuel rest (arguments.drop 1)).after written.bytes
              (if fits then [] else [argument])
    else (formatPass fuel rest arguments).after (encodeUtf8 c.toString) []

/-- The format is used again as long as it takes arguments and there are any. -/
def formatted (format : String) : Nat → List String → Pass
  | 0, arguments => ⟨[], arguments, [], false, none⟩
  | fuel + 1, arguments =>
    let pass := formatPass (format.length + 1) format.toList arguments
    if pass.ended || pass.rest.isEmpty || pass.rest.length == arguments.length then pass
    else (formatted format fuel pass.rest).after pass.bytes pass.misfits

end Enforcement.Shell
