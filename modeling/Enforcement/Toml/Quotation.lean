import Enforcement.Toml.Scalar

/-! Texts between quotes: on one line or on many, with escapes or literal. -/

namespace Enforcement.Toml

def isPlain (c : Char) : Bool := c == '\t' || (32 ≤ c.toNat && c.toNat ≠ 127)

def isSpace (c : Char) : Bool := c == ' ' || c == '\t'

def skipSpaces (text : List Char) : List Char := text.dropWhile isSpace

def afterBreak? : List Char → Option (List Char)
  | '\n' :: rest => some rest
  | '\r' :: '\n' :: rest => some rest
  | _ => none

abbrev Quotation := Option (List Char × List Char)

private def before (c : Char) : Quotation → Quotation
  | some (text, rest) => some (c :: text, rest)
  | none => none

def codePoint? (digits : List Char) : Option Char :=
  let value := valueOf 16 digits
  if digits.all isHexDigit && (value < 0xD800 || (0xE000 ≤ value && value < 0x110000)) then
    some (Char.ofNat value)
  else none

def shortEscape? (c : Char) : Option Char :=
  if c = 'b' then some '\x08'
  else if c = 't' then some '\t'
  else if c = 'n' then some '\n'
  else if c = 'f' then some '\x0c'
  else if c = 'r' then some '\r'
  else if c = '"' then some '"'
  else if c = '\\' then some '\\'
  else none

private def beforeCode (digits : List Char) (quotation : Quotation) : Quotation :=
  match codePoint? digits with
  | some c => before c quotation
  | none => none

def readLine : List Char → Quotation
  | [] => none
  | '"' :: rest => some ([], rest)
  | '\\' :: 'u' :: a :: b :: c :: d :: rest => beforeCode [a, b, c, d] (readLine rest)
  | '\\' :: 'U' :: a :: b :: c :: d :: e :: f :: g :: h :: rest =>
    beforeCode [a, b, c, d, e, f, g, h] (readLine rest)
  | '\\' :: mark :: rest =>
    match shortEscape? mark with
    | some c => before c (readLine rest)
    | none => none
  | c :: rest => if isPlain c && c != '\\' then before c (readLine rest) else none

def readLiteralLine : List Char → Quotation
  | [] => none
  | '\'' :: rest => some ([], rest)
  | c :: rest => if isPlain c then before c (readLiteralLine rest) else none

def joinsLines (text : List Char) : Bool := (afterBreak? (skipSpaces text)).isSome

/--
Lines with escapes, up to three closing quotes; one or two quotes more belong to the text. While
lines are joined, blanks and line breaks are left out.
-/
def readLines (joining : Bool) : List Char → Quotation
  | [] => none
  | '"' :: '"' :: '"' :: '"' :: '"' :: rest => some (['"', '"'], rest)
  | '"' :: '"' :: '"' :: '"' :: rest => some (['"'], rest)
  | '"' :: '"' :: '"' :: rest => some ([], rest)
  | '\\' :: 'u' :: a :: b :: c :: d :: rest => beforeCode [a, b, c, d] (readLines false rest)
  | '\\' :: 'U' :: a :: b :: c :: d :: e :: f :: g :: h :: rest =>
    beforeCode [a, b, c, d, e, f, g, h] (readLines false rest)
  | '\\' :: mark :: rest =>
    match shortEscape? mark with
    | some c => before c (readLines false rest)
    | none => if joinsLines (mark :: rest) then readLines true (mark :: rest) else none
  | '\n' :: rest => if joining then readLines true rest else before '\n' (readLines false rest)
  | '\r' :: '\n' :: rest =>
    if joining then readLines true rest else before '\n' (readLines false rest)
  | c :: rest =>
    if joining && isSpace c then readLines true rest
    else if isPlain c && c != '\\' then before c (readLines false rest)
    else none

def readLiteralLines : List Char → Quotation
  | [] => none
  | '\'' :: '\'' :: '\'' :: '\'' :: '\'' :: rest => some (['\'', '\''], rest)
  | '\'' :: '\'' :: '\'' :: '\'' :: rest => some (['\''], rest)
  | '\'' :: '\'' :: '\'' :: rest => some ([], rest)
  | '\n' :: rest => before '\n' (readLiteralLines rest)
  | '\r' :: '\n' :: rest => before '\n' (readLiteralLines rest)
  | c :: rest => if isPlain c then before c (readLiteralLines rest) else none

private def skipBreak (text : List Char) : List Char := (afterBreak? text).getD text

def readQuotation : List Char → Quotation
  | '"' :: '"' :: '"' :: rest => readLines false (skipBreak rest)
  | '"' :: rest => readLine rest
  | '\'' :: '\'' :: '\'' :: rest => readLiteralLines (skipBreak rest)
  | '\'' :: rest => readLiteralLine rest
  | _ => none

end Enforcement.Toml
