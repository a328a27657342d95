import Workflow.Json.Outline
import Workflow.Text.Basic

set_option autoImplicit false

namespace Workflow.Json

def wordLimit : Nat := 18446744073709551616

-- Digits are gathered while the significand fits 64 bits. Later digits of the whole part only raise
-- the exponent, later fraction digits are left out.
def gather (significand : Nat) : List Nat → Nat × List Nat
  | [] => (significand, [])
  | d :: rest =>
    if significand * 10 + d < wordLimit then gather (significand * 10 + d) rest
    else (significand, d :: rest)

def realOutline (negative : Bool) (significand : Nat) (exponent : Int) : Outline :=
  match Double.ofDecimal? negative significand exponent with
  | some x => .real x
  | none => .unreadable

structure Numeral where
  negative : Bool
  whole : List Nat
  fraction : List Nat
  exponent : Option Int

def Numeral.outline (n : Numeral) : Outline :=
  let (significand, more) := gather 0 n.whole
  match more, n.fraction, n.exponent with
  | [], [], none =>
    if !n.negative then .int significand
    else if significand = 0 || wordLimit / 2 < significand then realOutline true significand 0
    else .int (-(significand : Int))
  | more, fraction, exponent =>
    let (significand, rest) := gather significand fraction
    let taken := fraction.length - rest.length
    realOutline n.negative significand (more.length - taken + exponent.getD 0)

inductive Token where
  | beginList
  | endList
  | beginRecord
  | endRecord
  | comma
  | colon
  -- A text whose escapes leave half of a surrogate pair alone is `none`.
  | text (value : Option String)
  | scalar (value : Outline)
  | bad

def codeUnit? (a b c d : Char) : Option Nat := do
  let a ← Text.hexValue? a
  let b ← Text.hexValue? b
  let c ← Text.hexValue? c
  let d ← Text.hexValue? d
  return ((a * 16 + b) * 16 + c) * 16 + d

def isHighSurrogate (unit : Nat) : Bool := 0xD800 ≤ unit && unit < 0xDC00
def isLowSurrogate (unit : Nat) : Bool := 0xDC00 ≤ unit && unit < 0xE000

def shortEscape? : Char → Option Char
  | '"' => some '"'
  | '\\' => some '\\'
  | '/' => some '/'
  | 'b' => some '\x08'
  | 'f' => some '\x0c'
  | 'n' => some '\n'
  | 'r' => some '\r'
  | 't' => some '\t'
  | _ => none

-- What a text holds so far: its characters from the last back, a high surrogate that waits for its
-- other half, and whether some half was left alone.
structure Gathered where
  chars : List Char := []
  high : Option Nat := none
  halved : Bool := false

namespace Gathered

def char (g : Gathered) (c : Char) : Gathered :=
  { chars := c :: g.chars, halved := g.halved || g.high.isSome }

def unit (g : Gathered) (u : Nat) : Gathered :=
  if isHighSurrogate u then { g with high := some u, halved := g.halved || g.high.isSome }
  else if isLowSurrogate u then
    match g.high with
    | some h =>
      { chars := Char.ofNat (0x10000 + (h - 0xD800) * 0x400 + (u - 0xDC00)) :: g.chars,
        halved := g.halved }
    | none => { g with halved := true }
  else g.char (Char.ofNat u)

def value (g : Gathered) : Option String :=
  if g.halved || g.high.isSome then none else some (String.ofList g.chars.reverse)

end Gathered

def scanText (g : Gathered) : List Char → Option (Option String × List Char)
  | '"' :: rest => some (g.value, rest)
  | '\\' :: 'u' :: a :: b :: c :: d :: rest =>
    match codeUnit? a b c d with
    | some u => scanText (g.unit u) rest
    | none => none
  | '\\' :: c :: rest =>
    match shortEscape? c with
    | some e => scanText (g.char e) rest
    | none => none
  | c :: rest => if c.toNat < 0x20 || c = '\\' then none else scanText (g.char c) rest
  | [] => none

def digitOf (c : Char) : Nat := c.toNat - '0'.toNat

def takeDigits (s : List Char) : List Nat × List Char :=
  ((s.takeWhile Char.isDigit).map digitOf, s.dropWhile Char.isDigit)

def numberOf (digits : List Nat) : Nat := digits.foldl (fun n d => n * 10 + d) 0

def scanWhole (s : List Char) : Option (List Nat × List Char) :=
  match takeDigits s with
  | ([], _) => none
  | (0 :: _ :: _, _) => none
  | scanned => some scanned

def scanFraction : List Char → Option (List Nat × List Char)
  | '.' :: rest =>
    match takeDigits rest with
    | ([], _) => none
    | scanned => some scanned
  | s => some ([], s)

def scanExponentDigits (negative : Bool) (s : List Char) : Option (Option Int × List Char) :=
  match takeDigits s with
  | ([], _) => none
  | (digits, rest) =>
    let n : Int := numberOf digits
    some (some (if negative then -n else n), rest)

def scanExponent : List Char → Option (Option Int × List Char)
  | c :: rest =>
    if c = 'e' || c = 'E' then
      match rest with
      | '+' :: digits => scanExponentDigits false digits
      | '-' :: digits => scanExponentDigits true digits
      | digits => scanExponentDigits false digits
    else some (none, c :: rest)
  | [] => some (none, [])

def scanNumeral (negative : Bool) (s : List Char) : Option (Outline × List Char) := do
  let (whole, s) ← scanWhole s
  let (fraction, s) ← scanFraction s
  let (exponent, s) ← scanExponent s
  return (Numeral.outline ⟨negative, whole, fraction, exponent⟩, s)

def isSpace (c : Char) : Bool := c = ' ' || c = '\t' || c = '\n' || c = '\r'

def scanToken : List Char → Token × List Char
  | '[' :: rest => (.beginList, rest)
  | ']' :: rest => (.endList, rest)
  | '{' :: rest => (.beginRecord, rest)
  | '}' :: rest => (.endRecord, rest)
  | ',' :: rest => (.comma, rest)
  | ':' :: rest => (.colon, rest)
  | 'n' :: 'u' :: 'l' :: 'l' :: rest => (.scalar .null, rest)
  | 't' :: 'r' :: 'u' :: 'e' :: rest => (.scalar (.bool true), rest)
  | 'f' :: 'a' :: 'l' :: 's' :: 'e' :: rest => (.scalar (.bool false), rest)
  | '"' :: rest =>
    match scanText {} rest with
    | some (value, rest) => (.text value, rest)
    | none => (.bad, [])
  | '-' :: rest =>
    match scanNumeral true rest with
    | some (value, rest) => (.scalar value, rest)
    | none => (.bad, [])
  | s =>
    match scanNumeral false s with
    | some (value, rest) => (.scalar value, rest)
    | none => (.bad, [])

-- At most `fuel` tokens, which is enough when it is the number of characters.
def tokensFrom : Nat → List Char → List Token
  | 0, _ => []
  | fuel + 1, s =>
    match s.dropWhile isSpace with
    | [] => []
    | s =>
      match scanToken s with
      | (.bad, _) => [.bad]
      | (token, rest) => token :: tokensFrom fuel rest

def tokens (s : String) : List Token := tokensFrom s.length s.toList

end Workflow.Json
