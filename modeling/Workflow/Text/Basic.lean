set_option autoImplicit false

namespace Workflow.Text

def isBlank (c : Char) : Bool :=
  let n := c.toNat
  (9 ≤ n && n ≤ 13) || n == 0x20 || n == 0x85 || n == 0xA0 || n == 0x1680 ||
    (0x2000 ≤ n && n ≤ 0x200A) || n == 0x2028 || n == 0x2029 || n == 0x202F || n == 0x205F ||
    n == 0x3000

def dropBlanks (s : List Char) : List Char := s.dropWhile isBlank

def trimChars (s : List Char) : List Char := (dropBlanks (dropBlanks s).reverse).reverse

def trim (s : String) : String := String.ofList (trimChars s.toList)

def blank (s : String) : Bool := s.toList.all isBlank

theorem dropBlanks_eq_nil_iff (s : List Char) : dropBlanks s = [] ↔ s.all isBlank := by
  induction s with
  | nil => simp [dropBlanks]
  | cons c rest ih =>
    by_cases h : isBlank c
    · rw [dropBlanks, List.dropWhile_cons_of_pos h, List.all_cons, h, Bool.true_and]
      exact ih
    · simp [dropBlanks, h]

theorem all_dropBlanks (s : List Char) (rest : dropBlanks s ≠ []) :
    (dropBlanks s).all isBlank = false := by
  induction s with
  | nil => exact absurd rfl rest
  | cons c tail ih =>
    by_cases h : isBlank c
    · simp only [dropBlanks, List.dropWhile_cons, h, if_true] at rest ⊢
      exact ih rest
    · simp [dropBlanks, h]

theorem trimChars_eq_nil_iff (s : List Char) : trimChars s = [] ↔ s.all isBlank := by
  unfold trimChars
  rw [List.reverse_eq_nil_iff, dropBlanks_eq_nil_iff, List.all_reverse, ← dropBlanks_eq_nil_iff s]
  constructor
  · intro all
    by_cases h : dropBlanks s = []
    · exact h
    · rw [all_dropBlanks s h] at all
      exact absurd all (by decide)
  · intro h
    rw [h]
    rfl

theorem trim_eq_empty_iff (s : String) : trim s = "" ↔ blank s := by
  unfold trim blank
  rw [← trimChars_eq_nil_iff]
  constructor
  · intro h
    simpa using congrArg String.toList h
  · intro h
    simp [h]

def split (separator : Char) : List Char → List (List Char)
  | [] => [[]]
  | c :: rest =>
    match c == separator, split separator rest with
    | true, parts => [] :: parts
    | false, [] => [[c]]
    | false, part :: parts => (c :: part) :: parts

def joinCommas : List String → String
  | [] => ""
  | [part] => part
  | part :: next :: parts => part ++ "," ++ joinCommas (next :: parts)

def cleaned (parts : List String) : List String := (parts.map trim).filter (· ≠ "")

def listed (s : String) : List String := cleaned ((split ',' s.toList).map String.ofList)

def hexDigit (n : Nat) : Char := Nat.digitChar (n % 16)

def hexValue? (c : Char) : Option Nat :=
  if '0' ≤ c ∧ c ≤ '9' then some (c.toNat - '0'.toNat)
  else if 'a' ≤ c ∧ c ≤ 'f' then some (c.toNat - 'a'.toNat + 10)
  else if 'A' ≤ c ∧ c ≤ 'F' then some (c.toNat - 'A'.toNat + 10)
  else none

-- How many bytes follow a leading byte, and the range that the first of them is in.
def lead? (b : Nat) : Option (Nat × Nat × Nat) :=
  if 0xC2 ≤ b ∧ b ≤ 0xDF then some (1, 0x80, 0xBF)
  else if b = 0xE0 then some (2, 0xA0, 0xBF)
  else if b = 0xED then some (2, 0x80, 0x9F)
  else if 0xE1 ≤ b ∧ b ≤ 0xEF then some (2, 0x80, 0xBF)
  else if b = 0xF0 then some (3, 0x90, 0xBF)
  else if 0xF1 ≤ b ∧ b ≤ 0xF3 then some (3, 0x80, 0xBF)
  else if b = 0xF4 then some (3, 0x80, 0x8F)
  else none

def leadBits (b count : Nat) : Nat := b % Nat.pow 2 (6 - count)

structure Begun where
  bits : Nat
  missing : Nat
  low : Nat
  high : Nat

def begin (b : Nat) : Option Char × Option Begun :=
  if b < 0x80 then (some (Char.ofNat b), none)
  else
    match lead? b with
    | some (count, low, high) => (none, some ⟨leadBits b count, count, low, high⟩)
    | none => (none, none)

def charsFrom : Option Begun → List Nat → List (Option Char)
  | none, [] => []
  | some _, [] => [none]
  | none, b :: rest =>
    match begin b with
    | (some c, _) => some c :: charsFrom none rest
    | (none, some begun) => charsFrom (some begun) rest
    | (none, none) => none :: charsFrom none rest
  | some begun, b :: rest =>
    if begun.low ≤ b ∧ b ≤ begun.high then
      let bits := begun.bits * 64 + b % 64
      if begun.missing = 1 then some (Char.ofNat bits) :: charsFrom none rest
      else charsFrom (some ⟨bits, begun.missing - 1, 0x80, 0xBF⟩) rest
    else
      match begin b with
      | (some c, _) => none :: some c :: charsFrom none rest
      | (none, some begun) => none :: charsFrom (some begun) rest
      | (none, none) => none :: none :: charsFrom none rest

def decodeLossy (bytes : List Nat) : String :=
  String.ofList ((charsFrom none bytes).map (·.getD '\ufffd'))

def decode? (bytes : List Nat) : Option String := do
  let chars ← (charsFrom none bytes).mapM id
  return String.ofList chars

def encode (s : String) : List Nat := (s.toList.flatMap String.utf8EncodeChar).map UInt8.toNat

end Workflow.Text
