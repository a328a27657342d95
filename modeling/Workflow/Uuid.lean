import Workflow.Text.Basic

set_option autoImplicit false

namespace Workflow

structure Uuid where
  value : BitVec 128
deriving DecidableEq, Repr

namespace Uuid

instance : Inhabited Uuid := ⟨⟨0⟩⟩

instance : LE Uuid := ⟨fun a b => a.value ≤ b.value⟩
instance (a b : Uuid) : Decidable (a ≤ b) := inferInstanceAs (Decidable (a.value ≤ b.value))

def digits (id : Uuid) : List Char :=
  (List.range 32).map fun i => Text.hexDigit (id.value.toNat / Nat.pow 16 (31 - i))

def render (id : Uuid) : String :=
  let d := id.digits
  String.ofList (d.take 8 ++ '-' :: (d.drop 8).take 4 ++ '-' :: (d.drop 12).take 4 ++
    '-' :: (d.drop 16).take 4 ++ '-' :: d.drop 20)

def ofDigits? (s : List Char) : Option Uuid :=
  if s.length = 32 then do
    let digits ← s.mapM Text.hexValue?
    return ⟨BitVec.ofNat 128 (digits.foldl (fun n d => n * 16 + d) 0)⟩
  else none

def ofGroups? (s : List Char) : Option Uuid :=
  if s.length = 36 ∧ [8, 13, 18, 23].all (fun i => s[i]? = some '-') then
    ofDigits? (s.filter (· ≠ '-'))
  else none

def parse? (s : String) : Option Uuid :=
  let s := s.toList
  match s.length with
  | 32 => ofDigits? s
  | 36 => ofGroups? s
  | 38 => if s.head? = some '{' ∧ s.getLast? = some '}' then ofGroups? (s.drop 1).dropLast else none
  | 45 =>
    if (s.take 9).map Char.toLower = "urn:uuid:".toList then ofGroups? (s.drop 9) else none
  | _ => none

end Uuid

end Workflow
