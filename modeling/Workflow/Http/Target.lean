import Workflow.Text.Basic

set_option autoImplicit false

namespace Workflow.Http

def percentDecode : List Nat → List Nat
  | 0x25 :: a :: b :: rest =>
    match Text.hexValue? (Char.ofNat a), Text.hexValue? (Char.ofNat b) with
    | some a, some b => (a * 16 + b) :: percentDecode rest
    | _, _ => 0x25 :: percentDecode (a :: b :: rest)
  | b :: rest => b :: percentDecode rest
  | [] => []

def segmentText? (segment : String) : Option String :=
  Text.decode? (percentDecode (Text.encode segment))

def fieldText (field : String) : String :=
  Text.decodeLossy (percentDecode ((Text.encode field).map fun b => if b = 0x2B then 0x20 else b))

def cut (separator : Char) (s : String) : String × Option String :=
  let chars := s.toList
  match chars.dropWhile (· ≠ separator) with
  | [] => (s, none)
  | _ :: rest => (String.ofList (chars.takeWhile (· ≠ separator)), some (String.ofList rest))

def isSchemeChar (c : Char) : Bool := c.isAlphanum || c ∈ "+-.~".toList

def isAuthorityChar (c : Char) : Bool := c.isAlphanum || c ∈ "!$&'()*+,-.;=_~".toList

def endsAuthority (c : Char) : Bool := c = '/' || c = '?' || c = '#'

-- What has been met of an authority: the colons and percent signs since its last at sign or closing
-- bracket, the brackets, and whether it stops at an at sign.
structure AuthorityPlace where
  colons : Nat := 0
  percent : Bool := false
  opened : Bool := false
  closed : Bool := false
  atSign : Bool := false

def AuthorityPlace.next? (place : AuthorityPlace) (c : Char) : Option AuthorityPlace :=
  let place := { place with atSign := false }
  match c with
  | ':' => if place.colons < 8 then some { place with colons := place.colons + 1 } else none
  | '%' => some { place with percent := true }
  | '@' => some { place with colons := 0, percent := false, atSign := true }
  | '[' => if place.percent || place.opened then none else some { place with opened := true }
  | ']' =>
    if place.opened && !place.closed then
      some { place with colons := 0, percent := false, closed := true }
    else none
  | c => if isAuthorityChar c then some place else none

def AuthorityPlace.final (place : AuthorityPlace) : Bool :=
  place.colons ≤ 1 && !place.percent && place.opened = place.closed && !place.atSign

def authorityFrom (place : AuthorityPlace) : List Char → Bool
  | [] => place.final
  | c :: rest =>
    match place.next? c with
    | some place => authorityFrom place rest
    | none => false

def isPlain (c : Char) : Bool := 0x20 < c.toNat && c.toNat ≠ 0x7F

def isPathChar (c : Char) : Bool := isPlain c && c ∉ "#<>?`".toList

def isQueryChar (c : Char) : Bool := isPlain c && c ∉ "\"#<>".toList

structure Target where
  path : String
  query : String
deriving DecidableEq, Repr

namespace Target

def sizeLimit : Nat := 65534

def ofPath? (s : String) : Option Target :=
  let (whole, _) := cut '#' s
  let (path, query) := cut '?' whole
  let query := query.getD ""
  if path.toList.all isPathChar && query.toList.all isQueryChar then some ⟨path, query⟩ else none

def afterScheme? (s : List Char) : Option (List Char) :=
  match s.dropWhile isSchemeChar with
  | ':' :: '/' :: '/' :: rest => some rest
  | _ => none

def schemeLimit : Nat := 64

def parse? (s : String) : Option Target :=
  if sizeLimit < s.utf8ByteSize then none
  else
    match s.toList with
    | [] => none
    | ['*'] => some ⟨s, ""⟩
    | '/' :: _ => ofPath? s
    | chars =>
      match afterScheme? chars with
      | some rest =>
        let authority := rest.takeWhile (!endsAuthority ·)
        if schemeLimit < (chars.takeWhile isSchemeChar).length || authority.isEmpty ||
            !authorityFrom {} authority then none
        else ofPath? (String.ofList (rest.drop authority.length))
      | none => if authorityFrom {} chars then some ⟨"", ""⟩ else none

def segments (target : Target) : List String :=
  match Text.split '/' target.path.toList with
  | [] :: rest => rest.map String.ofList
  | _ => []

def fields (target : Target) : List (String × String) :=
  ((Text.split '&' target.query.toList).filter (· ≠ [])).map fun pair =>
    let (key, value) := cut '=' (String.ofList pair)
    (fieldText key, fieldText (value.getD ""))

end Target

end Workflow.Http
