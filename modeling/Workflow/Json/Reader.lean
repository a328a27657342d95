import Workflow.Json.Basic
import Workflow.Json.Token

set_option autoImplicit false

namespace Workflow.Json

inductive Frame where
  | list (done : List Outline)
  | record (done : List (Option String × Outline))
  | member (done : List (Option String × Outline)) (key : Option String)

inductive Expect where
  | value
  | firstItem
  | firstKey
  | key
  | colon
  | after
deriving DecidableEq

def Frame.cut : Frame → Option Outline → Outline
  | .list done, part => .list (part.toList.reverse ++ done).reverse false
  | .record done, _ => .record done.reverse false
  | .member done key, part => .record ((key, part.getD .broken) :: done).reverse false

def abandon : List Frame → Option Outline → Outline
  | [], part => part.getD .broken
  | frame :: outer, part => abandon outer (some (frame.cut part))

def place (value : Outline) : List Frame → Option (List Frame)
  | [] => none
  | .list done :: outer => some (.list (value :: done) :: outer)
  | .record done :: outer => some (.record done :: outer)
  | .member done key :: outer => some (.record ((key, value) :: done) :: outer)

def advance (expect : Expect) (frames : List Frame) (token : Token) :
    (Expect × List Frame) ⊕ Outline :=
  let finish (value : Outline) (outer : List Frame) :=
    match place value outer with
    | some frames => .inl (.after, frames)
    | none => .inr value
  match expect, token, frames with
  | .firstItem, .endList, .list done :: outer => finish (.list done.reverse true) outer
  | .after, .endList, .list done :: outer => finish (.list done.reverse true) outer
  | .after, .comma, .list done :: outer => .inl (.value, .list done :: outer)
  | .firstKey, .endRecord, .record done :: outer => finish (.record done.reverse true) outer
  | .after, .endRecord, .record done :: outer => finish (.record done.reverse true) outer
  | .after, .comma, .record done :: outer => .inl (.key, .record done :: outer)
  | .firstKey, .text key, .record done :: outer => .inl (.colon, .member done key :: outer)
  | .key, .text key, .record done :: outer => .inl (.colon, .member done key :: outer)
  | .colon, .colon, frames => .inl (.value, frames)
  | expect, token, frames =>
    if expect = .value ∨ expect = .firstItem then
      match token with
      | .beginList => .inl (.firstItem, .list [] :: frames)
      | .beginRecord => .inl (.firstKey, .record [] :: frames)
      | .text value => finish (value.elim .unreadable .text) frames
      | .scalar value => finish value frames
      | _ => .inr (abandon frames (some .broken))
    else .inr (abandon frames none)

def outlineFrom (expect : Expect) (frames : List Frame) : List Token → Outline × List Token
  | [] => (abandon frames (if expect = .value then some .broken else none), [])
  | token :: rest =>
    match advance expect frames token with
    | .inl (expect, frames) => outlineFrom expect frames rest
    | .inr outline => (outline, rest)

def outlineOf (s : String) : Outline × Bool :=
  let (outline, rest) := outlineFrom .value [] (tokens s)
  (outline, rest.isEmpty)

-- An object that starts with this key holds a text under it and nothing else. It stands for the
-- document in that text, which may hold embedded documents too.
def embeddedKey : String := "$serde_json::private::RawValue"

mutual

def expand? (read? : String → Option Json) : Json → Option Json
  | .list items => (expandItems? read? items).map .list
  | .record members =>
    if (members.map (·.1)).head? = some embeddedKey then
      match members with
      | [(_, .text s)] => read? s
      | _ => none
    else (expandMembers? read? members).map .record
  | json => some json

def expandItems? (read? : String → Option Json) : List Json → Option (List Json)
  | [] => some []
  | item :: rest => do
    let first ← item.expand? read?
    let others ← expandItems? read? rest
    return first :: others

def expandMembers? (read? : String → Option Json) :
    List (String × Json) → Option (List (String × Json))
  | [] => some []
  | (key, value) :: rest => do
    let first ← value.expand? read?
    let others ← expandMembers? read? rest
    return (key, first) :: others

end

def parseWithin? : Nat → String → Option Json
  | 0, _ => none
  | fuel + 1, s =>
    match outlineOf s with
    | (outline, true) => (outline.json? depthLimit).bind (expand? (parseWithin? fuel))
    | _ => none

-- The value of a text that is one JSON value and nothing else. An embedded text is shorter than the
-- text around it, so there is fuel enough.
def parse? (s : String) : Option Json := parseWithin? (s.length + 1) s

-- The value as it is read back from its text. The reader does not always give the nearest double of
-- a numeral, so a double may come back as a neighbour of it; a value too deep to be read stays.
def reread (json : Json) : Json := (parse? json.compact).getD json

end Workflow.Json
