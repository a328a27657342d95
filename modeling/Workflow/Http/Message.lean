import Workflow.Http.Target
import Workflow.Json.Basic

set_option autoImplicit false

namespace Workflow.Http

def isNameChar (c : Char) : Bool :=
  c.isAlphanum || c ∈ "!#$%&'*+-.^_`|~".toList

def isQuotedChar (c : Char) : Bool := 0x20 ≤ c.toNat && c.toNat < 0x7F

inductive ParameterPlace where
  | before
  | name
  | equals
  | value
  -- After an opening quote; a quote closes only what holds something.
  | quoted (filled : Bool)
  | closed
deriving DecidableEq

def ParameterPlace.next? (place : ParameterPlace) (c : Char) : Option ParameterPlace :=
  match place with
  | .before => if c = ' ' then some .before else if isNameChar c then some .name else none
  | .name => if c = '=' then some .equals else if isNameChar c then some .name else none
  | .equals => if c = '"' then some (.quoted false) else if isNameChar c then some .value else none
  | .value => if c = ';' then some .before else if isNameChar c then some .value else none
  | .quoted filled =>
    if c = '"' ∧ filled then some .closed
    else if isQuotedChar c then some (.quoted true) else none
  | .closed => if c = ';' then some .before else if c = ' ' then some .closed else none

def ParameterPlace.final : ParameterPlace → Bool
  | .name => false
  | .quoted _ => false
  | _ => true

def parametersFrom (place : ParameterPlace) : List Char → Bool
  | [] => place.final
  | c :: rest =>
    match place.next? c with
    | some place => parametersFrom place rest
    | none => false

def splitSuffix (subtype : List Char) : List Char × Option (List Char) :=
  let suffix := (subtype.reverse.takeWhile (· ≠ '+')).reverse
  let before := subtype.take (subtype.length - suffix.length - 1)
  if suffix.length = subtype.length || before.isEmpty then (subtype, none)
  else (before, some suffix)

structure MediaType where
  type : String
  subtype : String
  suffix : Option String
deriving DecidableEq, Repr

namespace MediaType

def parse? (s : String) : Option MediaType :=
  let chars := s.toList.map Char.toLower
  let type := chars.takeWhile isNameChar
  match chars.drop type.length with
  | '/' :: rest =>
    let name := rest.takeWhile isNameChar
    let (subtype, suffix) := splitSuffix name
    let whole := match rest.drop name.length with
      | [] => true
      | c :: parameters => c = ';' && !name.isEmpty && parametersFrom .before parameters
    if !type.isEmpty && whole then
      some ⟨String.ofList type, String.ofList subtype, suffix.map String.ofList⟩
    else none
  | _ => none

def isJson (media : MediaType) : Bool :=
  media.type = "application" && (media.subtype = "json" || media.suffix = some "json")

end MediaType

inductive Method where
  | get
  | head
  | post
  | put
  | delete
  | other
deriving DecidableEq, Repr

def Method.ofName? : String → Option Method
  | "GET" => some .get
  | "HEAD" => some .head
  | "POST" => some .post
  | "PUT" => some .put
  | "DELETE" => some .delete
  | name => if !name.isEmpty && name.toList.all isNameChar then some .other else none

def isHeaderValue (s : String) : Bool :=
  s.toList.all fun c => c = '\t' || (0x20 ≤ c.toNat && c.toNat ≠ 0x7F)

structure Request where
  method : Method
  target : Target
  contentType : Option String := none
  body : String := ""

def Request.announcesJson (request : Request) : Bool :=
  match request.contentType.bind MediaType.parse? with
  | some media => media.isJson
  | none => false

inductive Status where
  | ok
  | created
  | noContent
  | badRequest
  | notFound
  | methodNotAllowed
  | conflict
  | unsupportedMediaType
  | unprocessable
  | internalError
  | unavailable
deriving DecidableEq, Repr

namespace Status

def code : Status → Nat
  | .ok => 200
  | .created => 201
  | .noContent => 204
  | .badRequest => 400
  | .notFound => 404
  | .methodNotAllowed => 405
  | .conflict => 409
  | .unsupportedMediaType => 415
  | .unprocessable => 422
  | .internalError => 500
  | .unavailable => 503

end Status

inductive Body where
  | json (document : Json)
  | text (value : String)

structure Response where
  status : Status
  body : Body

end Workflow.Http
