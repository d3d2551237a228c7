import SeriesQuery.Http.Status
import SeriesQuery.Text.Encoded
import SeriesQuery.Text.Split
import SeriesQuery.Decimal.Text

/-!
Requests and replies, and which addresses can be asked at all.
-/

set_option autoImplicit false

namespace SeriesQuery.Http

inductive Method where
  | get
  | post
  deriving Repr, DecidableEq

structure Request where
  method : Method
  address : String
  authorization? : Option String
  contentType? : Option String
  accept? : Option String
  body : String
  deriving Repr, DecidableEq

structure Reply where
  status : Status
  body : String
  deriving Repr, DecidableEq

inductive Fault where
  | timeout (text : String)
  | connect (text : String)
  /-- An exchange that breaks off, with the texts of what lies behind that. -/
  | other (text : String) (causes : List String)
  deriving Repr, DecidableEq

def Fault.unreachable (address reason : String) : Fault :=
  .connect ("error sending request for url (" ++ address ++
    "): error trying to connect: tcp connect error: " ++ reason)

/-- Answers a request. A reply whose body cannot be read is none. -/
abbrev Transport (m : Type → Type) := Request → m (Except Fault Reply)

/-! ## Addresses -/

def parameterText (parameters : List (String × String)) : String :=
  "&".intercalate (parameters.map fun (name, value) =>
    Text.formEncoded name ++ "=" ++ Text.formEncoded value)

/-- An address below a base, which may end in slashes. -/
def below (base path : String) : String :=
  String.ofList (base.toList.reverse.dropWhile (· == '/')).reverse ++ path

def withParameters (address : String) (parameters : List (String × String)) : String :=
  if parameters.isEmpty then address else address ++ "?" ++ parameterText parameters

def Request.fetch (address : String) : Request := ⟨.get, address, none, none, none, ""⟩

inductive AddressProblem where
  | relative
  | scheme (address : String)
  | emptyHost
  | host
  | port
  deriving Repr, DecidableEq

namespace AddressProblem

def reason : AddressProblem → String
  | .relative => "relative URL without a base"
  | .scheme _ => "URL scheme is not allowed"
  | .emptyHost => "empty host"
  | .host => "invalid international domain name"
  | .port => "invalid port number"

def message : AddressProblem → String
  | .scheme address => "builder error for url (" ++ address ++ "): URL scheme is not allowed"
  | problem => "builder error: " ++ problem.reason

end AddressProblem

def scheme? (address : List Char) : Option (List Char × List Char) := do
  let (scheme, rest) ← Text.splitFirst? ':' address
  let isPart := fun (c : Char) => c.isAlphanum || c == '+' || c == '-' || c == '.'
  if (scheme.head?.any Char.isAlpha) && scheme.all isPart then return (scheme, rest) else none

/-- The host, and the port after its colon. An address in square brackets may hold colons. -/
def hostAndPort (authority : List Char) : List Char × Option (List Char) :=
  match authority with
  | '[' :: _ =>
    let host := authority.takeWhile (· != ']')
    match authority.drop (host.length + 1) with
    | ':' :: port => (host, some port)
    | _ => (host, none)
  | _ =>
    match Text.splitFirst? ':' authority with
    | some (host, port) => (host, some port)
    | none => (authority, none)

def isForbiddenInHost (c : Char) : Bool :=
  c.toNat ≤ 32 || c.toNat == 127 || "<>^|%\"\x7b\x7d`".toList.contains c

def authorityProblem? (authority : List Char) : Option AddressProblem :=
  let afterUser := (authority.reverse.takeWhile (· != '@')).reverse
  let (host, port?) := hostAndPort afterUser
  if host.isEmpty then some .emptyHost
  else if host.any isForbiddenInHost then some .host
  else
    match port? with
    | some port =>
      if port.isEmpty || (Decimal.readDigits? port).any (· < UInt16.size) then none else some .port
    | none => none

/-- The problem of an address, if it has one. Only the web's two schemes can be asked. -/
def addressProblem? (address : String) : Option AddressProblem :=
  match scheme? (address.toList.dropWhile fun c => decide (c.toNat ≤ 32)) with
  | none => some .relative
  | some (scheme, rest) =>
    let scheme := String.ofList (scheme.map Char.toLower)
    if scheme = "http" ∨ scheme = "https" then
      let isSlash := fun (c : Char) => c == '/' || c == '\\'
      authorityProblem?
        ((rest.dropWhile isSlash).takeWhile fun c => !(isSlash c || c == '?' || c == '#'))
    else some (.scheme address)

end SeriesQuery.Http
