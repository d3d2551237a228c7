import SeriesQuery.Text.Quoted
import SeriesQuery.Text.Encoded
import SeriesQuery.Query.Basic

/-!
Graphite render targets: series paths under nested functions.
-/

set_option autoImplicit false

namespace SeriesQuery.Graphite

inductive Extra where
  | quoted (text : String)
  | plain (text : String)
  deriving Repr, DecidableEq

def Extra.text : Extra → String
  | .quoted text => Text.quoted text
  | .plain text => text

inductive Target where
  | path (path : String)
  | call (function : String) (inner : Target) (extras : List Extra)
  | group (members : List Target)

mutual

def Target.text : Target → String
  | .path written => written
  | .call function inner extras =>
    function ++ "(" ++ inner.text ++ String.join (extras.map fun extra => "," ++ extra.text) ++ ")"
  | .group members => "group(" ++ ",".intercalate (Target.texts members) ++ ")"

def Target.texts : List Target → List String
  | [] => []
  | member :: rest => member.text :: Target.texts rest

end

structure Compiled where
  target : String
  start : String
  finish : String
  timezone? : Option String
  deriving Repr, DecidableEq

def Compiled.parameters (compiled : Compiled) : List (String × String) :=
  [("target", compiled.target), ("from", compiled.start), ("until", compiled.finish),
    ("format", "json")] ++ (compiled.timezone?.map fun zone => ("tz", zone)).toList

def Compiled.text (compiled : Compiled) : String :=
  "&".intercalate (compiled.parameters.map fun (key, value) =>
    key ++ "=" ++ Text.percentEncoded value)

inductive Lookup where
  | find (pattern : String)
  | tagKeys (expression : String)
  | tagValues (tag : String) (expression : String)
  deriving Repr, DecidableEq

end SeriesQuery.Graphite
