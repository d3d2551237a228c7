/-!
Records of comma separated values. Line feeds and carriage returns end a record, empty lines are
none, and a `#` at the start of a record begins a comment, which a line feed ends. A field that
starts with a quote goes on to the next single quote, whatever stands between; a doubled quote
stands for one. Records may differ in length.
-/

set_option autoImplicit false

namespace SeriesQuery.Csv

abbrev Record := List String

inductive Place where
  | start
  | plain
  | quoted
  /-- After a quote inside a quoted field. -/
  | afterQuote
  deriving Repr, DecidableEq

/-- What has been read of the record at hand; the fields and the characters of the last one stand in
reverse. -/
inductive Scan where
  | between
  | comment
  | inside (fields : List String) (place : Place) (field : List Char)
  deriving Repr, DecidableEq

def endsRecord (c : Char) : Bool := c == '\n' || c == '\r'

def fieldText (field : List Char) : String := String.ofList field.reverse

def recordOf (fields : List String) (field : List Char) : Record :=
  (fieldText field :: fields).reverse

def outside (fields : List String) (field : List Char) (c : Char) : Option Record × Scan :=
  if c = ',' then (none, .inside (fieldText field :: fields) .start [])
  else if endsRecord c then (some (recordOf fields field), .between)
  else (none, .inside fields .plain (c :: field))

def within (fields : List String) (place : Place) (field : List Char) (c : Char) :
    Option Record × Scan :=
  match place with
  | .start => if c = '"' then (none, .inside fields .quoted []) else outside fields [] c
  | .plain => outside fields field c
  | .quoted =>
    if c = '"' then (none, .inside fields .afterQuote field)
    else (none, .inside fields .quoted (c :: field))
  | .afterQuote =>
    if c = '"' then (none, .inside fields .quoted ('"' :: field)) else outside fields field c

def step (scan : Scan) (c : Char) : Option Record × Scan :=
  match scan with
  | .between =>
    if endsRecord c then (none, .between)
    else if c = '#' then (none, .comment)
    else within [] .start [] c
  | .comment => if c = '\n' then (none, .between) else (none, .comment)
  | .inside fields place field => within fields place field c

/-- The record that the end of the text ends. A comment that no line feed ends leaves one empty
field. -/
def Scan.last : Scan → List Record
  | .between => []
  | .comment => [[""]]
  | .inside fields _ field => [recordOf fields field]

def recordsFrom (scan : Scan) : List Char → List Record
  | [] => scan.last
  | c :: rest =>
    match step scan c with
    | (some record, next) => record :: recordsFrom next rest
    | (none, next) => recordsFrom next rest

/-- The records of a text, which a byte order mark may precede. -/
def records (text : String) : List Record :=
  match text.toList with
  | c :: rest => recordsFrom .between (if c.toNat = 0xfeff then rest else c :: rest)
  | [] => []

end SeriesQuery.Csv
