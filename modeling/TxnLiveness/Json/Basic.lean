/-!
# JSON values

The values that reports are made of, and their two written forms: compact, and with one entry to a
line. Numbers are natural. Fields are written in the order they stand in.
-/

namespace TxnLiveness

inductive Json
  | null
  | bool (b : Bool)
  | num (n : Nat)
  | str (s : String)
  | arr (items : List Json)
  | obj (fields : List (String × Json))

namespace Json

/-! ## Text -/

/-- Two hexadecimal digits of a control character. -/
def hexPair (n : Nat) : String :=
  String.ofList [Nat.digitChar (n / 16), Nat.digitChar (n % 16)]

/-- The written form of one character of a string. -/
def escape (c : Char) : String :=
  if c = '"' then "\\\""
  else if c = '\\' then "\\\\"
  else if c = '\n' then "\\n"
  else if c = '\r' then "\\r"
  else if c = '\t' then "\\t"
  else if c.toNat = 8 then "\\b"
  else if c.toNat = 12 then "\\f"
  else if c.toNat < 0x20 then "\\u00" ++ hexPair c.toNat
  else c.toString

def quote (s : String) : String := "\"" ++ String.join (s.toList.map escape) ++ "\""

/-! ## Compact form -/

mutual

/-- The form without spaces. -/
def compact : Json → String
  | null => "null"
  | bool b => if b then "true" else "false"
  | num n => toString n
  | str s => quote s
  | arr items => "[" ++ ",".intercalate (compactItems items) ++ "]"
  | obj fields => "\x7b" ++ ",".intercalate (compactFields fields) ++ "\x7d"

def compactItems : List Json → List String
  | [] => []
  | v :: l => compact v :: compactItems l

def compactFields : List (String × Json) → List String
  | [] => []
  | (name, v) :: l => (quote name ++ ":" ++ compact v) :: compactFields l

end

/-! ## One entry to a line -/

/-- Two spaces for each level. -/
def indent (level : Nat) : String := String.ofList (List.replicate (2 * level) ' ')

/-- Entries between brackets, one to a line, and nothing between them if there are none. -/
def block (level : Nat) (start stop : String) : List String → String
  | [] => start ++ stop
  | entries =>
    start ++ "\n" ++ ",\n".intercalate (entries.map (indent (level + 1) ++ ·)) ++ "\n" ++
      indent level ++ stop

mutual

def prettyAt (level : Nat) : Json → String
  | null => "null"
  | bool b => if b then "true" else "false"
  | num n => toString n
  | str s => quote s
  | arr items => block level "[" "]" (prettyItems (level + 1) items)
  | obj fields => block level "\x7b" "\x7d" (prettyFields (level + 1) fields)

def prettyItems (level : Nat) : List Json → List String
  | [] => []
  | v :: l => prettyAt level v :: prettyItems level l

def prettyFields (level : Nat) : List (String × Json) → List String
  | [] => []
  | (name, v) :: l => (quote name ++ ": " ++ prettyAt level v) :: prettyFields level l

end

/-- The form with one entry to a line. -/
def pretty (v : Json) : String := prettyAt 0 v

/-! ## Values -/

/-- A value that may be missing. -/
def ofOption {α : Type} (f : α → Json) : Option α → Json
  | some a => f a
  | none => null

def ofList {α : Type} (f : α → Json) (l : List α) : Json := arr (l.map f)

end Json

end TxnLiveness
