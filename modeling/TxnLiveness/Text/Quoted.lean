import TxnLiveness.Text.Shown
/-!
# Quoted text

Keys appear inside messages as quoted text: between double quotes, with the quote and the
backslash escaped, the common controls written short and every other character that is not shown
as itself written by its number.
-/

namespace TxnLiveness.Text

def hexDigits (n : Nat) : String := String.ofList (Nat.toDigits 16 n)

/-- A byte as two hexadecimal digits. -/
def hexByte (n : Nat) : String :=
  if n < 16 then "0" ++ hexDigits n else hexDigits n

/-- The written form of one character between double quotes. -/
def escape (c : Char) : String :=
  if c = '"' then "\\\""
  else if c = '\\' then "\\\\"
  else if c = '\t' then "\\t"
  else if c = '\r' then "\\r"
  else if c = '\n' then "\\n"
  else if c.toNat = 0 then "\\0"
  else if isShown c then c.toString
  else "\\u\x7b" ++ hexDigits c.toNat ++ "\x7d"

def quoted (s : String) : String :=
  "\"" ++ String.join (s.toList.map escape) ++ "\""

end TxnLiveness.Text
