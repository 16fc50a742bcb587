import TxnLiveness.Text.Quoted
/-!
# Routing keys

A routing key is a string of bytes, ordered lexicographically. It addresses the shards that own a
part of a transaction.
-/

namespace TxnLiveness

/-- A key that addresses the shards owning part of a transaction. -/
structure Key where
  bytes : List UInt8
deriving DecidableEq

namespace Key

instance : Ord Key := ⟨compareOn bytes⟩

instance : Std.TransOrd Key :=
  inferInstanceAs (Std.TransCmp (compareOn bytes))

instance : Std.LawfulEqOrd Key where
  eq_of_compare {a b} h := by
    have h : a.bytes = b.bytes := Std.LawfulEqOrd.eq_of_compare h
    cases a
    cases b
    simp_all

instance : LT Key := ltOfOrd

instance : LE Key := leOfOrd

instance : Max Key := maxOfLe

instance : Std.IsLinearOrder Key := Std.IsLinearOrder.of_ord

instance : Inhabited Key := ⟨⟨[]⟩⟩

/-- The key whose bytes are the UTF-8 form of `s`. -/
def ofString (s : String) : Key := ⟨s.toUTF8.toList⟩

/-- The key as people read it: quoted where its bytes are UTF-8, otherwise byte by byte. -/
def describe (k : Key) : String :=
  match String.fromUTF8? ⟨k.bytes.toArray⟩ with
  | some s => Text.quoted s
  | none => "[" ++ ", ".intercalate (k.bytes.map (fun b => Text.hexByte b.toNat)) ++ "]"

end Key

end TxnLiveness
