/-!
Letter case of ASCII. Other characters have one case here.
-/

namespace DataAccess

namespace Text

def lowerChar (c : Char) : Char :=
  if 'A' ≤ c ∧ c ≤ 'Z' then Char.ofNat (c.toNat + 32) else c

def upperChar (c : Char) : Char :=
  if 'a' ≤ c ∧ c ≤ 'z' then Char.ofNat (c.toNat - 32) else c

def lower (s : String) : String := String.ofList (s.toList.map lowerChar)

def upper (s : String) : String := String.ofList (s.toList.map upperChar)

def equalIgnoringCase (a b : String) : Bool := lower a == lower b

end Text

end DataAccess
