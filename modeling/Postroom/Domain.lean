/-!
Domain names. A name keeps the case it was given in; matching ignores it, equality and order do
not.
-/

namespace Postroom

structure Domain where
  text : String
  deriving DecidableEq

namespace Domain

instance : Ord Domain := ⟨compareOn Domain.text⟩

instance : Std.TransOrd Domain := inferInstanceAs (Std.TransCmp (compareOn Domain.text))

instance : Std.LawfulEqOrd Domain where
  eq_of_compare {a b} h := by
    have := Std.LawfulEqOrd.eq_of_compare (α := String) h
    cases a; cases b; simp_all

instance : ToString Domain := ⟨Domain.text⟩

/-- Equality up to the case of ASCII letters. -/
def sameName (a b : String) : Bool :=
  a.toLower == b.toLower

def matchesName (d : Domain) (other : String) : Bool :=
  sameName d.text other

def isAnyOf (d : Domain) (domains : List Domain) : Bool :=
  domains.any fun other => d.matchesName other.text

end Domain

end Postroom
