/-!
# Sets of characters

A set of code points is given by the ascending points at which membership changes: the first member,
the first non-member after it, the next member and so on.
-/

namespace PickupGame.Text

/-- Whether `n` lies in the set with the given points of change, `inside` being what holds before
the first of them. -/
def within (inside : Bool) (n : Nat) : List Nat → Bool
  | [] => inside
  | b :: bs => if n < b then inside else within (!inside) n bs

/-- Membership of a character in the set with the given points of change. -/
def inCodeSet (points : List Nat) (c : Char) : Bool :=
  within false c.toNat points

end PickupGame.Text
