/-!
# Base addresses

The address that the paths of a service are put behind. Slashes at its end do not count, since one
is put between it and a path.
-/

namespace PickupGame.Url

/-- A text without the slashes at its end. -/
def withoutSlashes (cs : List Char) : List Char :=
  (cs.reverse.dropWhile (· = '/')).reverse

def trimSlashes (base : String) : String :=
  String.ofList (withoutSlashes base.toList)

def below (base path : String) : String :=
  base ++ "/" ++ path

end PickupGame.Url
