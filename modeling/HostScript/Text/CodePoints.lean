/-!
# Sets of code points

A set of code points is given by its edges: the code points at which membership changes, in
increasing order, the first edge being the first member.
-/

namespace HostScript.Text

/-- Whether a code point belongs to the set with the given edges. -/
def isInside (code : Nat) : List Nat → Bool
  | [] => false
  | edge :: rest => if code < edge then false else !isInside code rest

end HostScript.Text
