/-
# Selection contexts

Attributes a caller attaches to a selection, in the order in which they were
attached. They are for whoever watches a selection; what is selected does not
depend on them.
-/

namespace HostRotation

structure SelectionContext where
  attributes : List (String × String) := []
deriving DecidableEq

/-- Attaches an attribute. The same key may be attached more than once. -/
def SelectionContext.attach (c : SelectionContext) (key value : String) : SelectionContext :=
  { c with attributes := c.attributes ++ [(key, value)] }

end HostRotation
