/-!
# References to user code

Controllers, filters, callbacks and setters are code that the user of a host
supplies.  The host never looks inside.  It holds references, runs what they
stand for at the right moment, and tells two pieces of code apart by their
references alone.
-/

set_option autoImplicit false

namespace StreamControl

/-- Stands for a piece of user code; equal references are the same piece. -/
abbrev CodeRef := Nat

end StreamControl
