/-!
# Panics

What an application brings along, such as the hooks of its logic or a writer of its own, may
panic instead of returning.  A handler contains the panics of what it calls to process a request,
but not those of its writer.
-/

namespace Endpoint

/-- A panic, with the text it carries if there is one.  Whatever it carries is taken to be dropped
    without another panic. -/
structure Panic where
  text : Option String
  deriving DecidableEq, Repr

/-- What is said of a panic. -/
def Panic.message (p : Panic) : String := p.text.getD "unknown panic"

end Endpoint
