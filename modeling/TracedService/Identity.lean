/-! Who the running service is. -/

namespace TracedService

structure Identity where
  name : String := ""
  environment : String := ""
  module : String := ""
  deriving DecidableEq, Repr, Inhabited

namespace Identity

def attributes (i : Identity) : List (String × String) :=
  [("service.name", i.name), ("environment", i.environment), ("module", i.module)]

end Identity

end TracedService
