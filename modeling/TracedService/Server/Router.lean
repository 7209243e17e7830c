import TracedService.Server.Methods
import TracedService.Server.Pattern

/-! Routers: paths with what they offer, and what serves all other requests. A layer covers what is
there when it is added, and nothing that comes later. -/

namespace TracedService.Server

structure Route where
  path : String
  pattern : Pattern
  methods : Methods

structure Router where
  routes : List Route := []
  fallback : Endpoint := ⟨Handler.notFound, []⟩

namespace Router

/-- Offers something under a path, beside what that very path offers already. -/
def offer (router : Router) (path : String) (m : Methods) : Except RouterFault Router := do
  let some pattern := Pattern.read? path | throw (.badPattern path)
  if router.routes.any (·.path == path) then
    let routes ← router.routes.mapM fun route =>
      if route.path = path then do return { route with methods := ← route.methods.merge path m }
      else pure route
    return { router with routes := routes }
  else if router.routes.any (·.pattern.conflicts pattern) then throw (.conflict path)
  else return { router with routes := router.routes ++ [⟨path, pattern, m⟩] }

def joined (place path : String) : String :=
  if place.endsWith "/" then place ++ String.ofList (path.toList.dropWhile (· == '/'))
  else if path = "/" then place
  else place ++ path

/-- A place is a path other than the root, without a remainder. -/
def isPlace (place : String) : Bool :=
  let s := place.toList
  s.head? = some '/' && 1 < s.length && !Pattern.hasForeignMark s &&
    !(Text.splitOn '/' s).any fun p =>
      Text.startsWith ['\x7b', '*'] p && Text.startsWith ['\x7d'] p.reverse &&
        !Text.startsWith ['\x7d', '\x7d'] p.reverse

/-- Offers the routes of another router below a place. A router with a fallback of its own is not
meant here: what the inner one does not know is left to the outer one. -/
def nest (router : Router) (place : String) (inner : Router) : Except RouterFault Router :=
  if isPlace place then
    inner.routes.foldlM (fun r route =>
      r.offer (joined place route.path) (route.methods.addLayer (.below place.toList))) router
  else .error (.badPlace place)

def withFallback (router : Router) (h : Handler) : Router :=
  { router with fallback := ⟨h, []⟩ }

def addLayer (router : Router) (l : Layer) : Router where
  routes := router.routes.map fun route => { route with methods := route.methods.addLayer l }
  fallback := router.fallback.addLayer l

def addLayers (router : Router) (ls : List Layer) : Router :=
  ls.foldl addLayer router

def instrument (router : Router) : Router :=
  router.addLayers Layer.full

/-- The route that a path is served by. -/
def route? (router : Router) (path : List Char) : Option Route :=
  (router.routes.filter fun route => route.pattern.fits path).foldl (fun best route =>
    match best with
    | some b => some (if route.pattern.precedes b.pattern then route else b)
    | none => some route) none

/-- The answer to a head has no body, nor has a successful answer that opens a tunnel. -/
def trimmed (method : String) (response : Http.Response) : Http.Response :=
  if method = "HEAD" || (method = "CONNECT" && Http.Status.isSuccess response.status) then
    { response with body := [] }
  else response

def service (t : Tracing) (router : Router) : Service := fun i r =>
  let (response, r) := match router.route? i.request.uri.path with
    | some route => route.methods.service t { i with route := some route.path } r
    | none => router.fallback.service t i r
  (trimmed i.request.method response, r)

def serve (t : Tracing) (router : Router) (request : Http.Request) (current : Context)
    (r : Recorder) : Http.Response × Recorder :=
  router.service t ⟨request, none, current, none⟩ r

end Router

end TracedService.Server
