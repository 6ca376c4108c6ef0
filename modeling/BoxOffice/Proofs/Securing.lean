import BoxOffice.Proofs.Requests
import BoxOffice.Proofs.Runs

/-!
The layers around the routes. Each header that keeps browsers from misusing a response is seen to by
a layer of its own, and the outermost layer is the one that lets other origins read responses. That
layer answers preflights itself and does not hand them on, so the headers of the layers below are on
every response but those to preflights. `Site.serve` adds all headers at once and comes to the same.
-/

namespace BoxOffice

namespace Http

abbrev Service := Desk → Request → Response × Desk

def valuesOf (headers : List (String × String)) (name : String) : List String :=
  (headers.filter (·.1 = name)).map (·.2)

namespace Service

def routes : Service := fun d r =>
  let (response, d) := (Plan.ofRequest r).run d
  (if r.method = "HEAD" then response.withoutBody else response, d)

/-- A layer that sees to one header: where it is missing it is added. -/
def ensuring (service : Service) (header : String × String) : Service := fun d r =>
  let (response, d) := service d r
  (if valuesOf response.headers header.1 = [] then response.withHeaders [header] else response, d)

/-- The layer that lets other origins read responses. It answers preflights itself. -/
def sharing (service : Service) (site : Site) : Service := fun d r =>
  if r.method = "OPTIONS" then (site.preflight r, d)
  else
    let (response, d) := service d r
    (response.withHeaders (site.sharedHeaders r), d)

end Service

/-- The routes of a site with all layers around them, the innermost first. -/
def Site.layered (site : Site) : Service :=
  Service.sharing ((securityHeaders site.production).foldl Service.ensuring Service.routes) site

def ownNames : List String := ["content-type", "allow"]

def securityNames : List String := (Site.securityHeaders true).map (·.1)

def otherNames : List String :=
  ["content-type", "allow", "vary", "access-control-allow-origin", "access-control-allow-methods",
    "access-control-allow-headers", "access-control-expose-headers", "access-control-max-age"]

/-- The headers describe a body or list methods. -/
structure Own (headers : List (String × String)) : Prop where
  names : headers.map (·.1) ⊆ ownNames

structure Plain (headers : List (String × String)) : Prop where
  names : headers.map (·.1) ⊆ otherNames

/-- The response has the headers that keep browsers from misusing it, each with one value. -/
structure Response.Secured (response : Response) (production : Bool) : Prop where
  contentType : valuesOf response.headers "x-content-type-options" = ["nosniff"]
  frame : valuesOf response.headers "x-frame-options" = ["DENY"]
  contents : valuesOf response.headers "content-security-policy" =
    ["default-src 'none'; frame-ancestors 'none'"]
  referrer : valuesOf response.headers "referrer-policy" = ["strict-origin-when-cross-origin"]
  transport : valuesOf response.headers "strict-transport-security" =
    if production then ["max-age=31536000; includeSubDomains"] else []

variable {headers : List (String × String)} {name : String} {d : Desk} {r : Request}

/-! ### Headers -/

theorem valuesOf_append (headers headers' : List (String × String)) (name : String) :
    valuesOf (headers ++ headers') name = valuesOf headers name ++ valuesOf headers' name := by
  simp [valuesOf]

theorem valuesOf_eq_nil (absent : name ∉ headers.map (·.1)) : valuesOf headers name = [] := by
  have none : headers.filter (·.1 = name) = [] := List.filter_eq_nil_iff.2 fun header member same =>
    absent (List.mem_map.2 ⟨header, member, by simpa using same⟩)
  rw [valuesOf, none, List.map_nil]

theorem names_append_subset {names : List String} {headers' : List (String × String)}
    (first : headers.map (·.1) ⊆ names) (second : headers'.map (·.1) ⊆ names) :
    (headers ++ headers').map (·.1) ⊆ names := by
  rw [List.map_append]
  exact List.append_subset.2 ⟨first, second⟩

theorem Plain.append {headers' : List (String × String)} (plain : Plain headers)
    (plain' : Plain headers') : Plain (headers ++ headers') :=
  ⟨names_append_subset plain.names plain'.names⟩

theorem Plain.valuesOf_eq_nil (plain : Plain headers) (security : name ∈ securityNames) :
    valuesOf headers name = [] := by
  have apart : ∀ name ∈ securityNames, name ∉ otherNames := by decide
  exact Http.valuesOf_eq_nil fun member => apart name security (plain.names member)

theorem Own.append {headers' : List (String × String)} (own : Own headers) (own' : Own headers') :
    Own (headers ++ headers') := ⟨names_append_subset own.names own'.names⟩

theorem Own.valuesOf_eq_nil (own : Own headers) (other : name ∉ ownNames) :
    valuesOf headers name = [] := Http.valuesOf_eq_nil fun member => other (own.names member)

theorem Own.plain (own : Own headers) : Plain headers :=
  ⟨List.Subset.trans own.names (by decide : ownNames ⊆ otherNames)⟩

theorem own_ofBody (status : Nat) (body : Body) : Own (Response.ofBody status body).headers := by
  cases body with
  | empty => exact ⟨List.nil_subset _⟩
  | json v => exact ⟨(by decide : ["content-type"] ⊆ ownNames)⟩
  | text s => exact ⟨(by decide : ["content-type"] ⊆ ownNames)⟩

theorem own_allow (route : Route) : Own [route.allow] := ⟨(by decide : ["allow"] ⊆ ownNames)⟩

theorem Response.Prompt.own {response : Response} (prompt : response.Prompt) :
    Own response.headers := by
  cases prompt with
  | ofBody => exact own_ofBody ..
  | otherMethod route => exact (own_ofBody 405 .empty).append (own_allow route)

/-- To carry a plan out adds no headers but these. -/
theorem Plan.own_run (r : Request) (d : Desk) : Own ((ofRequest r).run d).1.headers := by
  cases plan : ofRequest r with
  | reply response => exact (prompt_ofRequest r response plan).own
  | ask op status message data =>
    rw [run]
    rcases op.run d with ⟨refusal | answer, left⟩
    · exact own_ofBody ..
    · exact own_ofBody ..

theorem plain_grant (origins : Origins) (origin : Option String) :
    Plain (origins.grant origin) := by
  have granted : ["access-control-allow-origin"] ⊆ otherNames := by decide
  unfold Origins.grant
  split
  · exact ⟨granted⟩
  · split
    · exact ⟨granted⟩
    · exact ⟨List.nil_subset _⟩
  · exact ⟨List.nil_subset _⟩

namespace Site

theorem plain_sharedHeaders (site : Site) (r : Request) : Plain (site.sharedHeaders r) :=
  (plain_grant ..).append ⟨(by decide : ["vary", "access-control-expose-headers"] ⊆ otherNames)⟩

theorem plain_preflight (site : Site) (r : Request) : Plain (site.preflight r).headers := by
  have shared : Plain [vary, ("access-control-allow-methods", "GET,POST,PATCH,DELETE,OPTIONS"),
      ("access-control-allow-headers", "content-type,authorization,accept,x-request-id"),
      ("access-control-max-age", "86400")] := ⟨by decide⟩
  have granted := (plain_grant site.origins (r.header? "origin")).append shared
  refine (own_ofBody 200 .empty).plain.append (granted.append ?_)
  split
  · exact (own_allow _).plain
  · exact ⟨List.nil_subset _⟩

end Site

/-! ### Layers -/

namespace Service

variable {service : Service}

theorem ensuring_of_missing {header : String × String}
    (missing : valuesOf (service d r).1.headers header.1 = []) :
    service.ensuring header d r = ((service d r).1.withHeaders [header], (service d r).2) := by
  rw [ensuring]
  simp only [if_pos missing]

/-- Layers for different headers, none of which is there, add them one after the other. -/
theorem foldl_ensuring {headers : List (String × String)} (distinct : (headers.map (·.1)).Nodup)
    (missing : ∀ header ∈ headers, valuesOf (service d r).1.headers header.1 = []) :
    headers.foldl ensuring service d r =
      ((service d r).1.withHeaders headers, (service d r).2) := by
  induction headers generalizing service with
  | nil => simp [Response.withHeaders]
  | cons header headers ih =>
    rw [List.map_cons, List.nodup_cons] at distinct
    have first := ensuring_of_missing (missing header List.mem_cons_self)
    -- What the innermost layer has added is none of the headers of the others.
    have missingStill : ∀ other ∈ headers,
        valuesOf (service.ensuring header d r).1.headers other.1 = [] := by
      intro other member
      have before := missing other (List.mem_cons_of_mem _ member)
      have apart : other.1 ∉ [header].map (·.1) := fun same => by
        have sameName : other.1 = header.1 := List.mem_singleton.1 same
        exact distinct.1 (sameName ▸ List.mem_map_of_mem member)
      rw [first, Response.withHeaders, valuesOf_append, before, valuesOf_eq_nil apart]
      rfl
    rw [List.foldl_cons, ih distinct.2 missingStill, first]
    simp [Response.withHeaders]

theorem own_routes (d : Desk) (r : Request) : Own (routes d r).1.headers := by
  have own := Plan.own_run r d
  rw [routes]
  by_cases head : r.method = "HEAD"
  · simp only [if_pos head]
    exact own
  · simp only [if_neg head]
    exact own

theorem plain_routes (d : Desk) (r : Request) : Plain (routes d r).1.headers :=
  (own_routes d r).plain

end Service

namespace Site

theorem names_securityHeaders_subset (production : Bool) :
    (securityHeaders production).map (·.1) ⊆ securityNames := by
  cases production <;> decide

theorem nodup_securityHeaders (production : Bool) :
    ((securityHeaders production).map (·.1)).Nodup := by
  cases production <;> decide

theorem layered_of_preflight (site : Site) (d : Desk) (preflight : r.method = "OPTIONS") :
    site.layered d r = (site.preflight r, d) := if_pos preflight

/-- What the routes respond goes out through all layers, and each of them adds its own. -/
theorem layered_of_not_preflight (site : Site) (d : Desk) (notPreflight : r.method ≠ "OPTIONS") :
    site.layered d r =
      ((Service.routes d r).1.withHeaders (site.addedHeaders r), (Service.routes d r).2) := by
  have plain := Service.plain_routes d r
  have missing : ∀ header ∈ securityHeaders site.production,
      valuesOf (Service.routes d r).1.headers header.1 = [] := fun header member =>
    plain.valuesOf_eq_nil
      (names_securityHeaders_subset site.production (List.mem_map_of_mem member))
  have added := Service.foldl_ensuring (nodup_securityHeaders site.production) missing
  rw [layered, Service.sharing, if_neg notPreflight]
  simp only [added, addedHeaders, Response.withHeaders, List.append_assoc]

theorem serve_eq_layered (site : Site) : site.serve = site.layered := by
  funext d r
  rw [serve]
  by_cases preflight : r.method = "OPTIONS"
  · rw [if_pos preflight, site.layered_of_preflight d preflight]
  · rw [if_neg preflight, site.layered_of_not_preflight d preflight]
    rfl

/-- A response to which the security headers were added, and none of their names before or after, is
secured. -/
theorem secured_of_plain {before after : List (String × String)} {response : Response}
    {production : Bool} (plain : Plain before) (plain' : Plain after)
    (headers_eq : response.headers = before ++ (securityHeaders production ++ after)) :
    response.Secured production := by
  have values {name : String} (security : name ∈ securityNames) :
      valuesOf response.headers name = valuesOf (securityHeaders production) name := by
    rw [headers_eq, valuesOf_append, valuesOf_append, plain.valuesOf_eq_nil security,
      plain'.valuesOf_eq_nil security, List.nil_append, List.append_nil]
  constructor
  case contentType => rw [values (by decide)]; cases production <;> decide
  case frame => rw [values (by decide)]; cases production <;> decide
  case contents => rw [values (by decide)]; cases production <;> decide
  case referrer => rw [values (by decide)]; cases production <;> decide
  case transport => rw [values (by decide)]; cases production <;> decide

/-- To serve is to go through the layers. So every response of a site but those to preflights is
secured, whatever is asked for and whatever comes of it, and only in production clients are told to
use encrypted connections. A preflight is answered by the outermost layer alone, and that response
has none of the security headers. -/
theorem secured_unless_preflight {production : Bool} {allowedOrigins : Option String} {site : Site}
    (built : build? production allowedOrigins = some site) (d : Desk) (r : Request) :
    site.serve d r = site.layered d r ∧
      (r.method ≠ "OPTIONS" → (site.serve d r).1.Secured production) ∧
      (r.method = "OPTIONS" →
        ∀ name ∈ securityNames, valuesOf (site.serve d r).1.headers name = []) := by
  obtain ⟨origins, -, rfl⟩ := Option.map_eq_some_iff.1 built
  rw [serve_eq_layered]
  refine ⟨rfl, fun notPreflight => ?_, fun preflight name security => ?_⟩
  · have shared := plain_sharedHeaders ⟨production, origins⟩ r
    refine secured_of_plain (Service.plain_routes d r) shared ?_
    rw [layered_of_not_preflight _ d notPreflight]
    rfl
  · rw [layered_of_preflight _ d preflight]
    exact (plain_preflight _ r).valuesOf_eq_nil security

end Site

end Http

namespace Concert

/-- A client asks for what is not there. -/
def astray : Http.Request where
  method := "GET"
  target := "/tickets"
  headers := []
  body := []

/-- A browser asks what another origin may do. -/
def preflight : Http.Request where
  method := "OPTIONS"
  target := "/health"
  headers := [("origin", "http://localhost:3000"), ("access-control-request-method", "GET")]
  body := []

end Concert

namespace Http.Site

/-- A site for local development that is in production. Also the response that nothing was found
is secured. -/
theorem secured_unless_preflight_concert :
    ∃ site, build? true none = some site ∧ Concert.astray.method ≠ "OPTIONS" ∧
      (site.serve Concert.opened Concert.astray).1.status = 404 ∧
      (site.serve Concert.opened Concert.astray).1.Secured true := by
  obtain ⟨site, built⟩ : ∃ site, build? true none = some site := ⟨_, rfl⟩
  obtain ⟨-, secured, -⟩ := secured_unless_preflight built Concert.opened Concert.astray
  exact ⟨site, built, by decide, rfl, secured (by decide)⟩

theorem preflight_not_secured :
    ∃ site, build? true none = some site ∧
      ¬(site.serve Concert.opened Concert.preflight).1.Secured true := by
  obtain ⟨site, built⟩ : ∃ site, build? true none = some site := ⟨_, rfl⟩
  refine ⟨site, built, fun secured => ?_⟩
  have none : valuesOf (site.serve Concert.opened Concert.preflight).1.headers "x-frame-options" =
      [] := (site.plain_preflight Concert.preflight).valuesOf_eq_nil (by decide)
  rw [secured.frame] at none
  cases none

end Http.Site

end BoxOffice
