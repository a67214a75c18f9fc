/-
  ApigeeEnvoy.Config.SpecExt — `NewEnvironmentSpecExt`: an environment spec extended with its
  path trees, its compiled templates and its CORS tables, built once before serving.

  The loops of the Go function are the recursive functions below, in the same order and
  with the same early returns; `Except Exit` carries the `nil, err` return and the panic of
  `regexp.MustCompile`. What the function calls outside this file is a parameter (`Deps`):
  `transform.Parse`, `regexp.Compile` behind `MustCompile`, and the package's `anyMethod`
  token. golib's `path.Tree` is known by the `AddChild` calls made on it, in order.

  `Config.Actions` flattens the nested loops into one list of actions and proves that this
  function runs that list (`newEnvironmentSpecExt_eq_run`); the properties are proved there.
-/

import ApigeeEnvoy.Config.Spec

namespace ApigeeEnvoy.Config

/-- `const wildcard = "*"`. -/
def wildcard : String := "*"

/-- How `NewEnvironmentSpecExt` ends without an extension: it returns `nil, err`, or
    `regexp.MustCompile` panics on the pattern `regexp` that does not compile. -/
inductive Exit where
  | err (err : String)
  | panic (regexp err : String)
  deriving DecidableEq, Repr

structure Deps (Template Regexp : Type) where
  parse : String → Except String Template
  compile : String → Except String Regexp
  anyMethod : String

structure OpTemplateMatch (Template : Type) where
  operation : APIOperation
  template : Option Template

structure EnvironmentSpecExt (Template Regexp : Type) where
  environmentSpec : EnvironmentSpec
  /-- golib's `path.Tree` of base path → API, as the `AddChild` calls made on it, in order;
      how the tree stores them (one value per key, `{param}` segments as one wildcard node)
      is golib's code, not these sources' -/
  apiPathTree : List (List String × APISpec)
  /-- the `path.Tree` of API ID → method → sub path → operation and template, likewise as its
      `AddChild` calls -/
  opPathTree : List (List String × OpTemplateMatch Template)
  compiledTemplates : GoMap Template
  corsVary : GoMap Bool
  /-- API ID → statically allowed origin → true -/
  corsAllowedOrigins : GoMap (GoMap Bool)
  compiledRegExps : GoMap Regexp

@[simp] theorem ok_bind {ε α β : Type} (a : α) (f : α → Except ε β) : (Except.ok a >>= f) = f a := rfl

@[simp] theorem error_bind {ε α β : Type} (x : ε) (f : α → Except ε β) :
    (Except.error x >>= f) = Except.error x := rfl

section Model

variable {Template Regexp : Type}

def EnvironmentSpecExt.init (spec : EnvironmentSpec) : EnvironmentSpecExt Template Regexp :=
  ⟨spec, [], [], ∅, ∅, ∅, ∅⟩

/-- `JWTAuthentications`: every API's JWT leaves, each followed by its operations'. -/
def jwtAuthentications (spec : EnvironmentSpec) : List JWTAuthentication :=
  spec.apis.flatMap fun api => api.jwtAuthentications ++ api.operations.flatMap (·.jwtAuthentications)

def EnvironmentSpecExt.jwtAuthentications (e : EnvironmentSpecExt Template Regexp) :
    List JWTAuthentication :=
  Config.jwtAuthentications e.environmentSpec

def EnvironmentSpecExt.getTemplate (e : EnvironmentSpecExt Template Regexp) (s : String) :
    Option Template :=
  e.compiledTemplates.lookup s

variable (d : Deps Template Regexp)

/-- `parseTemplate`: parses and caches; `""` is no template. A parse error ends the whole
    construction, so the cache write that Go makes before returning it is not kept. -/
def parseTemplate (e : EnvironmentSpecExt Template Regexp) (s : String) :
    Except Exit (EnvironmentSpecExt Template Regexp × Option Template) :=
  if s = "" then .ok (e, none)
  else match d.parse s with
    | .ok t => .ok ({ e with compiledTemplates := e.compiledTemplates.insert s t }, some t)
    | .error err => .error (.err err)

def parseAPIOperationParameter (e : EnvironmentSpecExt Template Regexp) (s : StringTransformation) :
    Except Exit (EnvironmentSpecExt Template Regexp) :=
  if s.template = "" ∧ s.substitution = "" then .ok e
  else do
    let (e, _) ← parseTemplate d e s.template
    let (e, _) ← parseTemplate d e s.substitution
    pure e

/-- `for _, in := range ins { err := ec.parseAPIOperationParameter(in.Transformation) ... }` -/
def parseParameters (e : EnvironmentSpecExt Template Regexp) :
    List APIOperationParameter → Except Exit (EnvironmentSpecExt Template Regexp)
  | [] => .ok e
  | p :: ps => do
    let e ← parseAPIOperationParameter d e p.transformation
    parseParameters e ps

/-- `for _, a := range t.Add { _, err := ec.parseTemplate(a.Value) ... }` -/
def parseValues (e : EnvironmentSpecExt Template Regexp) :
    List AddNameValue → Except Exit (EnvironmentSpecExt Template Regexp)
  | [] => .ok e
  | a :: as => do
    let (e, _) ← parseTemplate d e a.value
    parseValues e as

/-- The closure `parseHTTPRequestTransforms`. -/
def parseHTTPRequestTransforms (e : EnvironmentSpecExt Template Regexp) (t : HTTPRequestTransforms) :
    Except Exit (EnvironmentSpecExt Template Regexp) := do
  let (e, _) ← parseTemplate d e t.pathTransform
  let e ← parseValues d e t.headerTransforms.add
  parseValues d e t.queryTransforms.add

/-- The loop over `op.HTTPMatches`: `[api.ID, method, segments...]` → the operation and its
    parsed path template, `anyMethod` standing as `*`. -/
def addHTTPMatches (e : EnvironmentSpecExt Template Regexp) (api : APISpec) (op : APIOperation) :
    List HTTPMatch → Except Exit (EnvironmentSpecExt Template Regexp)
  | [] => .ok e
  | m :: ms => do
    let method := if m.method = d.anyMethod then wildcard else m.method
    let split := api.id :: method :: m.pathTemplate.splitOn "/"
    let (e, t) ← parseTemplate d e m.pathTemplate
    addHTTPMatches { e with opPathTree := e.opPathTree ++ [(split, ⟨op, t⟩)] } api op ms

/-- One operation: no match at all is the wildcard `[api.ID, *, *]`. -/
def addOperation (e : EnvironmentSpecExt Template Regexp) (api : APISpec) (op : APIOperation) :
    Except Exit (EnvironmentSpecExt Template Regexp) := do
  let e ← if op.httpMatches.isEmpty then
      pure { e with opPathTree := e.opPathTree ++ [([api.id, wildcard, wildcard], ⟨op, none⟩)] }
    else addHTTPMatches d e api op op.httpMatches
  let e ← parseParameters d e op.consumerAuthorization.in
  parseHTTPRequestTransforms d e op.httpRequestTransforms

def addOperations (e : EnvironmentSpecExt Template Regexp) (api : APISpec) :
    List APIOperation → Except Exit (EnvironmentSpecExt Template Regexp)
  | [] => .ok e
  | op :: ops => do
    let e ← addOperation d e api op
    addOperations e api ops

/-- `regexp.MustCompile`. -/
def mustCompile (r : String) : Except Exit Regexp :=
  match d.compile r with
  | .ok re => .ok re
  | .error err => .error (.panic r err)

/-- `for _, r := range api.Cors.AllowOriginsRegexes { ec.compiledRegExps[r] = regexp.MustCompile(r) }` -/
def compileRegExps (e : EnvironmentSpecExt Template Regexp) :
    List String → Except Exit (EnvironmentSpecExt Template Regexp)
  | [] => .ok e
  | r :: rs => do
    let re ← mustCompile d r
    compileRegExps { e with compiledRegExps := e.compiledRegExps.insert r re } rs

/-- The loop over `Cors.AllowOrigins`: the static origin set, and `mustVary` once `*` is seen. -/
def allowOrigins : List String → GoMap Bool → Bool → GoMap Bool × Bool
  | [], m, v => (m, v)
  | o :: os, m, v => allowOrigins os (m.insert o true) (if o = wildcard then true else v)

/-- The body of the loop over `spec.APIs`. -/
def addAPI (e : EnvironmentSpecExt Template Regexp) (api : APISpec) :
    Except Exit (EnvironmentSpecExt Template Regexp) := do
  let e := { e with apiPathTree := e.apiPathTree ++ [("/" :: api.basePath.splitOn "/", api)] }
  let (allowedOrigins, mustVary) := allowOrigins api.cors.allowOrigins ∅ false
  let e := { e with corsAllowedOrigins := e.corsAllowedOrigins.insert api.id allowedOrigins }
  let e ← compileRegExps d e api.cors.allowOriginsRegexes
  let e := { e with corsVary := e.corsVary.insert api.id (mustVary ||
    decide (0 < api.cors.allowOriginsRegexes.length) || decide (1 < api.cors.allowOrigins.length)) }
  let e ← parseParameters d e api.consumerAuthorization.in
  let e ← parseHTTPRequestTransforms d e api.httpRequestTransforms
  addOperations d e api api.operations

def addAPIs (e : EnvironmentSpecExt Template Regexp) :
    List APISpec → Except Exit (EnvironmentSpecExt Template Regexp)
  | [] => .ok e
  | api :: apis => do
    let e ← addAPI d e api
    addAPIs e apis

/-- `for _, j := range ec.JWTAuthentications() { for _, in := range j.In { ... } }` -/
def parseJWTAuthentications (e : EnvironmentSpecExt Template Regexp) :
    List JWTAuthentication → Except Exit (EnvironmentSpecExt Template Regexp)
  | [] => .ok e
  | j :: js => do
    let e ← parseParameters d e j.in
    parseJWTAuthentications e js

def newEnvironmentSpecExt (spec : EnvironmentSpec) : Except Exit (EnvironmentSpecExt Template Regexp) := do
  let ec ← addAPIs d (.init spec) spec.apis
  parseJWTAuthentications d ec ec.jwtAuthentications

end Model

end ApigeeEnvoy.Config
