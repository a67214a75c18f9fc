/-
  ApigeeEnvoy.Config.Actions — `NewEnvironmentSpecExt` as one flat list of actions.

  An action is one write the construction makes (a path added to a tree, an origin set or a
  vary flag stored, a pattern compiled, a template parsed). Only compiling and parsing can
  fail, and whether they fail depends on the action alone (`Action.exit`), never on the
  extension built so far. `run` performs a list of actions with Go's early return.

  Proved:
  - `run_eq`: running a list fails as its first failing action does, and otherwise applies
    every action's update in order: check, then build.
  - `newEnvironmentSpecExt_eq_run`: the nested loops of `NewEnvironmentSpecExt` run
    `specActions`: per API its path, its origin set, its patterns, its vary flag, its
    consumer parameters, its transforms and its operations; then the parameters of every
    JWT authentication.
  - `newEnvironmentSpecExt_eq`: so it fails with the first failing action of `specActions`
    and otherwise returns the updates folded over the empty extension.
-/

import ApigeeEnvoy.Config.SpecExt

namespace ApigeeEnvoy.Config

inductive Action (Template : Type) where
  | addAPIPath (key : List String) (api : APISpec)
  | setAllowedOrigins (id : String) (origins : GoMap Bool)
  | compileRegExp (r : String)
  | setVary (id : String) (vary : Bool)
  | parseTemplate (s : String)
  | addOpPath (key : List String) (m : OpTemplateMatch Template)

section Run

variable {Template Regexp : Type} (d : Deps Template Regexp)

/-- What `parseTemplate` returns for `s` when it does not fail. -/
def templateOf (s : String) : Option Template :=
  if s = "" then none else (d.parse s).toOption

def Action.exit : Action Template → Option Exit
  | .compileRegExp r => match d.compile r with
    | .ok _ => none
    | .error err => some (.panic r err)
  | .parseTemplate s => if s = "" then none else match d.parse s with
    | .ok _ => none
    | .error err => some (.err err)
  | _ => none

def Action.update (e : EnvironmentSpecExt Template Regexp) :
    Action Template → EnvironmentSpecExt Template Regexp
  | .addAPIPath k api => { e with apiPathTree := e.apiPathTree ++ [(k, api)] }
  | .setAllowedOrigins id m => { e with corsAllowedOrigins := e.corsAllowedOrigins.insert id m }
  | .compileRegExp r =>
    { e with compiledRegExps := memo (fun r => (d.compile r).toOption) e.compiledRegExps r }
  | .setVary id b => { e with corsVary := e.corsVary.insert id b }
  | .parseTemplate s => { e with compiledTemplates := memo (templateOf d) e.compiledTemplates s }
  | .addOpPath k m => { e with opPathTree := e.opPathTree ++ [(k, m)] }

def run (e : EnvironmentSpecExt Template Regexp) :
    List (Action Template) → Except Exit (EnvironmentSpecExt Template Regexp)
  | [] => .ok e
  | a :: as => match a.exit d with
    | some x => .error x
    | none => run (a.update d e) as

def firstExit : List (Action Template) → Option Exit
  | [] => none
  | a :: as => match a.exit d with
    | some x => some x
    | none => firstExit as

theorem run_eq (e : EnvironmentSpecExt Template Regexp) (as : List (Action Template)) :
    run d e as = match firstExit d as with
      | some x => .error x
      | none => .ok (as.foldl (Action.update d) e) := by
  induction as generalizing e with
  | nil => rfl
  | cons a as ih => cases h : a.exit d <;> simp [run, firstExit, h, ih]

theorem run_append (e : EnvironmentSpecExt Template Regexp) (as bs : List (Action Template)) :
    run d e (as ++ bs) = run d e as >>= fun e' => run d e' bs := by
  induction as generalizing e with
  | nil => rfl
  | cons a as ih => cases h : a.exit d <;> simp [run, h, ih]

theorem run_of_exit_none (e : EnvironmentSpecExt Template Regexp) {a : Action Template}
    (h : a.exit d = none) (as : List (Action Template)) : run d e (a :: as) = run d (a.update d e) as := by
  simp [run, h]

theorem run_cons (e : EnvironmentSpecExt Template Regexp) (a : Action Template) (as : List (Action Template)) :
    run d e (a :: as) = run d e [a] >>= fun e' => run d e' as :=
  run_append d e [a] as

end Run

/-! ## The loops of `NewEnvironmentSpecExt` as actions -/

section Refinement

variable {Template Regexp : Type} (d : Deps Template Regexp)

def paramActions (p : APIOperationParameter) : List (Action Template) :=
  [.parseTemplate p.transformation.template, .parseTemplate p.transformation.substitution]

def valueActions (adds : List AddNameValue) : List (Action Template) :=
  adds.map (.parseTemplate ·.value)

def transformActions (t : HTTPRequestTransforms) : List (Action Template) :=
  .parseTemplate t.pathTransform :: (valueActions t.headerTransforms.add ++ valueActions t.queryTransforms.add)

def matchActions (api : APISpec) (op : APIOperation) (m : HTTPMatch) : List (Action Template) :=
  [.parseTemplate m.pathTemplate,
   .addOpPath (api.id :: (if m.method = d.anyMethod then wildcard else m.method) :: m.pathTemplate.splitOn "/")
     ⟨op, templateOf d m.pathTemplate⟩]

def operationActions (api : APISpec) (op : APIOperation) : List (Action Template) :=
  (if op.httpMatches.isEmpty then [.addOpPath [api.id, wildcard, wildcard] ⟨op, none⟩]
    else op.httpMatches.flatMap (matchActions d api op)) ++
  (op.consumerAuthorization.in.flatMap paramActions ++ transformActions op.httpRequestTransforms)

/-- The first part of an API's actions: its base path and its CORS tables. -/
def corsActions (api : APISpec) : List (Action Template) :=
  .addAPIPath ("/" :: api.basePath.splitOn "/") api ::
  .setAllowedOrigins api.id (allowOrigins api.cors.allowOrigins ∅ false).1 ::
  (api.cors.allowOriginsRegexes.map .compileRegExp ++
  [.setVary api.id ((allowOrigins api.cors.allowOrigins ∅ false).2 ||
    decide (0 < api.cors.allowOriginsRegexes.length) || decide (1 < api.cors.allowOrigins.length))])

def apiActions (api : APISpec) : List (Action Template) :=
  corsActions api ++ (api.consumerAuthorization.in.flatMap paramActions ++
    (transformActions api.httpRequestTransforms ++ api.operations.flatMap (operationActions d api)))

def specActions (spec : EnvironmentSpec) : List (Action Template) :=
  spec.apis.flatMap (apiActions d) ++ (jwtAuthentications spec).flatMap fun j => j.in.flatMap paramActions

variable (e : EnvironmentSpecExt Template Regexp)

theorem parseTemplate_eq (s : String) :
    parseTemplate d e s = run d e [.parseTemplate s] >>= fun e' => pure (e', templateOf d s) := by
  unfold parseTemplate
  split
  · simp_all [run, Action.exit, Action.update, templateOf, memo]
  · cases h : d.parse s <;> simp_all [run, Action.exit, Action.update, templateOf, memo, Except.toOption]

theorem parseAPIOperationParameter_eq (s : StringTransformation) :
    parseAPIOperationParameter d e s = run d e (paramActions ⟨s⟩) := by
  unfold parseAPIOperationParameter
  split
  · simp_all [paramActions, run, Action.exit, Action.update, memo, templateOf]
  · simp [paramActions, parseTemplate_eq, run_cons d _ _ [_]]

theorem parseParameters_eq (ps : List APIOperationParameter) :
    parseParameters d e ps = run d e (ps.flatMap paramActions) := by
  induction ps generalizing e with
  | nil => rfl
  | cons p ps ih => simp [parseParameters, parseAPIOperationParameter_eq, run_append, ih]

theorem parseValues_eq (adds : List AddNameValue) :
    parseValues d e adds = run d e (valueActions adds) := by
  induction adds generalizing e with
  | nil => rfl
  | cons a adds ih => simp [parseValues, valueActions, parseTemplate_eq, run_cons d _ _ (List.map _ _), ih]

theorem parseHTTPRequestTransforms_eq (t : HTTPRequestTransforms) :
    parseHTTPRequestTransforms d e t = run d e (transformActions t) := by
  simp [parseHTTPRequestTransforms, transformActions, parseTemplate_eq, parseValues_eq,
    run_cons d _ _ (_ ++ _), run_append]

theorem addHTTPMatches_eq (api : APISpec) (op : APIOperation) (ms : List HTTPMatch) :
    addHTTPMatches d e api op ms = run d e (ms.flatMap (matchActions d api op)) := by
  induction ms generalizing e with
  | nil => rfl
  | cons m ms ih =>
    simp [addHTTPMatches, matchActions, parseTemplate_eq, run_cons d e _ (_ :: _),
      run_of_exit_none d _ (a := .addOpPath _ _) rfl, ih, Action.update]

theorem addOperation_eq (api : APISpec) (op : APIOperation) :
    addOperation d e api op = run d e (operationActions d api op) := by
  unfold addOperation operationActions
  split
  · simp [run_of_exit_none d e (a := .addOpPath _ _) rfl, parseParameters_eq,
      parseHTTPRequestTransforms_eq, run_append, Action.update]
  · simp [addHTTPMatches_eq, parseParameters_eq, parseHTTPRequestTransforms_eq, run_append]

theorem addOperations_eq (api : APISpec) (ops : List APIOperation) :
    addOperations d e api ops = run d e (ops.flatMap (operationActions d api)) := by
  induction ops generalizing e with
  | nil => rfl
  | cons op ops ih => simp [addOperations, addOperation_eq, run_append, ih]

theorem compileRegExps_eq (rs : List String) :
    compileRegExps d e rs = run d e (rs.map .compileRegExp) := by
  induction rs generalizing e with
  | nil => rfl
  | cons r rs ih =>
    unfold compileRegExps mustCompile
    cases h : d.compile r <;> simp [run, Action.exit, Action.update, memo, Except.toOption, h, ih]

theorem addAPI_eq (api : APISpec) : addAPI d e api = run d e (apiActions d api) := by
  simp [addAPI, apiActions, corsActions, run_of_exit_none d _ (a := .addAPIPath _ _) rfl,
    run_of_exit_none d _ (a := .setAllowedOrigins _ _) rfl, run_of_exit_none d _ (a := .setVary _ _) rfl,
    compileRegExps_eq, parseParameters_eq, parseHTTPRequestTransforms_eq, addOperations_eq, run_append,
    Action.update]

theorem addAPIs_eq (apis : List APISpec) : addAPIs d e apis = run d e (apis.flatMap (apiActions d)) := by
  induction apis generalizing e with
  | nil => rfl
  | cons api apis ih => simp [addAPIs, addAPI_eq, run_append, ih]

theorem parseJWTAuthentications_eq (js : List JWTAuthentication) :
    parseJWTAuthentications d e js = run d e (js.flatMap fun j => j.in.flatMap paramActions) := by
  induction js generalizing e with
  | nil => rfl
  | cons j js ih => simp [parseJWTAuthentications, parseParameters_eq, run_append, ih]

theorem foldl_update_environmentSpec (as : List (Action Template)) :
    (as.foldl (Action.update d) e).environmentSpec = e.environmentSpec := by
  induction as generalizing e with
  | nil => rfl
  | cons a as ih => rw [List.foldl_cons, ih]; cases a <;> rfl

theorem newEnvironmentSpecExt_eq_run (spec : EnvironmentSpec) :
    newEnvironmentSpecExt d spec = run d (.init spec) (specActions d spec) := by
  rw [newEnvironmentSpecExt, addAPIs_eq, specActions, run_append, run_eq d _ (List.flatMap _ _)]
  split
  · rfl
  · simp only [ok_bind, parseJWTAuthentications_eq, EnvironmentSpecExt.jwtAuthentications,
      foldl_update_environmentSpec]
    rfl

theorem newEnvironmentSpecExt_eq (spec : EnvironmentSpec) :
    newEnvironmentSpecExt d spec = match firstExit d (specActions d spec) with
      | some x => .error x
      | none => .ok ((specActions d spec).foldl (Action.update d) (.init spec)) := by
  rw [newEnvironmentSpecExt_eq_run, run_eq]

end Refinement

/-! ## Failures and fields of a run -/

section Facts

variable {Template Regexp : Type} (d : Deps Template Regexp)

/-- What can make an action fail: a pattern that does not compile (a panic), or a non-empty
    template that does not parse (an error return). -/
theorem Action.exit_eq_some {a : Action Template} {x : Exit} :
    a.exit d = some x ↔ (∃ r err, a = .compileRegExp r ∧ d.compile r = .error err ∧ x = .panic r err) ∨
      (∃ s err, a = .parseTemplate s ∧ s ≠ "" ∧ d.parse s = .error err ∧ x = .err err) := by
  cases a with
  | compileRegExp r => cases h : d.compile r <;> simp [Action.exit, h, eq_comm]
  | parseTemplate s =>
    by_cases hs : s = "" <;> [simp [Action.exit, hs]; cases h : d.parse s <;> simp [Action.exit, hs, h, eq_comm]]
  | _ => simp [Action.exit]

theorem firstExit_eq_none (as : List (Action Template)) :
    firstExit d as = none ↔ ∀ a ∈ as, a.exit d = none := by
  induction as with
  | nil => simp [firstExit]
  | cons a as ih => cases h : a.exit d <;> simp [firstExit, h, ih]

/-- The failure a run reports is the first one: every action before it succeeds. -/
theorem firstExit_eq_some (as : List (Action Template)) (x : Exit) :
    firstExit d as = some x ↔
      ∃ pre a post, as = pre ++ a :: post ∧ (∀ b ∈ pre, b.exit d = none) ∧ a.exit d = some x := by
  induction as with
  | nil => simp [firstExit]
  | cons a as ih =>
    cases h : a.exit d with
    | some y =>
      simp only [firstExit, h, Option.some.injEq]
      constructor
      · rintro rfl; exact ⟨[], a, as, rfl, by simp, h⟩
      · rintro ⟨_ | ⟨c, pre⟩, b, post, heq, hpre, hb⟩ <;>
          simp only [List.nil_append, List.cons_append, List.cons.injEq] at heq <;> obtain ⟨rfl, rfl⟩ := heq
        · exact Option.some.inj (h.symm.trans hb)
        · simp [hpre a (by simp)] at h
    | none =>
      simp only [firstExit, h, ih]
      constructor
      · rintro ⟨pre, b, post, rfl, hpre, hb⟩
        exact ⟨a :: pre, b, post, rfl, by simpa [h] using hpre, hb⟩
      · rintro ⟨_ | ⟨c, pre⟩, b, post, heq, hpre, hb⟩ <;>
          simp only [List.nil_append, List.cons_append, List.cons.injEq] at heq <;> obtain ⟨rfl, rfl⟩ := heq
        · simp [h] at hb
        · exact ⟨pre, b, post, rfl, fun b' hb' => hpre b' (by simp [hb']), hb⟩

/-- A field that each action either leaves alone or changes by `g` with what `sel` reads off
    the action is, after a fold of updates, the fold of `g` over what `sel` reads. -/
theorem foldl_update_field {γ δ : Type} (p : EnvironmentSpecExt Template Regexp → γ)
    (sel : Action Template → Option δ) (g : γ → δ → γ)
    (hp : ∀ e a, p (a.update d e) = match sel a with | some c => g (p e) c | none => p e)
    (as : List (Action Template)) (e : EnvironmentSpecExt Template Regexp) :
    p (as.foldl (Action.update d) e) = (as.filterMap sel).foldl g (p e) := by
  induction as generalizing e with
  | nil => rfl
  | cons a as ih => rw [List.foldl_cons, ih, hp]; cases h : sel a <;> simp [h]

def Action.template? : Action Template → Option String
  | .parseTemplate s => some s
  | _ => none

def Action.regexp? : Action Template → Option String
  | .compileRegExp r => some r
  | _ => none

theorem mem_template? (as : List (Action Template)) (s : String) :
    s ∈ as.filterMap Action.template? ↔ .parseTemplate s ∈ as := by
  simp only [List.mem_filterMap]
  exact ⟨fun ⟨a, ha, h⟩ => by cases a <;> simp_all [Action.template?], fun h => ⟨_, h, rfl⟩⟩

theorem mem_regexp? (as : List (Action Template)) (r : String) :
    r ∈ as.filterMap Action.regexp? ↔ .compileRegExp r ∈ as := by
  simp only [List.mem_filterMap]
  exact ⟨fun ⟨a, ha, h⟩ => by cases a <;> simp_all [Action.regexp?], fun h => ⟨_, h, rfl⟩⟩

theorem compiledTemplates_foldl (as : List (Action Template)) (e : EnvironmentSpecExt Template Regexp) :
    (as.foldl (Action.update d) e).compiledTemplates =
      (as.filterMap Action.template?).foldl (memo (templateOf d)) e.compiledTemplates :=
  foldl_update_field d (·.compiledTemplates) Action.template? _ (fun e a => by cases a <;> rfl) as e

theorem compiledRegExps_foldl (as : List (Action Template)) (e : EnvironmentSpecExt Template Regexp) :
    (as.foldl (Action.update d) e).compiledRegExps =
      (as.filterMap Action.regexp?).foldl (memo fun r => (d.compile r).toOption) e.compiledRegExps :=
  foldl_update_field d (·.compiledRegExps) Action.regexp? _ (fun e a => by cases a <;> rfl) as e

theorem paramActions_parse {p : APIOperationParameter} {a : Action Template} (h : a ∈ paramActions p) :
    ∃ s, a = .parseTemplate s := by
  simp only [paramActions, List.mem_cons, List.mem_singleton, List.not_mem_nil, or_false] at h
  rcases h with rfl | rfl <;> exact ⟨_, rfl⟩

theorem transformActions_parse {t : HTTPRequestTransforms} {a : Action Template} (h : a ∈ transformActions t) :
    ∃ s, a = .parseTemplate s := by
  simp only [transformActions, valueActions, List.mem_cons, List.mem_append, List.mem_map] at h
  rcases h with rfl | ⟨_, _, rfl⟩ | ⟨_, _, rfl⟩ <;> exact ⟨_, rfl⟩

/-- Parameters, transforms and operations only parse templates and add operation paths. -/
theorem operationActions_parse_or_path {api : APISpec} {op : APIOperation} {a : Action Template}
    (h : a ∈ operationActions d api op) : (∃ s, a = .parseTemplate s) ∨ ∃ k m, a = .addOpPath k m := by
  unfold operationActions at h
  rcases List.mem_append.mp h with h | h
  · split at h
    · exact .inr ⟨_, _, List.mem_singleton.mp h⟩
    · obtain ⟨m, -, hm⟩ := List.mem_flatMap.mp h
      simp only [matchActions, List.mem_cons, List.mem_singleton, List.not_mem_nil, or_false] at hm
      rcases hm with rfl | rfl
      · exact .inl ⟨_, rfl⟩
      · exact .inr ⟨_, _, rfl⟩
  · rcases List.mem_append.mp h with h | h
    · obtain ⟨p, -, hp⟩ := List.mem_flatMap.mp h
      exact .inl (paramActions_parse hp)
    · exact .inl (transformActions_parse h)

section Selector

variable {δ : Type} (sel : Action Template → Option δ)

/-- What a selector that ignores template steps reads off an API's actions is in their CORS part. -/
theorem filterMap_apiActions (hp : ∀ s, sel (.parseTemplate s) = none) (ho : ∀ k m, sel (.addOpPath k m) = none)
    (api : APISpec) : (apiActions d api).filterMap sel = (corsActions api).filterMap sel := by
  rw [apiActions, List.filterMap_append, List.append_right_eq_self, List.filterMap_eq_nil_iff]
  intro a ha
  simp only [List.mem_append, List.mem_flatMap] at ha
  rcases ha with ⟨p, -, hp'⟩ | ha | ⟨op, -, ha⟩
  · obtain ⟨s, rfl⟩ := paramActions_parse hp'; exact hp s
  · obtain ⟨s, rfl⟩ := transformActions_parse ha; exact hp s
  · rcases operationActions_parse_or_path d ha with ⟨s, rfl⟩ | ⟨k, m, rfl⟩
    · exact hp s
    · exact ho k m

theorem filterMap_specActions (hp : ∀ s, sel (.parseTemplate s) = none) (ho : ∀ k m, sel (.addOpPath k m) = none)
    (spec : EnvironmentSpec) :
    (specActions d spec).filterMap sel = spec.apis.flatMap fun api => (corsActions api).filterMap sel := by
  rw [specActions, List.filterMap_append, List.filterMap_flatMap]
  simp only [filterMap_apiActions d sel hp ho, List.append_right_eq_self, List.filterMap_eq_nil_iff,
    List.mem_flatMap]
  rintro a ⟨j, -, p, -, ha⟩
  obtain ⟨s, rfl⟩ := paramActions_parse ha
  exact hp s

end Selector

/-- The code compiles exactly the CORS patterns of the spec, API by API. -/
theorem regexp?_specActions (spec : EnvironmentSpec) :
    (specActions d spec).filterMap Action.regexp? = spec.apis.flatMap (·.cors.allowOriginsRegexes) := by
  have h : (Action.regexp? ∘ (Action.compileRegExp : String → Action Template)) = some := rfl
  rw [filterMap_specActions d Action.regexp? (fun _ => rfl) (fun _ _ => rfl)]
  simp [corsActions, Action.regexp?, List.filterMap_map, h]

end Facts

end ApigeeEnvoy.Config
