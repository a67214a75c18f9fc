/-
  ApigeeEnvoy.Config.Templates — the template cache of `NewEnvironmentSpecExt`
  (`compiledTemplates`, `GetTemplate`).

  `referencedTemplates` lists the strings a spec references as templates: the path transform
  and the header and query add values of every API's and every operation's transforms, the
  path template of every operation match, and the template and substitution of every
  consumer-authorization parameter of every API and operation and of every parameter of every
  JWT authentication `JWTAuthentications` returns. The code visits them in another order
  (`specActions`); `parseTemplate_mem_specActions` says it visits the same strings.

  Proved, for every parser and every spec whose CORS patterns compile
  (`newEnvironmentSpecExt_templates`):
  - it does not panic, and it returns an error iff some non-empty referenced string does not
    parse;
  - when it succeeds the cache holds exactly the non-empty referenced strings, each with the
    template the parser returned for it, so `getTemplate` is that template on them and `none`
    on every other string, and the cache has one entry per distinct such string, however
    often each one repeats.
  For every spec (`newEnvironmentSpecExt_fails_first`): a failure is that of the first failing
  step in the order the code takes them, every step before it having succeeded.
-/

import ApigeeEnvoy.Config.Actions
import Mathlib.Data.List.Dedup

namespace ApigeeEnvoy.Config

def HTTPRequestTransforms.templates (t : HTTPRequestTransforms) : List String :=
  t.pathTransform :: (t.headerTransforms.add.map (·.value) ++ t.queryTransforms.add.map (·.value))

def APIOperationParameter.templates (p : APIOperationParameter) : List String :=
  [p.transformation.template, p.transformation.substitution]

def APIOperation.templates (op : APIOperation) : List String :=
  op.httpMatches.map (·.pathTemplate) ++
    (op.consumerAuthorization.in.flatMap (·.templates) ++ op.httpRequestTransforms.templates)

def APISpec.templates (api : APISpec) : List String :=
  api.consumerAuthorization.in.flatMap (·.templates) ++
    (api.httpRequestTransforms.templates ++ api.operations.flatMap (·.templates))

def referencedTemplates (spec : EnvironmentSpec) : List String :=
  spec.apis.flatMap (·.templates) ++ (jwtAuthentications spec).flatMap (·.in.flatMap (·.templates))

section

variable {Template Regexp : Type} (d : Deps Template Regexp)

@[simp] theorem template?_paramActions (p : APIOperationParameter) :
    (paramActions p : List (Action Template)).filterMap Action.template? = p.templates := rfl

@[simp] theorem template?_valueActions (adds : List AddNameValue) :
    (valueActions adds : List (Action Template)).filterMap Action.template? = adds.map (·.value) := by
  induction adds <;> simp_all [valueActions, Action.template?]

@[simp] theorem template?_transformActions (t : HTTPRequestTransforms) :
    (transformActions t : List (Action Template)).filterMap Action.template? = t.templates := by
  simp [transformActions, HTTPRequestTransforms.templates, Action.template?]

@[simp] theorem template?_operationActions (api : APISpec) (op : APIOperation) :
    (operationActions d api op).filterMap Action.template? = op.templates := by
  unfold operationActions APIOperation.templates
  split
  · simp_all [Action.template?, List.filterMap_flatMap]
  · simp [List.filterMap_flatMap, matchActions, Action.template?, ← List.map_eq_flatMap]

@[simp] theorem template?_apiActions (api : APISpec) :
    (apiActions d api).filterMap Action.template? = api.templates := by
  simp [apiActions, corsActions, APISpec.templates, List.filterMap_flatMap, Action.template?]

/-- The code parses exactly the referenced strings, in its own order. -/
theorem template?_specActions (spec : EnvironmentSpec) :
    (specActions d spec).filterMap Action.template? = referencedTemplates spec := by
  simp [specActions, referencedTemplates, List.filterMap_flatMap]

theorem parseTemplate_mem_specActions (spec : EnvironmentSpec) (s : String) :
    .parseTemplate s ∈ specActions d spec ↔ s ∈ referencedTemplates spec := by
  rw [← mem_template?, template?_specActions]

theorem compileRegExp_mem_specActions (spec : EnvironmentSpec) (r : String) :
    .compileRegExp r ∈ specActions d spec ↔ ∃ api ∈ spec.apis, r ∈ api.cors.allowOriginsRegexes := by
  rw [← mem_regexp?, regexp?_specActions, List.mem_flatMap]

/-- A spec whose CORS patterns all compile can fail only on a non-empty template. -/
theorem exit_of_patterns_compile (spec : EnvironmentSpec)
    (hre : ∀ api ∈ spec.apis, ∀ r ∈ api.cors.allowOriginsRegexes, ∃ re, d.compile r = .ok re)
    {a : Action Template} (ha : a ∈ specActions d spec) {x : Exit} (hx : a.exit d = some x) :
    ∃ s err, a = .parseTemplate s ∧ s ≠ "" ∧ d.parse s = .error err ∧ x = .err err := by
  rcases (Action.exit_eq_some d).mp hx with ⟨r, err, rfl, hc, -⟩ | h
  · obtain ⟨api, hapi, hr⟩ := (compileRegExp_mem_specActions d spec r).mp ha
    obtain ⟨re, hok⟩ := hre api hapi r hr
    simp [hok] at hc
  · exact h

/-- On success every non-empty referenced template parsed. -/
theorem parse_ok_of_firstExit_none {spec : EnvironmentSpec} (h : firstExit d (specActions d spec) = none)
    {s : String} (hs : s ∈ referencedTemplates spec) (hne : s ≠ "") : ∃ t, d.parse s = .ok t := by
  have := (firstExit_eq_none d _).mp h _ ((parseTemplate_mem_specActions d spec s).mpr hs)
  cases hp : d.parse s <;> simp_all [Action.exit]

theorem newEnvironmentSpecExt_templates (spec : EnvironmentSpec)
    (hre : ∀ api ∈ spec.apis, ∀ r ∈ api.cors.allowOriginsRegexes, ∃ re, d.compile r = .ok re) :
    (∀ r err, newEnvironmentSpecExt d spec ≠ .error (.panic r err)) ∧
    ((∃ err, newEnvironmentSpecExt d spec = .error (.err err)) ↔
      ∃ s ∈ referencedTemplates spec, s ≠ "" ∧ ∃ err, d.parse s = .error err) ∧
    ∀ ext, newEnvironmentSpecExt d spec = .ok ext →
      (∀ s, s ∈ ext.compiledTemplates ↔ s ∈ referencedTemplates spec ∧ s ≠ "") ∧
      (∀ s, ext.getTemplate s =
        if s ∈ referencedTemplates spec ∧ s ≠ "" then (d.parse s).toOption else none) ∧
      ext.compiledTemplates.keys.length = ((referencedTemplates spec).filter (· != "")).dedup.length := by
  rw [newEnvironmentSpecExt_eq]
  -- the failure, if any, of the first failing action
  have hfail : ∀ x, firstExit d (specActions d spec) = some x →
      ∃ s err, s ∈ referencedTemplates spec ∧ s ≠ "" ∧ d.parse s = .error err ∧ x = .err err := by
    intro x hx
    obtain ⟨pre, a, post, hsplit, -, ha⟩ := (firstExit_eq_some d _ x).mp hx
    have hmem : a ∈ specActions d spec := by simp [hsplit]
    obtain ⟨s, err, rfl, hne, hp, rfl⟩ := exit_of_patterns_compile d spec hre hmem ha
    exact ⟨s, err, (parseTemplate_mem_specActions d spec s).mp hmem, hne, hp, rfl⟩
  refine ⟨?_, ?_, ?_⟩
  · intro r err
    split
    · next x hx => obtain ⟨s, e, -, -, -, rfl⟩ := hfail x hx; simp
    · simp
  · constructor
    · rintro ⟨err, h⟩
      split at h
      · next x hx => obtain ⟨s, e, hs, hne, hp, rfl⟩ := hfail x hx; exact ⟨s, hs, hne, e, hp⟩
      · cases h
    · rintro ⟨s, hs, hne, err, hp⟩
      cases hx : firstExit d (specActions d spec) with
      | some x => obtain ⟨s', e, -, -, -, rfl⟩ := hfail x hx; exact ⟨e, rfl⟩
      | none => obtain ⟨t, ht⟩ := parse_ok_of_firstExit_none d hx hs hne; simp [ht] at hp
  · intro ext hext
    split at hext
    · cases hext
    · next hx =>
      cases hext
      have hlookup : ∀ s, ((specActions d spec).foldl (Action.update d) (.init spec)).getTemplate s =
          if s ∈ referencedTemplates spec ∧ s ≠ "" then (d.parse s).toOption else none := by
        intro s
        simp only [EnvironmentSpecExt.getTemplate, compiledTemplates_foldl, template?_specActions,
          lookup_foldl_memo, EnvironmentSpecExt.init, AList.lookup_empty]
        by_cases hs : s ∈ referencedTemplates spec ∧ s ≠ ""
        · obtain ⟨t, ht⟩ := parse_ok_of_firstExit_none d hx hs.1 hs.2
          simp [hs, templateOf, ht, Except.toOption]
        · by_cases hr : s ∈ referencedTemplates spec <;> simp_all [templateOf]
      have hkeys : ∀ s, s ∈ ((specActions d spec).foldl (Action.update d) (.init spec)).compiledTemplates ↔
          s ∈ referencedTemplates spec ∧ s ≠ "" := by
        intro s
        rw [← AList.lookup_isSome, ← EnvironmentSpecExt.getTemplate, hlookup]
        by_cases hs : s ∈ referencedTemplates spec ∧ s ≠ ""
        · obtain ⟨t, ht⟩ := parse_ok_of_firstExit_none d hx hs.1 hs.2
          simp [hs, ht, Except.toOption]
        · simp [hs]
      refine ⟨hkeys, hlookup, List.Perm.length_eq ?_⟩
      refine (List.perm_ext_iff_of_nodup (AList.keys_nodup _) (List.nodup_dedup _)).mpr fun s => ?_
      simp [← AList.mem_keys, hkeys]

/-- A parser and a compiler that accept everything, each returning its input. -/
def acceptAllDeps : Deps String String := ⟨fun s => .ok s, fun r => .ok r, "ANY"⟩

/-- The spec's end-to-end scenario: one API at `/v1` with `GET /petstore` and `GET /airport`,
    a path rewrite, and a CORS policy with a wildcard origin and a pattern. -/
def petstoreSpec : EnvironmentSpec :=
  ⟨[⟨"petstore", "/v1", ⟨false, []⟩,
    [⟨[⟨"/petstore", "GET"⟩], ⟨false, []⟩, ⟨"", ⟨[], []⟩, ⟨[], []⟩⟩, []⟩,
     ⟨[⟨"/airport", "GET"⟩], ⟨false, []⟩, ⟨"", ⟨[], []⟩, ⟨[], []⟩⟩, [⟨[⟨⟨"Bearer {token}", "{token}"⟩⟩]⟩]⟩],
    ⟨"/target/{path}", ⟨[⟨"target"⟩], []⟩, ⟨[], []⟩⟩, ⟨["*"], ["^https://.*$"]⟩, []⟩]⟩

theorem templates_petstore :
    (∀ api ∈ petstoreSpec.apis, ∀ r ∈ api.cors.allowOriginsRegexes, ∃ re, acceptAllDeps.compile r = .ok re) ∧
    (∀ r err, newEnvironmentSpecExt acceptAllDeps petstoreSpec ≠ .error (.panic r err)) ∧
    ((∃ err, newEnvironmentSpecExt acceptAllDeps petstoreSpec = .error (.err err)) ↔
      ∃ s ∈ referencedTemplates petstoreSpec, s ≠ "" ∧ ∃ err, acceptAllDeps.parse s = .error err) ∧
    ∀ ext, newEnvironmentSpecExt acceptAllDeps petstoreSpec = .ok ext →
      (∀ s, s ∈ ext.compiledTemplates ↔ s ∈ referencedTemplates petstoreSpec ∧ s ≠ "") ∧
      (∀ s, ext.getTemplate s = if s ∈ referencedTemplates petstoreSpec ∧ s ≠ "" then
        (acceptAllDeps.parse s).toOption else none) ∧
      ext.compiledTemplates.keys.length = ((referencedTemplates petstoreSpec).filter (· != "")).dedup.length :=
  have hre : ∀ api ∈ petstoreSpec.apis, ∀ r ∈ api.cors.allowOriginsRegexes,
      ∃ re, acceptAllDeps.compile r = .ok re := fun _ _ r _ => ⟨r, rfl⟩
  ⟨hre, newEnvironmentSpecExt_templates acceptAllDeps petstoreSpec hre⟩

/-- Fail fast: `NewEnvironmentSpecExt` fails exactly as the first failing step of the code does,
    every step before it having succeeded. -/
theorem newEnvironmentSpecExt_fails_first (spec : EnvironmentSpec) (x : Exit) :
    newEnvironmentSpecExt d spec = .error x ↔ ∃ pre a post, specActions d spec = pre ++ a :: post ∧
      (∀ b ∈ pre, b.exit d = none) ∧ a.exit d = some x := by
  rw [newEnvironmentSpecExt_eq, ← firstExit_eq_some]
  split <;> simp_all

end

end ApigeeEnvoy.Config
