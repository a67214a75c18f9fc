/-
  ApigeeEnvoy.Config.Cors — the CORS tables of `NewEnvironmentSpecExt`: per API ID the
  statically allowed origins (`corsAllowedOrigins`) and whether a response must vary on the
  origin (`corsVary`), and the compiled origin patterns (`compiledRegExps`).

  Proved:
  - `allowOrigins_lookup`, `allowOrigins_vary`: the loop over `AllowOrigins` yields the set of
    its entries and whether `*` is one of them.
  - `newEnvironmentSpecExt_cors`: when the API IDs are distinct and the construction succeeds,
    both tables have exactly the API IDs as keys; each API's entries come from its own policy
    alone (its origins; vary iff `*` is allowed, a pattern is given or more than one origin
    is); the pattern table holds exactly the spec's patterns, each with its compilation.
  - `newEnvironmentSpecExt_cors_last`: whatever the API IDs, an ID's entries in both tables
    are those of the last API with that ID; an earlier API with the same ID loses its CORS
    policy.
  - `newEnvironmentSpecExt_panics`: when every template parses, the construction panics iff
    some CORS pattern does not compile. `regexp.MustCompile` makes a bad pattern in the
    configuration a panic, where a bad template is an error return
    (`invalid_origin_regexp_panics`, at the pattern `(`).
-/

import ApigeeEnvoy.Config.Templates

namespace ApigeeEnvoy.Config

theorem allowOrigins_lookup (os : List String) (m : GoMap Bool) (v : Bool) (o : String) :
    (allowOrigins os m v).1.lookup o = if o ∈ os then some true else m.lookup o := by
  induction os generalizing m v with
  | nil => simp [allowOrigins]
  | cons o' os ih =>
    rw [allowOrigins, ih]
    by_cases h : o = o'
    · subst h; by_cases ho : o ∈ os <;> simp [ho]
    · simp [h, AList.lookup_insert_ne h]

theorem allowOrigins_vary (os : List String) (m : GoMap Bool) (v : Bool) :
    (allowOrigins os m v).2 = (v || decide (wildcard ∈ os)) := by
  induction os generalizing m v with
  | nil => simp [allowOrigins]
  | cons o os ih =>
    rw [allowOrigins, ih]
    by_cases h : o = wildcard <;> simp [h, eq_comm]

/-! ## Sample specs -/

/-- Two APIs with distinct IDs: the petstore, and a bookstore at `/v2` allowing one origin. -/
def storesSpec : EnvironmentSpec :=
  ⟨petstoreSpec.apis ++
    [⟨"bookstore", "/v2", ⟨false, []⟩, [], ⟨"", ⟨[], []⟩, ⟨[], []⟩⟩, ⟨["https://books.example"], []⟩, []⟩]⟩

/-- A parser that accepts every template and a compiler that rejects `(`, as Go's
    `regexp.Compile` does ("missing closing )"). -/
def parenDeps : Deps Unit Unit := ⟨fun _ => .ok (), fun r => if r = "(" then .error "missing closing )" else .ok (), "ANY"⟩

/-- The petstore with `(` added to its origin patterns. -/
def badPatternSpec : EnvironmentSpec :=
  ⟨petstoreSpec.apis.map fun api => { api with cors := ⟨api.cors.allowOrigins, api.cors.allowOriginsRegexes ++ ["("]⟩ }⟩

/-- What a spec compiles to when nothing fails. -/
def compiledExt (spec : EnvironmentSpec) : EnvironmentSpecExt String String :=
  (specActions acceptAllDeps spec).foldl (Action.update acceptAllDeps) (.init spec)

section

variable {Template Regexp : Type} (d : Deps Template Regexp)

def Action.allowedOrigins? : Action Template → Option (String × GoMap Bool)
  | .setAllowedOrigins id m => some (id, m)
  | _ => none

def Action.vary? : Action Template → Option (String × Bool)
  | .setVary id b => some (id, b)
  | _ => none

theorem corsAllowedOrigins_foldl (as : List (Action Template)) (e : EnvironmentSpecExt Template Regexp) :
    (as.foldl (Action.update d) e).corsAllowedOrigins =
      (as.filterMap Action.allowedOrigins?).foldl (fun m kv => m.insert kv.1 kv.2) e.corsAllowedOrigins :=
  foldl_update_field d (·.corsAllowedOrigins) Action.allowedOrigins? _ (fun e a => by cases a <;> rfl) as e

theorem corsVary_foldl (as : List (Action Template)) (e : EnvironmentSpecExt Template Regexp) :
    (as.foldl (Action.update d) e).corsVary =
      (as.filterMap Action.vary?).foldl (fun m kv => m.insert kv.1 kv.2) e.corsVary :=
  foldl_update_field d (·.corsVary) Action.vary? _ (fun e a => by cases a <;> rfl) as e

/-- One origin set per API, in order. -/
theorem allowedOrigins?_specActions (spec : EnvironmentSpec) :
    (specActions d spec).filterMap Action.allowedOrigins? =
      spec.apis.map fun api => (api.id, (allowOrigins api.cors.allowOrigins ∅ false).1) := by
  rw [filterMap_specActions d _ (fun _ => rfl) (fun _ _ => rfl), List.map_eq_flatMap]
  congr 1; funext api
  simp [corsActions, Action.allowedOrigins?, List.filterMap_map, Function.comp_def]

/-- One vary flag per API, in order. -/
theorem vary?_specActions (spec : EnvironmentSpec) :
    (specActions d spec).filterMap Action.vary? = spec.apis.map fun api => (api.id,
      (decide ("*" ∈ api.cors.allowOrigins ∨ api.cors.allowOriginsRegexes ≠ [] ∨ 1 < api.cors.allowOrigins.length))) := by
  rw [filterMap_specActions d _ (fun _ => rfl) (fun _ _ => rfl), List.map_eq_flatMap]
  congr 1; funext api
  simp [corsActions, Action.vary?, List.filterMap_map, Function.comp_def, allowOrigins_vary, wildcard,
    List.length_pos, List.filterMap_eq_nil_iff, Bool.or_assoc]

/-- On success every CORS pattern of the spec compiled. -/
theorem compile_ok_of_firstExit_none {spec : EnvironmentSpec} (h : firstExit d (specActions d spec) = none)
    {api : APISpec} (hapi : api ∈ spec.apis) {r : String} (hr : r ∈ api.cors.allowOriginsRegexes) :
    ∃ re, d.compile r = .ok re := by
  have := (firstExit_eq_none d _).mp h _ ((compileRegExp_mem_specActions d spec r).mpr ⟨api, hapi, hr⟩)
  cases hc : d.compile r <;> simp_all [Action.exit]

theorem newEnvironmentSpecExt_cors (spec : EnvironmentSpec) (hid : (spec.apis.map (·.id)).Nodup)
    (ext : EnvironmentSpecExt Template Regexp) (h : newEnvironmentSpecExt d spec = .ok ext) :
    (∀ k, k ∈ ext.corsAllowedOrigins ↔ k ∈ spec.apis.map (·.id)) ∧
    (∀ k, k ∈ ext.corsVary ↔ k ∈ spec.apis.map (·.id)) ∧
    (∀ api ∈ spec.apis, ∃ m, ext.corsAllowedOrigins.lookup api.id = some m ∧
      ∀ o, m.lookup o = if o ∈ api.cors.allowOrigins then some true else none) ∧
    (∀ api ∈ spec.apis, ext.corsVary.lookup api.id = some (decide ("*" ∈ api.cors.allowOrigins ∨
      api.cors.allowOriginsRegexes ≠ [] ∨ 1 < api.cors.allowOrigins.length))) ∧
    (∀ r, r ∈ ext.compiledRegExps ↔ ∃ api ∈ spec.apis, r ∈ api.cors.allowOriginsRegexes) ∧
    (∀ api ∈ spec.apis, ∀ r ∈ api.cors.allowOriginsRegexes,
      ∃ re, d.compile r = .ok re ∧ ext.compiledRegExps.lookup r = some re) := by
  rw [newEnvironmentSpecExt_eq] at h
  split at h
  · cases h
  · next hx =>
    cases h
    have hkeys {β : Type} (f : APISpec → β) : ((spec.apis.map fun api => (api.id, f api)).map Prod.fst).Nodup := by
      simpa [Function.comp_def] using hid
    have hmem {β : Type} (f : APISpec → β) {api : APISpec} (hapi : api ∈ spec.apis) :
        (api.id, f api) ∈ spec.apis.map fun api => (api.id, f api) := List.mem_map.mpr ⟨api, hapi, rfl⟩
    refine ⟨fun k => ?_, fun k => ?_, fun api hapi => ?_, fun api hapi => ?_, fun r => ?_, fun api hapi r hr => ?_⟩
    · simp [corsAllowedOrigins_foldl, allowedOrigins?_specActions, mem_foldl_insert, EnvironmentSpecExt.init,
        Function.comp_def]
    · simp [corsVary_foldl, vary?_specActions, mem_foldl_insert, EnvironmentSpecExt.init, Function.comp_def]
    · refine ⟨(allowOrigins api.cors.allowOrigins ∅ false).1, ?_, fun o => by simp [allowOrigins_lookup]⟩
      rw [corsAllowedOrigins_foldl, allowedOrigins?_specActions]
      exact lookup_foldl_insert_of_mem _ _ (hkeys _) (hmem _ hapi)
    · rw [corsVary_foldl, vary?_specActions]
      exact lookup_foldl_insert_of_mem _ _ (hkeys _) (hmem _ hapi)
    · rw [compiledRegExps_foldl, regexp?_specActions, mem_foldl_memo, List.mem_flatMap]
      constructor
      · rintro (⟨h, -⟩ | h)
        · exact h
        · simp [EnvironmentSpecExt.init] at h
      · rintro ⟨api, hapi, hr⟩
        obtain ⟨re, hre⟩ := compile_ok_of_firstExit_none d hx hapi hr
        exact .inl ⟨⟨api, hapi, hr⟩, by simp [hre, Except.toOption]⟩
    · obtain ⟨re, hre⟩ := compile_ok_of_firstExit_none d hx hapi hr
      refine ⟨re, hre, ?_⟩
      rw [compiledRegExps_foldl, regexp?_specActions, lookup_foldl_memo, if_pos]
      · simp [hre, Except.toOption]
      · exact ⟨List.mem_flatMap.mpr ⟨api, hapi, hr⟩, by simp [hre, Except.toOption]⟩

theorem cors_two_stores :
    (storesSpec.apis.map (·.id)).Nodup ∧ newEnvironmentSpecExt acceptAllDeps storesSpec = .ok (compiledExt storesSpec) ∧
    (∀ k, k ∈ (compiledExt storesSpec).corsAllowedOrigins ↔ k ∈ storesSpec.apis.map (·.id)) ∧
    (∀ k, k ∈ (compiledExt storesSpec).corsVary ↔ k ∈ storesSpec.apis.map (·.id)) ∧
    (∀ api ∈ storesSpec.apis, ∃ m, (compiledExt storesSpec).corsAllowedOrigins.lookup api.id = some m ∧
      ∀ o, m.lookup o = if o ∈ api.cors.allowOrigins then some true else none) ∧
    (∀ api ∈ storesSpec.apis, (compiledExt storesSpec).corsVary.lookup api.id = some (decide ("*" ∈ api.cors.allowOrigins ∨
      api.cors.allowOriginsRegexes ≠ [] ∨ 1 < api.cors.allowOrigins.length))) ∧
    (∀ r, r ∈ (compiledExt storesSpec).compiledRegExps ↔ ∃ api ∈ storesSpec.apis, r ∈ api.cors.allowOriginsRegexes) ∧
    (∀ api ∈ storesSpec.apis, ∀ r ∈ api.cors.allowOriginsRegexes,
      ∃ re, acceptAllDeps.compile r = .ok re ∧ (compiledExt storesSpec).compiledRegExps.lookup r = some re) :=
  have hid : (storesSpec.apis.map (·.id)).Nodup := by decide
  have hok : newEnvironmentSpecExt acceptAllDeps storesSpec = .ok (compiledExt storesSpec) := by
    rw [newEnvironmentSpecExt_eq]; rfl
  ⟨hid, hok, newEnvironmentSpecExt_cors acceptAllDeps storesSpec hid (compiledExt storesSpec) hok⟩

/-- When every template parses, the construction panics iff some CORS pattern does not compile. -/
theorem newEnvironmentSpecExt_panics (spec : EnvironmentSpec)
    (hparse : ∀ s ∈ referencedTemplates spec, s ≠ "" → ∃ t, d.parse s = .ok t) :
    (∃ r err, newEnvironmentSpecExt d spec = .error (.panic r err)) ↔
      ∃ api ∈ spec.apis, ∃ r ∈ api.cors.allowOriginsRegexes, ∃ err, d.compile r = .error err := by
  rw [newEnvironmentSpecExt_eq]
  -- the first failing action of the spec fails to compile a pattern of the spec
  have hfirst : ∀ x, firstExit d (specActions d spec) = some x →
      ∃ api ∈ spec.apis, ∃ r ∈ api.cors.allowOriginsRegexes, ∃ err, d.compile r = .error err ∧
        x = .panic r err := by
    intro x hx
    obtain ⟨pre, a, post, hsplit, -, ha⟩ := (firstExit_eq_some d _ _).mp hx
    have hmem : a ∈ specActions d spec := by simp [hsplit]
    rcases (Action.exit_eq_some d).mp ha with ⟨r, err, rfl, hc, rfl⟩ | ⟨s, err, rfl, hne, hp, -⟩
    · obtain ⟨api, hapi, hr⟩ := (compileRegExp_mem_specActions d spec r).mp hmem
      exact ⟨api, hapi, r, hr, err, hc, rfl⟩
    · obtain ⟨t, ht⟩ := hparse s ((parseTemplate_mem_specActions d spec s).mp hmem) hne
      simp [ht] at hp
  constructor
  · rintro ⟨r, err, h⟩
    split at h
    · next x hx =>
      obtain ⟨api, hapi, r', hr', err', hc, rfl⟩ := hfirst x hx
      exact ⟨api, hapi, r', hr', err', hc⟩
    · cases h
  · rintro ⟨api, hapi, r, hr, err, hc⟩
    cases hx : firstExit d (specActions d spec) with
    | none => obtain ⟨re, hre⟩ := compile_ok_of_firstExit_none d hx hapi hr; simp [hre] at hc
    | some x => obtain ⟨-, -, r', -, err', -, rfl⟩ := hfirst x hx; exact ⟨r', err', rfl⟩

end

/-- The petstore's templates and patterns all parse and compile: no panic. With `(` among its
    patterns, the construction panics. -/
theorem panics_bad_pattern :
    (∀ s ∈ referencedTemplates petstoreSpec, s ≠ "" → ∃ t, acceptAllDeps.parse s = .ok t) ∧
    ((∃ r err, newEnvironmentSpecExt acceptAllDeps petstoreSpec = .error (.panic r err)) ↔
      ∃ api ∈ petstoreSpec.apis, ∃ r ∈ api.cors.allowOriginsRegexes, ∃ err, acceptAllDeps.compile r = .error err) ∧
    (∀ s ∈ referencedTemplates badPatternSpec, s ≠ "" → ∃ t, parenDeps.parse s = .ok t) ∧
    ((∃ r err, newEnvironmentSpecExt parenDeps badPatternSpec = .error (.panic r err)) ↔
      ∃ api ∈ badPatternSpec.apis, ∃ r ∈ api.cors.allowOriginsRegexes, ∃ err, parenDeps.compile r = .error err) :=
  have hpet : ∀ s ∈ referencedTemplates petstoreSpec, s ≠ "" → ∃ t, acceptAllDeps.parse s = .ok t :=
    fun s _ _ => ⟨s, rfl⟩
  have hbad : ∀ s ∈ referencedTemplates badPatternSpec, s ≠ "" → ∃ t, parenDeps.parse s = .ok t :=
    fun _ _ _ => ⟨(), rfl⟩
  ⟨hpet, newEnvironmentSpecExt_panics acceptAllDeps petstoreSpec hpet,
    hbad, newEnvironmentSpecExt_panics parenDeps badPatternSpec hbad⟩

/-- Go's `regexp.Compile("(")` fails ("missing closing )"); the rest of the parser does not
    matter here. One API with that origin pattern: `MustCompile` panics. -/
theorem invalid_origin_regexp_panics :
    newEnvironmentSpecExt
      (⟨fun _ => .ok (), fun r => if r = "(" then .error "missing closing )" else .ok (), "ANY"⟩ : Deps Unit Unit)
      ⟨[⟨"api", "/v1", ⟨false, []⟩, [], ⟨"", ⟨[], []⟩, ⟨[], []⟩⟩, ⟨[], ["("]⟩, []⟩]⟩ =
      .error (.panic "(" "missing closing )") := by
  rfl

end ApigeeEnvoy.Config
