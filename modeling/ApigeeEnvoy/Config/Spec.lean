/-
  ApigeeEnvoy.Config.Spec — the environment spec as `NewEnvironmentSpecExt` reads it
  (package config: `EnvironmentSpec`, `APISpec`, `APIOperation`, their transforms, CORS
  policy and consumer authorization), and the `isEmpty` checks of its blocks.

  A record keeps the fields some modelled function reads; MODEL_MAP.json lists the ones left
  out. A Go `map[string]T` is a `GoMap T`, an association list with unique keys: `m[k] = v`
  is `insert`, `m[k]` is `lookup`, `len(m)` is the length of `keys`.

  `strings.TrimSpace` trims the runes `unicode.IsSpace` accepts (`isSpace`: the Latin-1
  spaces and the rest of Unicode's White_Space). Proved:
  - `trimSpace_eq_nil`: the trimmed text is empty iff every rune is such a space, so
    `HTTPRequestTransforms.isEmpty_iff`: a block is empty iff it adds and removes nothing and
    its path transform is blank. A blank path transform still counts as a template
    (`Config.Templates`): only `""` is skipped there.
  - `lookup_foldl_memo`: folding "cache `k ↦ f k` when `f k` is defined" over a list of keys
    caches exactly the keys of the list `f` is defined on, whatever the repetitions.
-/

import Mathlib.Data.List.AList

namespace ApigeeEnvoy.Config

/-- `map[string]β`. -/
abbrev GoMap (β : Type) := AList (fun _ : String => β)

/-! ## The spec records -/

structure StringTransformation where
  template : String
  substitution : String
  deriving DecidableEq, Repr

structure APIOperationParameter where
  transformation : StringTransformation
  deriving DecidableEq, Repr

/-- A `JWTAuthentication`, by the parameters its token may be carried in. -/
structure JWTAuthentication where
  «in» : List APIOperationParameter
  deriving DecidableEq, Repr

structure ConsumerAuthorization where
  disabled : Bool
  «in» : List APIOperationParameter
  deriving DecidableEq, Repr

structure AddNameValue where
  value : String
  deriving DecidableEq, Repr

structure NameValueTransforms where
  add : List AddNameValue
  remove : List String
  deriving DecidableEq, Repr

structure HTTPRequestTransforms where
  pathTransform : String
  headerTransforms : NameValueTransforms
  queryTransforms : NameValueTransforms
  deriving DecidableEq, Repr

structure HTTPMatch where
  pathTemplate : String
  method : String
  deriving DecidableEq, Repr

structure CorsPolicy where
  allowOrigins : List String
  allowOriginsRegexes : List String
  deriving DecidableEq, Repr

/-- `jwtAuthentications` is the unexported list the validator fills with the JWT leaves of the
operation's requirement tree. -/
structure APIOperation where
  httpMatches : List HTTPMatch
  consumerAuthorization : ConsumerAuthorization
  httpRequestTransforms : HTTPRequestTransforms
  jwtAuthentications : List JWTAuthentication
  deriving DecidableEq, Repr

structure APISpec where
  id : String
  basePath : String
  consumerAuthorization : ConsumerAuthorization
  operations : List APIOperation
  httpRequestTransforms : HTTPRequestTransforms
  cors : CorsPolicy
  jwtAuthentications : List JWTAuthentication
  deriving DecidableEq, Repr

structure EnvironmentSpec where
  apis : List APISpec
  deriving DecidableEq, Repr

/-! ## `isEmpty` -/

/-- `unicode.IsSpace`. -/
def isSpace (c : Char) : Bool :=
  if c.toNat ≤ 0xFF then
    c.toNat ∈ [0x09, 0x0A, 0x0B, 0x0C, 0x0D, 0x20, 0x85, 0xA0]
  else
    c.toNat = 0x1680 || (0x2000 ≤ c.toNat && c.toNat ≤ 0x200A) ||
      c.toNat ∈ [0x2028, 0x2029, 0x202F, 0x205F, 0x3000]

/-- `strings.TrimSpace`, on the runes of the string. -/
def trimSpace (s : String) : List Char :=
  ((s.data.dropWhile isSpace).reverse.dropWhile isSpace).reverse

def NameValueTransforms.isEmpty (u : NameValueTransforms) : Bool :=
  u.add.length == 0 && u.remove.length == 0

def HTTPRequestTransforms.isEmpty (h : HTTPRequestTransforms) : Bool :=
  h.headerTransforms.isEmpty && h.queryTransforms.isEmpty && (trimSpace h.pathTransform).length == 0

def ConsumerAuthorization.isEmpty (c : ConsumerAuthorization) : Bool :=
  !c.disabled && c.in.length == 0

theorem trimSpace_eq_nil (s : String) : trimSpace s = [] ↔ ∀ c ∈ s.data, isSpace c = true := by
  simp only [trimSpace, List.reverse_eq_nil_iff, List.dropWhile_eq_nil_iff, List.mem_reverse]
  constructor
  · intro h c hc
    rw [← List.takeWhile_append_dropWhile isSpace s.data, List.mem_append] at hc
    exact hc.elim List.mem_takeWhile_imp (h c)
  · exact fun h c hc => h c ((List.dropWhile_suffix isSpace).subset hc)

theorem HTTPRequestTransforms.isEmpty_iff (h : HTTPRequestTransforms) :
    h.isEmpty = true ↔ h.headerTransforms.add = [] ∧ h.headerTransforms.remove = [] ∧
      h.queryTransforms.add = [] ∧ h.queryTransforms.remove = [] ∧
      ∀ c ∈ h.pathTransform.data, isSpace c = true := by
  simp only [HTTPRequestTransforms.isEmpty, NameValueTransforms.isEmpty, Bool.and_eq_true, beq_iff_eq,
    List.length_eq_zero, trimSpace_eq_nil, and_assoc]

/-! ## Caches -/

section Memo

variable {β : Type} (f : String → Option β)

/-- `m[k] = b` when `f k` is `b`; nothing when `f k` is undefined. -/
def memo (m : GoMap β) (k : String) : GoMap β :=
  match f k with
  | some b => m.insert k b
  | none => m

theorem lookup_memo_ne (m : GoMap β) {k k' : String} (hk : k ≠ k') : ((memo f m k').lookup k) = m.lookup k := by
  unfold memo; split <;> simp [AList.lookup_insert_ne hk]

theorem lookup_foldl_memo (m : GoMap β) (ks : List String) (k : String) :
    (ks.foldl (memo f) m).lookup k = if k ∈ ks ∧ (f k).isSome then f k else m.lookup k := by
  induction ks generalizing m with
  | nil => simp
  | cons k' ks ih =>
    rw [List.foldl_cons, ih]
    by_cases hk : k = k'
    · subst hk; cases h : f k <;> simp [memo, h]
    · simp [lookup_memo_ne f m hk, hk]

theorem mem_foldl_memo (m : GoMap β) (ks : List String) (k : String) :
    k ∈ ks.foldl (memo f) m ↔ (k ∈ ks ∧ (f k).isSome) ∨ k ∈ m := by
  rw [← AList.lookup_isSome, ← AList.lookup_isSome, lookup_foldl_memo]
  split <;> simp_all

end Memo

section Insert

variable {β : Type}

theorem lookup_foldl_insert_of_not_mem (m : GoMap β) (kvs : List (String × β)) {k : String}
    (hk : k ∉ kvs.map Prod.fst) : (kvs.foldl (fun m kv => m.insert kv.1 kv.2) m).lookup k = m.lookup k := by
  induction kvs generalizing m with
  | nil => rfl
  | cons kv kvs ih =>
    simp only [List.map_cons, List.mem_cons, not_or] at hk
    rw [List.foldl_cons, ih _ hk.2, AList.lookup_insert_ne hk.1]

/-- With distinct keys, each key ends up with its own value. -/
theorem lookup_foldl_insert_of_mem (m : GoMap β) (kvs : List (String × β)) (hnd : (kvs.map Prod.fst).Nodup)
    {k : String} {v : β} (hk : (k, v) ∈ kvs) : (kvs.foldl (fun m kv => m.insert kv.1 kv.2) m).lookup k = some v := by
  induction kvs generalizing m with
  | nil => cases hk
  | cons kv kvs ih =>
    simp only [List.map_cons, List.nodup_cons] at hnd
    rw [List.foldl_cons]
    rcases List.mem_cons.mp hk with rfl | hk
    · rw [lookup_foldl_insert_of_not_mem _ _ hnd.1, AList.lookup_insert]
    · exact ih _ hnd.2 hk

theorem mem_foldl_insert (m : GoMap β) (kvs : List (String × β)) (k : String) :
    k ∈ kvs.foldl (fun m kv => m.insert kv.1 kv.2) m ↔ k ∈ kvs.map Prod.fst ∨ k ∈ m := by
  induction kvs generalizing m with
  | nil => simp
  | cons kv kvs ih => simp only [List.foldl_cons, ih, AList.mem_insert, List.map_cons, List.mem_cons]; tauto

end Insert

end ApigeeEnvoy.Config
