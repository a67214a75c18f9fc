/-
  ApigeeEnvoy.Config.Requirement — authentication requirement trees (`AuthenticationRequirement`:
  a `Disabled` flag and one of `JWTAuthentication`, `AnyAuthenticationRequirements`,
  `AllAuthenticationRequirements`, or no requirement at all) and their emptiness.

  `isEmpty` walks the tree: a JWT leaf is not empty, an any/all node is empty iff every child
  is (the same loop for both), a node with no requirement is empty. The exported `IsEmpty`
  adds that a disabled requirement is never empty.

  Proved, over trees of any depth and branching (`isEmpty_iff_no_jwt`):
  - `isEmpty r` iff no JWT leaf occurs anywhere in `r` (`JWTOccurs`, which ignores every
    `Disabled` flag), by mutual structural induction over the node and its child list;
  - `r.IsEmpty` iff `r` is not disabled and no JWT leaf occurs in it.
-/

import ApigeeEnvoy.Config.Spec

namespace ApigeeEnvoy.Config

mutual
inductive AuthenticationRequirement where
  | mk (disabled : Bool) (requirements : AuthenticationRequirements)
/-- The `AuthenticationRequirements` interface; `none` is the nil interface. -/
inductive AuthenticationRequirements where
  | none
  | jwt (j : JWTAuthentication)
  | any (rs : List AuthenticationRequirement)
  | all (rs : List AuthenticationRequirement)
end

def AuthenticationRequirement.disabled : AuthenticationRequirement → Bool
  | .mk d _ => d

mutual
def isEmpty : AuthenticationRequirement → Bool
  | .mk _ .none => true
  | .mk _ (.jwt _) => false
  | .mk _ (.any rs) => allEmpty rs
  | .mk _ (.all rs) => allEmpty rs
/-- `for _, r := range rs { if !isEmpty(r) { return false } }`, then `return true`. -/
def allEmpty : List AuthenticationRequirement → Bool
  | [] => true
  | r :: rs => if !isEmpty r then false else allEmpty rs
end

/-- `IsEmpty` (exported; `isEmpty` is the package's recursive helper). -/
def AuthenticationRequirement.IsEmpty (a : AuthenticationRequirement) : Bool :=
  !a.disabled && isEmpty a

/-- A JWT leaf occurs somewhere in the tree, whatever the `Disabled` flags on the way. -/
inductive JWTOccurs : AuthenticationRequirement → Prop
  | jwt (d : Bool) (j : JWTAuthentication) : JWTOccurs (.mk d (.jwt j))
  | any (d : Bool) {rs : List AuthenticationRequirement} {r : AuthenticationRequirement} :
      r ∈ rs → JWTOccurs r → JWTOccurs (.mk d (.any rs))
  | all (d : Bool) {rs : List AuthenticationRequirement} {r : AuthenticationRequirement} :
      r ∈ rs → JWTOccurs r → JWTOccurs (.mk d (.all rs))

theorem not_jwtOccurs_none (d : Bool) : ¬ JWTOccurs (.mk d .none) := nofun

theorem jwtOccurs_any_iff (d : Bool) (rs : List AuthenticationRequirement) :
    JWTOccurs (.mk d (.any rs)) ↔ ∃ r ∈ rs, JWTOccurs r :=
  ⟨fun | .any _ hr h => ⟨_, hr, h⟩, fun ⟨_, hr, h⟩ => .any d hr h⟩

theorem jwtOccurs_all_iff (d : Bool) (rs : List AuthenticationRequirement) :
    JWTOccurs (.mk d (.all rs)) ↔ ∃ r ∈ rs, JWTOccurs r :=
  ⟨fun | .all _ hr h => ⟨_, hr, h⟩, fun ⟨_, hr, h⟩ => .all d hr h⟩

mutual
theorem isEmpty_iff : ∀ r : AuthenticationRequirement, isEmpty r = true ↔ ¬ JWTOccurs r
  | .mk d .none => by simp [isEmpty, not_jwtOccurs_none]
  | .mk d (.jwt j) => by simp [isEmpty, JWTOccurs.jwt]
  | .mk d (.any rs) => by simp [isEmpty, allEmpty_iff rs, jwtOccurs_any_iff]
  | .mk d (.all rs) => by simp [isEmpty, allEmpty_iff rs, jwtOccurs_all_iff]
theorem allEmpty_iff : ∀ rs : List AuthenticationRequirement,
    allEmpty rs = true ↔ ∀ r ∈ rs, ¬ JWTOccurs r
  | [] => by simp [allEmpty]
  | r :: rs => by
    have hr := isEmpty_iff r
    have hrs := allEmpty_iff rs
    by_cases h : isEmpty r = true <;> simp_all [allEmpty]
end

theorem isEmpty_iff_no_jwt (r : AuthenticationRequirement) :
    (isEmpty r = true ↔ ¬ JWTOccurs r) ∧ (r.IsEmpty = true ↔ r.disabled = false ∧ ¬ JWTOccurs r) := by
  refine ⟨isEmpty_iff r, ?_⟩
  simp [AuthenticationRequirement.IsEmpty, isEmpty_iff r]

/-- The test's "nested jwt" tree: a JWT under an any under an all is not empty. -/
example : (AuthenticationRequirement.mk false (.all [.mk false (.any [.mk false .none,
    .mk false (.jwt ⟨[]⟩)])])).IsEmpty = false := by decide

end ApigeeEnvoy.Config
