import StructuredText.Proofs.Registry.LookUp

/-!
# Registering under a name that stands for nothing

A name is looked up in several spellings: in lower case, as the alias that it may be, and as a name
of a domain. What is registered under one name is therefore found under others too, and might come
before what those stood for. Where a name stands for nothing, nothing it is looked up as stands for
anything, so that a registration under it takes the place of nothing (`extends_registerDirective`,
`extends_registerRole`).

Two facts about the aliases are needed: what an alias stands for is no alias itself, and no alias
looks like a name of a domain (`isDirect_directiveAlias?`, `isDirect_roleAlias?`).
-/

namespace StructuredText

/-! ## Aliases -/

theorem mem_of_aliasIn {name canonical : Text} {aliases : List (Text × Text)}
    (h : aliasIn name aliases = some canonical) : (name, canonical) ∈ aliases := by
  induction aliases with
  | nil => cases h
  | cons e rest ih =>
    rw [aliasIn] at h
    split at h
    · next heq =>
      cases h
      rw [← heq]
      exact List.mem_cons_self ..
    · exact List.mem_cons_of_mem _ (ih h)

/-- Whether an alias stands for a name that is no alias, and looks like no name of a domain. -/
def IsDirect (alias? : Text → Option Text) : Prop :=
  ∀ name canonical, alias? name = some canonical →
    alias? canonical = none ∧ splitColon? name = none

theorem isDirect_directiveAlias? : IsDirect directiveAlias? := by
  have hall : ∀ e ∈ directiveAliases, directiveAlias? e.2 = none ∧ splitColon? e.1 = none := by
    decide
  exact fun name canonical h => hall (name, canonical) (mem_of_aliasIn h)

theorem isDirect_roleAlias? : IsDirect roleAlias? := by
  have hall : ∀ e ∈ roleAliases, roleAlias? e.2 = none ∧ splitColon? e.1 = none := by decide
  exact fun name canonical h => hall (name, canonical) (mem_of_aliasIn h)

namespace Registry

/-! ## One look-up -/

section LookUp

variable {α : Type} {registered base : NameTable α} {alias? : Text → Option Text}
  {ofDomain : Text → Text → Option α} {name m : Text} {x : α}

theorem lookUp_congr (h : lowercase m = lowercase name) :
    lookUp registered base alias? ofDomain m = lookUp registered base alias? ofDomain name := by
  unfold lookUp
  rw [h]

/-- None of the places knows a name that stands for nothing. -/
theorem find?_of_lookUp_eq_none (h : lookUp registered base alias? ofDomain name = none) :
    registered.find? (lowercase name) = none ∧ base.find? (canonicalName alias? name) = none := by
  unfold lookUp at h
  obtain ⟨hname, h⟩ := Option.or_eq_none_iff.1 h
  obtain ⟨-, h⟩ := Option.or_eq_none_iff.1 h
  exact ⟨hname, (Option.or_eq_none_iff.1 h).1⟩

/-- A name that is looked up under another spelling is an alias of it. -/
theorem alias?_of_canonicalName_eq {k : Text} (hne : lowercase m ≠ k)
    (h : canonicalName alias? m = k) : alias? (lowercase m) = some k := by
  unfold canonicalName at h
  cases halias : alias? (lowercase m) with
  | none =>
    rw [halias] at h
    exact absurd h hne
  | some canonical =>
    rw [halias] at h
    exact congrArg some h

/-- **An insertion under a name that stands for nothing hides nothing.** -/
theorem lookUp_insert (halias : IsDirect alias?)
    (hnone : lookUp registered base alias? ofDomain name = none) (y : α)
    (h : lookUp registered base alias? ofDomain m = some x) :
    lookUp (registered.insert (lowercase name) y) base alias? ofDomain m = some x := by
  obtain ⟨hname, hbase⟩ := find?_of_lookUp_eq_none hnone
  have hm : lowercase m ≠ lowercase name := by
    intro heq
    rw [lookUp_congr heq, hnone] at h
    cases h
  have hkept : ∀ k, k ≠ lowercase name →
      (registered.insert (lowercase name) y).find? k = registered.find? k := by
    intro k hk
    rw [NameTable.find?_insert, if_neg hk]
  -- In the two last places, the name that is inserted might be the one that `m` is an alias of.
  refine lookUp_eq_some_iff.2 ?_
  cases lookUp_eq_some_iff.1 h with
  | registered hx =>
    rw [← hkept _ hm] at hx
    exact .registered hx
  | canonical hmname hx =>
    have hcanonical : canonicalName alias? m ≠ lowercase name := by
      intro heq
      rw [heq, hname] at hx
      cases hx
    rw [← hkept _ hm] at hmname
    rw [← hkept _ hcanonical] at hx
    exact .canonical hmname hx
  | grammar hmname hmcanonical hx =>
    have hcanonical : canonicalName alias? m ≠ lowercase name := by
      intro heq
      have htarget := (halias _ _ (alias?_of_canonicalName_eq hm heq)).1
      rw [canonicalName, htarget, Option.getD_none, ← heq, hx] at hbase
      cases hbase
    rw [← hkept _ hm] at hmname
    rw [← hkept _ hcanonical] at hmcanonical
    exact .grammar hmname hmcanonical hx
  | domain hmname hmcanonical hmbase hsplit hx =>
    have hcanonical : canonicalName alias? m ≠ lowercase name := by
      intro heq
      rw [(halias _ _ (alias?_of_canonicalName_eq hm heq)).2] at hsplit
      cases hsplit
    rw [← hkept _ hm] at hmname
    rw [← hkept _ hcanonical] at hmcanonical
    exact .domain hmname hmcanonical hmbase hsplit hx

end LookUp

/-! ## Registries -/

/-- Whether what a name stands for in a registry is what it stands for in another one. -/
structure Extends (r r' : Registry) : Prop where
  directive? : ∀ name d, r.directive? name = some d → r'.directive? name = some d
  role? : ∀ name role, r.role? name = some role → r'.role? name = some role

theorem extends_registerDirective {r : Registry} {name : Text} (h : r.directive? name = none)
    (d : Directive) : r.Extends (r.registerDirective name d) where
  directive? _ _ hm := lookUp_insert isDirect_directiveAlias? h d hm
  role? _ _ hm := hm

theorem extends_registerRole {r : Registry} {name : Text} (h : r.role? name = none) (role : Role) :
    r.Extends (r.registerRole name role) where
  directive? _ _ hm := hm
  role? _ _ hm := lookUp_insert isDirect_roleAlias? h role hm

end Registry

end StructuredText
