import StructuredText.Inline.Assembly
import StructuredText.Proofs.Except
import StructuredText.Proofs.Registry.LookUp

/-!
# The library's own roles

A caller's own role may return any nodes and may look at the line it stands on. The library's roles
do neither: each makes one node, which keeps the text of the whole construct (`run_eq_ok`), and none
looks at its line (`run_line`).
-/

namespace StructuredText

namespace Inline

/-- The text of the whole construct, for the nodes that keep it. -/
def rawtext? : Inline → Option Text
  | element _ _ rawtext => some rawtext
  | role _ rawtext _ => some rawtext
  | crossReference rawtext _ _ _ _ => some rawtext
  | _ => none

end Inline

namespace Role

/-- Whether a role is one of the library's own. -/
def IsNative : Role → Prop
  | custom .. => False
  | _ => True

instance (role : Role) : Decidable role.IsNative :=
  match role with
  | custom .. => .isFalse id
  | element .. => .isTrue trivial
  | generic => .isTrue trivial
  | reference => .isTrue trivial

/-- A native role makes one node, and it keeps the text of the construct. -/
theorem run_eq_ok {role : Role} (hr : role.IsNative) {i : Interpreted} {nodes : List Inline}
    (h : role.run i = .ok nodes) : ∃ node, nodes = [node] ∧ node.rawtext? = some i.rawtext := by
  cases role with
  | element tag content =>
    simp only [run] at h
    split at h
    · cases h; exact ⟨_, rfl, rfl⟩
    · cases h
  | generic => cases h; exact ⟨_, rfl, rfl⟩
  | reference =>
    cases h
    refine ⟨_, rfl, ?_⟩
    unfold keptReference
    dsimp only
    split <;> rfl
  | custom kind run => exact absurd hr id

/-- A native role does not look at the line it stands on. -/
theorem run_line {role : Role} (hr : role.IsNative) (i : Interpreted) (line : Nat) :
    role.run { i with line } = role.run i := by
  cases role with
  | element tag content => cases content <;> rfl
  | generic => rfl
  | reference => rfl
  | custom kind run => exact absurd hr id

end Role

namespace Registry

/-- Whether all roles of a registry are the library's own. -/
def NativeRoles (r : Registry) : Prop := ∀ name role, r.role? name = some role → role.IsNative

/-- A look-up only finds what stands in one of the tables. -/
theorem nativeRoles_of_entries {r : Registry}
    (hroles : ∀ e ∈ r.roles.entries, e.2.IsNative)
    (hbase : ∀ e ∈ r.baseRoles.entries, e.2.IsNative)
    (hdomains : ∀ d ∈ r.domains.entries, ∀ e ∈ d.2.roles.entries, e.2.IsNative) :
    r.NativeRoles := by
  intro name role h
  exact of_role? hroles hbase hdomains h

/-- What native roles make of interpreted text is one node that keeps the text. -/
theorem NativeRoles.interpret_eq_ok {r : Registry} (hr : r.NativeRoles) {i : Interpreted}
    {nodes : List Inline} (h : interpret r i = .ok nodes) :
    ∃ node, nodes = [node] ∧ node.rawtext? = some i.rawtext := by
  unfold interpret at h
  split at h
  · cases h
  · next role hrole => exact Role.run_eq_ok (hr _ _ hrole) (Except.mapError_eq_ok_iff.1 h)

/-- What native roles make of interpreted text is the same on every line. -/
theorem NativeRoles.interpret_line {r : Registry} (hr : r.NativeRoles) {i : Interpreted}
    {nodes : List Inline} (h : interpret r i = .ok nodes) (line : Nat) :
    interpret r { i with line } = .ok nodes := by
  unfold interpret at h ⊢
  dsimp only
  split at h
  · cases h
  · next role hrole =>
    rw [Role.run_line (hr _ _ hrole), Except.mapError_eq_ok_iff]
    exact Except.mapError_eq_ok_iff.1 h

theorem nativeRoles_withBaseGrammar : withBaseGrammar.NativeRoles := by
  refine nativeRoles_of_entries (fun e he => ?_) (by decide) (fun d hd => ?_)
  · cases he
  · cases hd

end Registry

end StructuredText
