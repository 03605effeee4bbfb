import FluxPkg.Platform.Strings

/-!
# Object references

The model of `apis/meta/reference_types.go`. A namespaced reference prints as
`<namespace>/<name>`, or as its bare name when it has no namespace, and a values reference
reads its data key with the default `values.yaml`.

The printed form identifies the reference: for a namespace and a name without a slash,
splitting it on `'/'` gives back the namespace and the name, so two such references print
alike only when they are equal.
-/

namespace FluxPkg.Apis.Meta

open Platform

/-- `NamespacedObjectReference`. -/
structure NamespacedObjectReference where
  name : String
  «namespace» : String
  deriving DecidableEq, Repr

/-- `(NamespacedObjectReference).String`. -/
def NamespacedObjectReference.string (ref : NamespacedObjectReference) : String :=
  if ref.namespace != "" then ref.namespace ++ "/" ++ ref.name else ref.name

/-- `ValuesReference`: the field `GetValuesKey` reads. -/
structure ValuesReference where
  valuesKey : String
  deriving DecidableEq, Repr

/-- `(ValuesReference).GetValuesKey`. -/
def ValuesReference.getValuesKey (ref : ValuesReference) : String :=
  if ref.valuesKey == "" then "values.yaml" else ref.valuesKey

/-! ## The printed reference -/

/-- Splitting a printed reference on `'/'` gives its name, preceded by its namespace when
it has one. -/
theorem split_string {ref : NamespacedObjectReference}
    (plain : '/' ∉ ref.namespace.data ∧ '/' ∉ ref.name.data) :
    Strings.split ref.string '/' =
      if ref.namespace = "" then [ref.name] else [ref.namespace, ref.name] := by
  by_cases unnamespaced : ref.namespace = ""
  · simp [NamespacedObjectReference.string, unnamespaced, Strings.split_of_not_mem plain.2]
  · simp only [NamespacedObjectReference.string, unnamespaced, bne_iff_ne, ne_eq, not_false_eq_true,
      if_true, if_false, show ("/" : String) = String.singleton '/' from rfl,
      Strings.split_append_sep, Strings.split_of_not_mem plain.1, Strings.split_of_not_mem plain.2]
    rfl

/-- References whose namespace and name hold no slash print alike only when they are
equal. -/
theorem string_eq_iff {ref other : NamespacedObjectReference}
    (plain : '/' ∉ ref.namespace.data ∧ '/' ∉ ref.name.data)
    (otherPlain : '/' ∉ other.namespace.data ∧ '/' ∉ other.name.data) :
    ref.string = other.string ↔ ref = other := by
  refine ⟨fun printed => ?_, congrArg _⟩
  have pieces := congrArg (Strings.split · '/') printed
  simp only [split_string plain, split_string otherPlain] at pieces
  obtain ⟨name, «namespace»⟩ := ref
  obtain ⟨otherName, otherNamespace⟩ := other
  by_cases unnamespaced : «namespace» = "" <;> by_cases otherUnnamespaced : otherNamespace = "" <;>
    simp_all

/-- `flux-system/podinfo` and the bare `podinfo` are told apart. -/
theorem string_eq_iff_podinfo :
    ('/' ∉ ("flux-system" : String).data ∧ '/' ∉ ("podinfo" : String).data) ∧
      ('/' ∉ ("" : String).data ∧ '/' ∉ ("podinfo" : String).data) ∧
      (NamespacedObjectReference.string ⟨"podinfo", "flux-system"⟩ =
          NamespacedObjectReference.string ⟨"podinfo", ""⟩ ↔
        (⟨"podinfo", "flux-system"⟩ : NamespacedObjectReference) = ⟨"podinfo", ""⟩) :=
  ⟨by decide, by decide, string_eq_iff (by decide) (by decide)⟩

end FluxPkg.Apis.Meta
