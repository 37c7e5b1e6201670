import Mathlib.Data.List.Infix

/-!
# Support — Names

The string functions the code applies to DNS names, over the characters of the string so that
they evaluate: `strings.TrimSuffix(s, ".")`, `strings.ToUpper` and zdns's
`removeTrailingDotIfNotRoot`.  The digests `ToUpper` is applied to are hexadecimal, where
ASCII case mapping is Go's.

A DNS name compared "label by label, case-insensitively" is its list of labels after ASCII
lower-casing, empty labels (the root's, the one after a final dot) dropped (`labels`);
`a` is `n` or an ancestor of `n` when `a`'s labels end `n`'s (`IsAncestorOrSelf`).
-/

namespace Zdns

/-- `strings.TrimSuffix(s, ".")`: one final dot removed. -/
def trimDotSuffix (s : String) : String :=
  if s.data.getLast? = some '.' then ⟨s.data.dropLast⟩ else s

/-- `strings.ToUpper` on the DS digests the validator compares: they are hexadecimal, where
ASCII case mapping is Go's. -/
def toUpper (s : String) : String := ⟨s.data.map Char.toUpper⟩

/-- ASCII lower-casing, for comparing names case-insensitively. -/
def toLower (s : String) : String := ⟨s.data.map Char.toLower⟩

/-- Modelled from the spec: zdns's `removeTrailingDotIfNotRoot`, the presentation form of a
name (§3): the final dot stripped, except from the root `"."`. -/
def removeTrailingDotIfNotRoot (s : String) : String :=
  if s = "." then s else trimDotSuffix s

/-- The pieces of a character list between its dots. -/
def splitDots : List Char → List (List Char)
  | [] => [[]]
  | c :: cs =>
      if c = '.' then [] :: splitDots cs
      else match splitDots cs with
        | [] => [[c]]
        | l :: ls => (c :: l) :: ls

/-- The labels of a name, lower-cased, the empty ones dropped. -/
def labels (s : String) : List (List Char) :=
  (splitDots (s.data.map Char.toLower)).filter (· ≠ [])

/-- `a` is `n` or an ancestor of `n`, label by label and case-insensitively. -/
def IsAncestorOrSelf (a n : String) : Prop := labels a <:+ labels n

instance (a n : String) : Decidable (IsAncestorOrSelf a n) :=
  inferInstanceAs (Decidable (labels a <:+ labels n))

example : IsAncestorOrSelf "Example." "www.EXAMPLE." ∧ ¬ IsAncestorOrSelf "example." "example.net" ∧
    IsAncestorOrSelf "." "example.net" := by decide

end Zdns
