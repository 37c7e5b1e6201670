import Mathlib.Data.List.Nodup

/-!
# Support — Go maps

The validator keeps its RRsets, signatures and keys in Go maps.  A `map[K]V` is modelled as
the list of its entries in first-insertion order, with distinct keys carried as a field, so
that no map with a repeated key can be built (`GoMap`).  `m[k] = v` replaces the value in
place or appends the entry (`set`); `m[k] = append(m[k], v)` is `push`.

Go's `range` visits a map in an order the runtime picks afresh.  The model takes that order
as an argument: `visit m ks` walks the entries in the order the keys `ks` list them, and when
`ks` is any permutation of the keys it is a permutation of the entries (`visit_perm`).
-/

namespace Zdns

/-- A Go `map[K]V`: its entries in first-insertion order, keys distinct. -/
structure GoMap (K V : Type) [DecidableEq K] where
  entries : List (K × V)
  nodup : (entries.map Prod.fst).Nodup

namespace GoMap
variable {K V : Type} [DecidableEq K]

theorem ext {m m' : GoMap K V} (h : m.entries = m'.entries) : m = m' := by
  cases m; cases m'; cases h; rfl

instance [DecidableEq V] : DecidableEq (GoMap K V) := fun m m' =>
  decidable_of_iff (m.entries = m'.entries) ⟨ext, fun h => h ▸ rfl⟩

/-- The keys, in first-insertion order. -/
def keys (m : GoMap K V) : List K := m.entries.map Prod.fst

/-- `make(map[K]V)`. -/
def empty : GoMap K V := ⟨[], List.nodup_nil⟩

/-- `v, ok := m[k]`. -/
def get? (m : GoMap K V) (k : K) : Option V := m.entries.lookup k

/-- `len(m)`. -/
def size (m : GoMap K V) : Nat := m.entries.length

/-- The entries after `m[k] = v`: the value under `k` replaced in place, or `(k, v)` last. -/
def setEntries (k : K) (v : V) : List (K × V) → List (K × V)
  | [] => [(k, v)]
  | (k', v') :: t => if k' = k then (k, v) :: t else (k', v') :: setEntries k v t

theorem map_fst_setEntries (k : K) (v : V) (l : List (K × V)) :
    (setEntries k v l).map Prod.fst =
      if k ∈ l.map Prod.fst then l.map Prod.fst else l.map Prod.fst ++ [k] := by
  induction l with
  | nil => simp [setEntries]
  | cons p t ih =>
      obtain ⟨k', v'⟩ := p
      by_cases hk : k' = k
      · simp [setEntries, hk]
      · have hk' : k ≠ k' := Ne.symm hk
        simp only [setEntries, hk, if_false, List.map_cons, ih, List.mem_cons, hk', false_or]
        split <;> rfl

/-- `List.lookup` on a cons, as an `if`. -/
theorem lookup_cons_eq_ite (k k' : K) (v : V) (t : List (K × V)) :
    ((k', v) :: t).lookup k = if k = k' then some v else t.lookup k := by
  by_cases h : k = k' <;> simp [List.lookup_cons, h, beq_false_of_ne]

theorem lookup_setEntries (k k' : K) (v : V) (l : List (K × V)) :
    (setEntries k v l).lookup k' = if k' = k then some v else l.lookup k' := by
  induction l with
  | nil => simp [setEntries, lookup_cons_eq_ite]
  | cons p t ih =>
      obtain ⟨k₁, v₁⟩ := p
      by_cases h₁ : k₁ = k
      · subst h₁; by_cases h : k' = k₁ <;> simp [setEntries, lookup_cons_eq_ite, h]
      · by_cases h : k' = k₁
        · subst h; simp [setEntries, lookup_cons_eq_ite, h₁]
        · simp [setEntries, lookup_cons_eq_ite, h₁, h, ih]

/-- `m[k] = v`. -/
def set (m : GoMap K V) (k : K) (v : V) : GoMap K V where
  entries := setEntries k v m.entries
  nodup := by
    rw [map_fst_setEntries]
    split
    · exact m.nodup
    · simpa using m.nodup.concat ‹_›

/-- `m[k] = append(m[k], v)`: a missing key reads as the empty slice. -/
def push (m : GoMap K (List V)) (k : K) (v : V) : GoMap K (List V) :=
  m.set k ((m.get? k).getD [] ++ [v])

/-- `for k, v := range m`, when the runtime visits the keys in the order `ks`. -/
def visit (m : GoMap K V) (ks : List K) : List (K × V) :=
  ks.filterMap fun k => (m.get? k).map (k, ·)

@[simp] theorem get?_empty (k : K) : (empty : GoMap K V).get? k = none := rfl

@[simp] theorem entries_empty : (empty : GoMap K V).entries = [] := rfl

theorem get?_set (m : GoMap K V) (k k' : K) (v : V) :
    (m.set k v).get? k' = if k' = k then some v else m.get? k' :=
  lookup_setEntries k k' v m.entries

@[simp] theorem get?_set_self (m : GoMap K V) (k : K) (v : V) : (m.set k v).get? k = some v := by
  simp [get?_set]

@[simp] theorem get?_set_ne (m : GoMap K V) {k k' : K} (v : V) (h : k' ≠ k) :
    (m.set k v).get? k' = m.get? k' := by
  simp [get?_set, h]

theorem get?_push (m : GoMap K (List V)) (k k' : K) (v : V) :
    (m.push k v).get? k' = if k' = k then some ((m.get? k).getD [] ++ [v]) else m.get? k' :=
  get?_set _ _ _ _

theorem lookup_eq_some_iff_mem {l : List (K × V)} (h : (l.map Prod.fst).Nodup) {k : K} {v : V} :
    l.lookup k = some v ↔ (k, v) ∈ l := by
  induction l with
  | nil => simp
  | cons p t ih =>
      obtain ⟨k₁, v₁⟩ := p
      rw [List.map_cons, List.nodup_cons] at h
      by_cases hk : k = k₁
      · subst hk
        have hv : ∀ w, (k, w) ∉ t := fun w hw => h.1 (List.mem_map.mpr ⟨_, hw, rfl⟩)
        simp [lookup_cons_eq_ite, hv, eq_comm]
      · simp [lookup_cons_eq_ite, hk, ih h.2]

/-- With distinct keys, `m[k]` finds `v` exactly when `(k, v)` is an entry. -/
theorem get?_eq_some_iff (m : GoMap K V) {k : K} {v : V} : m.get? k = some v ↔ (k, v) ∈ m.entries :=
  lookup_eq_some_iff_mem m.nodup

theorem get?_eq_none_iff (m : GoMap K V) {k : K} : m.get? k = none ↔ k ∉ m.keys := by
  simp only [get?, keys, List.lookup_eq_none_iff, List.mem_map, bne_iff_ne, ne_eq, not_exists,
    not_and]
  exact ⟨fun h p hp e => h p hp e.symm, fun h p hp e => h p hp e.symm⟩

theorem size_eq_zero_iff (m : GoMap K V) : m.size = 0 ↔ ∀ k, m.get? k = none := by
  refine ⟨fun h k => by simp [get?, List.eq_nil_of_length_eq_zero h], fun h => ?_⟩
  cases hm : m.entries with
  | nil => simp [size, hm]
  | cons p t => simpa [get?, hm] using h p.1

theorem visit_keys (m : GoMap K V) : m.visit m.keys = m.entries := by
  unfold visit keys
  rw [List.filterMap_map]
  calc m.entries.filterMap _ = m.entries.filterMap some :=
        List.filterMap_congr fun p hp => by
          simp [(m.get?_eq_some_iff).mpr (show (p.1, p.2) ∈ m.entries from hp)]
    _ = m.entries := List.filterMap_some _

/-- Whatever order the runtime picks, `range` visits every entry once. -/
theorem visit_perm (m : GoMap K V) {ks : List K} (h : ks.Perm m.keys) :
    (m.visit ks).Perm m.entries :=
  m.visit_keys ▸ h.filterMap _

end GoMap

/-- A slice as a map of appends holds it: an empty one is absent. -/
def nonNil {α : Type} : List α → Option (List α)
  | [] => none
  | l@(_ :: _) => some l

@[simp] theorem nonNil_getD {α : Type} (l : List α) : (nonNil l).getD [] = l := by
  cases l <;> rfl

@[simp] theorem nonNil_append_singleton {α : Type} (l : List α) (a : α) :
    nonNil (l ++ [a]) = some (l ++ [a]) := by
  cases l <;> rfl

theorem nonNil_eq_none {α : Type} {l : List α} : nonNil l = none ↔ l = [] := by
  cases l <;> simp [nonNil]

theorem eq_of_nonNil_eq_some {α : Type} {l l' : List α} (h : nonNil l = some l') : l = l' := by
  cases l <;> simp_all [nonNil]

/-- One append to a map of slices adds one element to the slices' concatenation, wherever the
slice it lands in stands. -/
theorem GoMap.flatMap_push_perm {K V : Type} [DecidableEq K] (m : GoMap K (List V)) (k : K) (v : V) :
    ((m.push k v).entries.flatMap Prod.snd).Perm (m.entries.flatMap Prod.snd ++ [v]) := by
  show ((GoMap.setEntries k ((m.entries.lookup k).getD [] ++ [v]) m.entries).flatMap Prod.snd).Perm _
  induction m.entries with
  | nil => simp [GoMap.setEntries]
  | cons p t ih =>
      obtain ⟨k', v'⟩ := p
      by_cases hk : k' = k
      · subst hk
        simpa [GoMap.setEntries, GoMap.lookup_cons_eq_ite] using
          (List.perm_append_comm : ([v] ++ t.flatMap Prod.snd).Perm _).append_left v'
      · simpa [GoMap.setEntries, GoMap.lookup_cons_eq_ite, hk, Ne.symm hk] using ih.append_left v'

/-- One append, read back through `nonNil`. -/
theorem GoMap.get?_push_nonNil {K V : Type} [DecidableEq K] {m : GoMap K (List V)} {k : K}
    {X : List V} (h : m.get? k = nonNil X) (k' : K) (v : V) :
    (m.push k' v).get? k = nonNil (X ++ if k = k' then [v] else []) := by
  rw [GoMap.get?_push]
  by_cases hk : k = k'
  · subst hk; simp [h]
  · simp [hk, h]

end Zdns
