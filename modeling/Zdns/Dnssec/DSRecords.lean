import Zdns.Dnssec.Validator

/-!
# DNSSEC — DS matching

What `validateDSRecords` keeps.  The loop over the KSKs (`matchKSKs`) is, when it does not
panic, a pure fold: it keeps the KSKs that have a `matchedDS` — the DS of their tag names a
digest type, `ToDS` yields the KSK's own DS for it, and the digests agree up to case — and
records those DS in `v.ds` (`matchKSKs_run`).  It panics exactly when `ToDS` yields nothing
for some KSK under the DS of its tag (`matchKSKs_eq_none_iff`).

* `validateDSRecords_spec`: the whole function, case by case: the root anchors for the root
  zone; otherwise one DS sub-lookup, whose answer is folded into a map by tag
  (`collectDS_get?`: the last DS of the answer under each tag, whatever its owner), and used
  when it passes the check, a nil `DNSSECResult` included; it panics only in the KSK loop
  (`validateDSRecords_eq_none`).
* `validateDSRecords_retains_matched`: for a map keyed by its KSKs' tags, as `getDNSKEYs`
  builds it, the KSKs returned are exactly those with a `matchedDS`, the function fails iff
  there is none, and `v.ds` gains exactly their DS.
* `validateDSRecords_order_dependent`: the DS answer is a map by tag, so a second DS under the
  same tag hides the first, and whether a KSK is kept depends on the answer's order.
* `validateDSRecords_panics`: a DS under a KSK's tag with a digest type `ToDS` lacks crashes
  the validator.
-/

namespace Zdns

section
variable (env : Env)

/-- The DS `matchKSKs` computes for `k` against `dsRecords` and records, when it keeps `k`. -/
def matchedDS (dsRecords : GoMap UInt16 DS) (k : DNSKEY) : Option DS :=
  (dsRecords.get? (env.prims.keyTag k)).bind fun authenticDS =>
    (env.prims.toDS k authenticDS.digestType).bind fun actualDS =>
      if toUpper actualDS.digest = toUpper authenticDS.digest then some actualDS else none

/-- `ToDS` yields nothing for `k` under the DS of `k`'s tag: reading its digest panics. -/
def ToDSFails (dsRecords : GoMap UInt16 DS) (k : DNSKEY) : Prop :=
  ∃ authenticDS, dsRecords.get? (env.prims.keyTag k) = some authenticDS ∧
    env.prims.toDS k authenticDS.digestType = none

/-- The map `matchKSKs` returns: the KSKs of `l` that have a `matchedDS`, set under their tags. -/
def keepMatched (dsRecords : GoMap UInt16 DS) (l : List (UInt16 × DNSKEY))
    (validatedKSKs : GoMap UInt16 DNSKEY) : GoMap UInt16 DNSKEY :=
  l.foldl (fun m e => if (matchedDS env dsRecords e.2).isSome then m.set (env.prims.keyTag e.2) e.2
    else m) validatedKSKs

/-- The DS records `matchKSKs` records, in order. -/
def matchedDSs (dsRecords : GoMap UInt16 DS) (l : List (UInt16 × DNSKEY)) : List DS :=
  l.filterMap fun e => matchedDS env dsRecords e.2

/-- Each KSK of `M` is filed under its own tag, as `getDNSKEYs` files them. -/
def TagKeyed (M : GoMap UInt16 DNSKEY) : Prop := ∀ t k, M.get? t = some k → env.prims.keyTag k = t

end

/-- A Go set after `ds[d] = true` for each `d` of `xs` in turn. -/
def insertAll (xs ds : List DS) : List DS := xs.foldl (fun ds d => ds.insert d) ds

theorem mem_insertAll {xs ds : List DS} {d : DS} : d ∈ insertAll xs ds ↔ d ∈ ds ∨ d ∈ xs := by
  induction xs generalizing ds with
  | nil => simp [insertAll]
  | cons x xs ih =>
      simp only [insertAll, List.foldl_cons] at ih ⊢
      rw [ih, List.mem_insert_iff, List.mem_cons, @or_comm (d = x), or_assoc]

/-! ### The matching loop -/

section Matching
variable {env : Env} {D : GoMap UInt16 DS}

/-- One turn of the loop: it panics exactly on a KSK whose `ToDS` fails, and otherwise records the
KSK's `matchedDS`, if it has one, and keeps the KSK. -/
theorem matchKSKs_cons_run (e : UInt16 × DNSKEY) (rest : List (UInt16 × DNSKEY))
    (V : GoMap UInt16 DNSKEY) (s : DNSSECValidator) :
    (ToDSFails env D e.2 ∧ (matchKSKs env D (e :: rest) V).run s = none) ∨
    (¬ ToDSFails env D e.2 ∧ (matchKSKs env D (e :: rest) V).run s =
      (matchedDS env D e.2).elim ((matchKSKs env D rest V).run s) fun ad =>
        (matchKSKs env D rest (V.set (env.prims.keyTag e.2) e.2)).run { s with ds := s.ds.insert ad }) := by
  obtain ⟨t, k⟩ := e
  cases hd : D.get? (env.prims.keyTag k) with
  | none => exact .inr ⟨by simp [ToDSFails, hd], by simp only [matchKSKs, matchedDS, hd]; rfl⟩
  | some a =>
      cases ht : env.prims.toDS k a.digestType with
      | none => exact .inl ⟨⟨a, hd, ht⟩, by simp only [matchKSKs, hd, ht]; rfl⟩
      | some ad =>
          refine .inr ⟨by simp [ToDSFails, hd, ht], ?_⟩
          by_cases hu : toUpper ad.digest = toUpper a.digest <;>
            simp [matchKSKs, matchedDS, hd, ht, hu, StateT.run_bind]

theorem matchKSKs_eq_none_iff {l : List (UInt16 × DNSKEY)} {V : GoMap UInt16 DNSKEY}
    {s : DNSSECValidator} :
    (matchKSKs env D l V).run s = none ↔ ∃ e ∈ l, ToDSFails env D e.2 := by
  induction l generalizing V s with
  | nil => simp [matchKSKs]
  | cons e rest ih =>
      simp only [List.mem_cons, exists_eq_or_imp]
      rcases matchKSKs_cons_run e rest V s with ⟨hf, h⟩ | ⟨hf, h⟩
      · exact iff_of_true h (.inl hf)
      · rw [h, or_iff_right hf]
        cases matchedDS env D e.2 <;> exact ih

/-- Without a panic, the loop is the pure fold `keepMatched`, recording `matchedDSs`. -/
theorem matchKSKs_run {l : List (UInt16 × DNSKEY)} {V : GoMap UInt16 DNSKEY} {s : DNSSECValidator}
    (hl : ∀ e ∈ l, ¬ ToDSFails env D e.2) :
    (matchKSKs env D l V).run s =
      some (keepMatched env D l V, { s with ds := insertAll (matchedDSs env D l) s.ds }) := by
  induction l generalizing V s with
  | nil => simp [matchKSKs, keepMatched, matchedDSs, insertAll]
  | cons e rest ih =>
      have hrest : ∀ e ∈ rest, ¬ ToDSFails env D e.2 := fun e he => hl e (List.mem_cons_of_mem _ he)
      rcases matchKSKs_cons_run e rest V s with ⟨hf, -⟩ | ⟨-, h⟩
      · exact absurd hf (hl e (List.mem_cons_self _ _))
      · rw [h]
        cases hm : matchedDS env D e.2 <;>
          simp [keepMatched, matchedDSs, insertAll, hm, ih hrest]

theorem matchKSKs_eq_some {l : List (UInt16 × DNSKEY)} {V out : GoMap UInt16 DNSKEY}
    {s s' : DNSSECValidator} (h : (matchKSKs env D l V).run s = some (out, s')) :
    out = keepMatched env D l V ∧ s' = { s with ds := insertAll (matchedDSs env D l) s.ds } := by
  have hl : ∀ e ∈ l, ¬ ToDSFails env D e.2 := fun e he hf =>
    Option.some_ne_none _ (h.symm.trans (matchKSKs_eq_none_iff.mpr ⟨e, he, hf⟩))
  simpa [matchKSKs_run hl] using h.symm

theorem keepMatched_cons (e : UInt16 × DNSKEY) (rest : List (UInt16 × DNSKEY)) (V : GoMap UInt16 DNSKEY) :
    keepMatched env D (e :: rest) V = keepMatched env D rest
      (if (matchedDS env D e.2).isSome then V.set (env.prims.keyTag e.2) e.2 else V) := rfl

/-- A KSK the fold keeps is one of `l`'s, has a `matchedDS`, and is filed under its tag. -/
theorem keepMatched_get?_eq_some {l : List (UInt16 × DNSKEY)} {V : GoMap UInt16 DNSKEY}
    {t : UInt16} {k : DNSKEY} (h : (keepMatched env D l V).get? t = some k) :
    V.get? t = some k ∨ ((∃ e ∈ l, e.2 = k) ∧ (matchedDS env D k).isSome ∧ env.prims.keyTag k = t) := by
  induction l generalizing V with
  | nil => exact .inl h
  | cons e rest ih =>
      rcases ih h with h' | ⟨⟨e', he', rfl⟩, hm, ht⟩
      · by_cases hm : (matchedDS env D e.2).isSome
        · simp only [hm, if_true, GoMap.get?_set] at h'
          split at h'
          · next ht => cases h'; exact .inr ⟨⟨e, List.mem_cons_self _ _, rfl⟩, hm, ht.symm⟩
          · exact .inl h'
        · simp only [hm] at h'; exact .inl h'
      · exact .inr ⟨⟨e', List.mem_cons_of_mem _ he', rfl⟩, hm, ht⟩

/-- The fold loses no key of `V` and files every KSK of `l` that has a `matchedDS`. -/
theorem keepMatched_get?_isSome {l : List (UInt16 × DNSKEY)} {V : GoMap UInt16 DNSKEY} {t : UInt16}
    (h : (V.get? t).isSome ∨ ∃ e ∈ l, (matchedDS env D e.2).isSome ∧ env.prims.keyTag e.2 = t) :
    ((keepMatched env D l V).get? t).isSome := by
  induction l generalizing V with
  | nil => simpa using h
  | cons e rest ih =>
      rw [keepMatched_cons]
      apply ih
      rcases h with h | ⟨e', he', hme, rfl⟩
      · refine .inl ?_
        split
        · rw [GoMap.get?_set]; split <;> simp [h]
        · exact h
      · rcases List.mem_cons.mp he' with rfl | he'
        · simp [hme]
        · exact .inr ⟨e', he', hme, rfl⟩

/-- The fold over a tag-keyed map, from empty: exactly the KSKs with a `matchedDS`. -/
theorem keepMatched_get?_iff {M : GoMap UInt16 DNSKEY} (hM : TagKeyed env M) {t : UInt16}
    {k : DNSKEY} :
    (keepMatched env D M.entries GoMap.empty).get? t = some k ↔
      M.get? t = some k ∧ (matchedDS env D k).isSome := by
  have fwd : ∀ {k}, (keepMatched env D M.entries GoMap.empty).get? t = some k →
      M.get? t = some k ∧ (matchedDS env D k).isSome := by
    intro k h
    rcases keepMatched_get?_eq_some h with h | ⟨⟨e, he, rfl⟩, hm, rfl⟩
    · simp at h
    · refine ⟨?_, hm⟩
      have ht := hM e.1 e.2 ((M.get?_eq_some_iff).mpr he)
      rw [GoMap.get?_eq_some_iff, ht]
      exact he
  refine ⟨fwd, fun ⟨hk, hm⟩ => ?_⟩
  have hs : ((keepMatched env D M.entries GoMap.empty).get? t).isSome :=
    keepMatched_get?_isSome (.inr ⟨(t, k), (M.get?_eq_some_iff).mp hk, hm, hM t k hk⟩)
  obtain ⟨k', hk'⟩ := Option.isSome_iff_exists.mp hs
  obtain ⟨h', -⟩ := fwd hk'
  rw [hk', Option.some.inj (h'.symm.trans hk)]

end Matching

/-! ### `validateDSRecords` -/

section
variable (env : Env)

/-- What matching `M`'s KSKs against `D` leaves: `v.ds` with the matched DS records, and the
KSKs kept, or the error when none is. -/
def KSKOutcome (D : GoMap UInt16 DS) (M : GoMap UInt16 DNSKEY) (s s' : DNSSECValidator)
    (out : Option (GoMap UInt16 DNSKEY)) (err : Option Err) : Prop :=
  s'.ds = insertAll (matchedDSs env D M.entries) s.ds ∧
  ((out = none ∧ err = some .noValidKSK ∧ ∀ e ∈ M.entries, matchedDS env D e.2 = none) ∨
   (out = some (keepMatched env D M.entries GoMap.empty) ∧ err = none ∧
     ∃ e ∈ M.entries, (matchedDS env D e.2).isSome))

/-- `D` is what `validateDSRecords Z` matches against, given the sub-lookups `calls`: the root
anchors for the root zone, otherwise the folded answer of a DS sub-lookup for `Z` that passed. -/
def DSSource (calls : List Call) (Z : String) (D : GoMap UInt16 DS) : Prop :=
  (Z = rootZone ∧ D = env.rootAnchors) ∨
  (Z ≠ rootZone ∧ ∃ c ∈ calls, c.question = dsQuestion Z ∧ c.result.failed = false ∧
    D = collectDS c.result.res.answers GoMap.empty)

end

theorem DSSource.mono {env : Env} {calls calls' : List Call} {Z : String} {D : GoMap UInt16 DS}
    (h : DSSource env calls Z D) (hc : ∀ c ∈ calls, c ∈ calls') : DSSource env calls' Z D := by
  rcases h with h | ⟨hZ, c, hmem, hq⟩
  exacts [.inl h, .inr ⟨hZ, c, hc c hmem, hq⟩]

section Spec
variable {env : Env} {D : GoMap UInt16 DS} {M : GoMap UInt16 DNSKEY} {t t' : Trace}
  {s s' : DNSSECValidator} {out : Option (GoMap UInt16 DNSKEY)} {err : Option Err}

theorem validateKSKs_spec (h : (validateKSKs env D M t).run s = some ((out, t', err), s')) :
    t' = t ∧ s'.calls = s.calls ∧ s'.dNSKEY = s.dNSKEY ∧ KSKOutcome env D M s s' out err := by
  obtain ⟨V, s₁, hm, hk⟩ := run_bind_eq_some.mp h
  obtain ⟨rfl, rfl⟩ := matchKSKs_eq_some hm
  have hsize : (keepMatched env D M.entries GoMap.empty).size = 0 ↔
      ∀ e ∈ M.entries, matchedDS env D e.2 = none := by
    rw [GoMap.size_eq_zero_iff]
    refine ⟨fun h0 e he => ?_, fun h0 t => ?_⟩
    · by_contra hne
      have : ((keepMatched env D M.entries GoMap.empty).get? (env.prims.keyTag e.2)).isSome :=
        keepMatched_get?_isSome (.inr ⟨e, he, Option.ne_none_iff_isSome.mp hne, rfl⟩)
      simp [h0] at this
    · cases hg : (keepMatched env D M.entries GoMap.empty).get? t with
      | none => rfl
      | some k =>
          rcases keepMatched_get?_eq_some hg with h | ⟨⟨e, he, rfl⟩, hm, -⟩
          · simp at h
          · simp [h0 e he] at hm
  by_cases h0 : (keepMatched env D M.entries GoMap.empty).size = 0
  · simp only [validateKSKs, h0, if_true, run_pure_eq_some, Prod.mk.injEq] at hk
    obtain ⟨⟨rfl, rfl, rfl⟩, rfl⟩ := hk
    exact ⟨rfl, rfl, rfl, rfl, .inl ⟨rfl, rfl, hsize.mp h0⟩⟩
  · simp only [validateKSKs, h0, if_false, run_pure_eq_some, Prod.mk.injEq] at hk
    obtain ⟨⟨rfl, rfl, rfl⟩, rfl⟩ := hk
    refine ⟨rfl, rfl, rfl, rfl, .inr ⟨rfl, rfl, ?_⟩⟩
    by_contra hno
    exact h0 (hsize.mpr fun e he => Option.not_isSome_iff_eq_none.mp fun hs => hno ⟨e, he, hs⟩)

/-- `validateDSRecords`, case by case: the root anchors for the root zone; otherwise one DS
sub-lookup, failing when its answer fails the check, matching against its DS records else. -/
theorem validateDSRecords_spec {Z : String}
    (h : (validateDSRecords env Z M t).run s = some ((out, t', err), s')) :
    s'.dNSKEY = s.dNSKEY ∧
    ((Z = rootZone ∧ s'.calls = s.calls ∧ t' = t ∧ KSKOutcome env env.rootAnchors M s s' out err) ∨
     (Z ≠ rootZone ∧ ∃ c, s'.calls = s.calls ++ [c] ∧ c.question = dsQuestion Z ∧ c.traceIn = t ∧
       c.Issued env ∧ ((c.result.failed = true ∧ out = none ∧ t' = c.result.trace ∧
          err = some (.failedToGetDS Z) ∧ s'.ds = s.ds) ∨
        (c.result.failed = false ∧ t' = c.result.trace ∧
          KSKOutcome env (collectDS c.result.res.answers GoMap.empty) M s s' out err)))) := by
  by_cases hZ : Z = rootZone
  · simp only [validateDSRecords, hZ, if_true] at h
    obtain ⟨rfl, hc, hk, ho⟩ := validateKSKs_spec h
    exact ⟨hk, .inl ⟨hZ, hc, rfl, ho⟩⟩
  · simp only [validateDSRecords, hZ, if_false] at h
    obtain ⟨r, s₁, hl, hr⟩ := run_bind_eq_some.mp h
    simp only [run_lookup, Option.some.injEq, Prod.mk.injEq] at hl
    obtain ⟨rfl, rfl⟩ := hl
    cases hf : (env.lookup s.calls (dsQuestion Z) t).failed
    · simp only [hf, Bool.false_eq_true, if_false] at hr
      obtain ⟨rfl, hc, hk, ho⟩ := validateKSKs_spec hr
      exact ⟨hk, .inr ⟨hZ, _, hc, rfl, rfl, ⟨.inr rfl, _, rfl⟩, .inr ⟨hf, rfl, ho⟩⟩⟩
    · simp only [hf, if_true, run_pure_eq_some, Prod.mk.injEq] at hr
      obtain ⟨⟨rfl, rfl, rfl⟩, rfl⟩ := hr
      exact ⟨rfl, .inr ⟨hZ, _, rfl, rfl, rfl, ⟨.inr rfl, _, rfl⟩, .inl ⟨hf, rfl, rfl, rfl, rfl⟩⟩⟩

/-- `validateDSRecords` asks one DS question at most, handing on the trace. -/
theorem validateDSRecords_threads {Z : String}
    (h : (validateDSRecords env Z M t).run s = some ((out, t', err), s')) : Threads env s s' t t' := by
  rcases (validateDSRecords_spec h).2 with ⟨-, hc, rfl, -⟩ | ⟨-, c, hc, -, hin, hiss, hrest⟩
  · exact .refl hc
  · have ht : t' = c.result.trace := by rcases hrest with ⟨-, -, h, -⟩ | ⟨-, h, -⟩ <;> exact h
    exact ⟨[c], hc, ⟨hin, ht⟩, by simpa using hiss⟩

/-- `validateDSRecords` fails recording nothing, or matches against what `DSSource` names among
the sub-lookups it issued. -/
theorem validateDSRecords_outcome {Z : String}
    (h : (validateDSRecords env Z M t).run s = some ((out, t', err), s')) :
    (out = none ∧ err.isSome ∧ s'.ds = s.ds) ∨
      ∃ D, DSSource env (s.newCalls s') Z D ∧ KSKOutcome env D M s s' out err := by
  rcases (validateDSRecords_spec h).2 with ⟨hZ, -, -, ho⟩ | ⟨hZ, c, hc, hq, -, -, ⟨-, ho, -, he, hds⟩ | ⟨hf, -, ho⟩⟩
  · exact .inr ⟨_, .inl ⟨hZ, rfl⟩, ho⟩
  · exact .inl ⟨ho, by simp [he], hds⟩
  · exact .inr ⟨_, .inr ⟨hZ, c, by simp [DNSSECValidator.newCalls_eq hc], hq, hf, rfl⟩, ho⟩

/-- The exact content of an outcome, for a map keyed by its KSKs' tags. -/
theorem KSKOutcome.exact {D : GoMap UInt16 DS} (hM : TagKeyed env M)
    (ho : KSKOutcome env D M s s' out err) :
    (∀ tag k, (∃ V, out = some V ∧ V.get? tag = some k) ↔
      M.get? tag = some k ∧ (matchedDS env D k).isSome) ∧
    (out = none ↔ ∀ tag k, M.get? tag = some k → matchedDS env D k = none) ∧
    (out = none → err = some .noValidKSK) ∧ (err = none ↔ out.isSome) ∧
    (∀ d, d ∈ s'.ds ↔ d ∈ s.ds ∨ ∃ tag k, M.get? tag = some k ∧ matchedDS env D k = some d) := by
  obtain ⟨hds, ho⟩ := ho
  have hmem : ∀ d, d ∈ s'.ds ↔ d ∈ s.ds ∨ ∃ tag k, M.get? tag = some k ∧ matchedDS env D k = some d := by
    simp only [hds, mem_insertAll, matchedDSs, List.mem_filterMap, GoMap.get?_eq_some_iff, Prod.exists,
      implies_true]
  rcases ho with ⟨rfl, rfl, hno⟩ | ⟨rfl, rfl, e, he, hm⟩
  · have hno' : ∀ tag k, M.get? tag = some k → matchedDS env D k = none := fun tag k hk =>
      hno (tag, k) ((M.get?_eq_some_iff).mp hk)
    refine ⟨fun tag k => iff_of_false (fun ⟨_, h, _⟩ => Option.noConfusion h) fun ⟨hk, hs⟩ => ?_,
      iff_of_true rfl hno', fun _ => rfl, by simp, hmem⟩
    simp [hno' tag k hk] at hs
  · refine ⟨fun tag k => by simpa using keepMatched_get?_iff hM, ?_, by simp, by simp, hmem⟩
    simp only [reduceCtorEq, false_iff, not_forall]
    exact ⟨e.1, e.2, (M.get?_eq_some_iff).mpr he, Option.ne_none_iff_isSome.mpr hm⟩

/-- **DS matching, as the code does it.**  For a map `M` keyed by its KSKs' tags, a run of
`validateDSRecords Z M` that returns either failed on its DS sub-lookup, or matched `M`
against `D` — the root anchors for the root zone, otherwise the answer of its DS sub-lookup
for `Z` folded by tag (`collectDS_get?`), which passed the check — and then it returns exactly
the KSKs of `M` with a `matchedDS` against `D`, under their tags, fails with "no valid KSK
found" iff there is none, and adds to `v.ds` exactly their DS. -/
theorem validateDSRecords_retains_matched {Z : String} (hM : TagKeyed env M)
    (h : (validateDSRecords env Z M t).run s = some ((out, t', err), s')) :
    (Z ≠ rootZone ∧ ∃ c, s'.calls = s.calls ++ [c] ∧ c.question = dsQuestion Z ∧
      c.result.failed = true ∧ out = none ∧ err = some (.failedToGetDS Z) ∧ s'.ds = s.ds) ∨
    ∃ D, ((Z = rootZone ∧ D = env.rootAnchors) ∨
        (Z ≠ rootZone ∧ ∃ c, s'.calls = s.calls ++ [c] ∧ c.question = dsQuestion Z ∧
          c.result.failed = false ∧ D = collectDS c.result.res.answers GoMap.empty)) ∧
      (∀ tag k, (∃ V, out = some V ∧ V.get? tag = some k) ↔
        M.get? tag = some k ∧ (matchedDS env D k).isSome) ∧
      (out = none ↔ ∀ tag k, M.get? tag = some k → matchedDS env D k = none) ∧
      (out = none → err = some .noValidKSK) ∧ (err = none ↔ out.isSome) ∧
      (∀ d, d ∈ s'.ds ↔ d ∈ s.ds ∨ ∃ tag k, M.get? tag = some k ∧ matchedDS env D k = some d) := by
  rcases (validateDSRecords_spec h).2 with ⟨hZ, -, -, ho⟩ | ⟨hZ, c, hc, hq, -, -, ⟨hf, ho, -, he, hds⟩ | ⟨hf, -, ho⟩⟩
  · exact .inr ⟨_, .inl ⟨hZ, rfl⟩, ho.exact hM⟩
  · exact .inl ⟨hZ, c, hc, hq, hf, ho, he, hds⟩
  · exact .inr ⟨_, .inr ⟨hZ, c, hc, hq, hf, rfl⟩, ho.exact hM⟩

theorem validateKSKs_eq_none_iff :
    (validateKSKs env D M t).run s = none ↔ ∃ e ∈ M.entries, ToDSFails env D e.2 := by
  have key : (matchKSKs env D M.entries GoMap.empty).run s = none ↔
      ∃ e ∈ M.entries, ToDSFails env D e.2 := matchKSKs_eq_none_iff
  rw [← key]
  simp only [validateKSKs, StateT.run_bind]
  cases (matchKSKs env D M.entries GoMap.empty).run s with
  | none => simp
  | some p => by_cases h : p.1.size = 0 <;> simp [h]

/-- `validateDSRecords` panics only in its KSK loop, on a KSK of `M` whose `ToDS` fails under
the DS records it matches against: the root anchors, or the answer of its DS sub-lookup. -/
theorem validateDSRecords_eq_none {Z : String} (h : (validateDSRecords env Z M t).run s = none) :
    ∃ D, (D = env.rootAnchors ∨ D = collectDS (env.lookup s.calls (dsQuestion Z) t).res.answers GoMap.empty) ∧
      ∃ e ∈ M.entries, ToDSFails env D e.2 := by
  unfold validateDSRecords at h
  split at h
  · exact ⟨_, .inl rfl, validateKSKs_eq_none_iff.mp h⟩
  · rcases run_bind_eq_none.mp h with h | ⟨r, s₁, hl, h⟩
    · cases h
    simp only [run_lookup, Option.some.injEq, Prod.mk.injEq] at hl
    obtain ⟨rfl, rfl⟩ := hl
    split at h
    · cases h
    · exact ⟨_, .inr rfl, validateKSKs_eq_none_iff.mp h⟩

end Spec

/-! ### Two DS records under one tag, and a digest type `ToDS` lacks -/

/-- A KSK of `example.`. -/
def exampleKSK : DNSKEY := ⟨⟨"example.", typeDNSKEY, classINET, 3600⟩, 257, 3, 8, "AwEAAc"⟩

/-- `exampleKSK` filed under its tag, as `getDNSKEYs` files it. -/
def exampleKSKs : GoMap UInt16 DNSKEY := GoMap.empty.set (mockKeyTag exampleKSK) exampleKSK

/-- The DS the parent publishes for `exampleKSK` (digest type 2). -/
def exampleDS : DS := ⟨⟨"example.", typeDS, classINET, 3600⟩, mockKeyTag exampleKSK, 8, 2,
  "example.AwEAAc"⟩

/-- A DS of `example.` for another key whose tag collides with `exampleKSK`'s. -/
def collidingDS : DS := ⟨⟨"example.", typeDS, classINET, 3600⟩, mockKeyTag exampleKSK, 8, 2,
  "example.AwEAAd"⟩

/-- A DS under `exampleKSK`'s tag with digest type 3 (GOST R 34.11-94), which `ToDS` lacks. -/
def gostDS : DS := ⟨⟨"example.", typeDS, classINET, 3600⟩, mockKeyTag exampleKSK, 8, 3, "0a1b2c"⟩

/-- The mock resolver answering every DNSKEY question with `dnskeyAnswer` and every DS question
with `dsAnswer`, as a cache hit (no `DNSSECResult`). -/
def keysEnv (dnskeyAnswer dsAnswer : List RR) : Env :=
  Env.mock GoMap.empty fun q =>
    if q.rrtype = typeDNSKEY then ⟨dnskeyAnswer, [], [], none⟩
    else if q.rrtype = typeDS then ⟨dsAnswer, [], [], none⟩
    else ⟨[], [], [], none⟩

/-- `exampleKSKs` is keyed by its KSK's tag. -/
theorem exampleKSKs_tagKeyed (env : Env) (h : env.prims.keyTag exampleKSK = mockKeyTag exampleKSK) :
    TagKeyed env exampleKSKs := by
  intro t k hk
  simp only [exampleKSKs, GoMap.get?_set, GoMap.get?_empty] at hk
  split at hk
  · next ht => cases hk; exact h.trans ht.symm
  · cases hk

theorem validateDSRecords_retains_matched_example :
    ∃ out t' err s', (validateDSRecords (keysEnv [] [.ds exampleDS]) "example." exampleKSKs []).run
      .init = some ((out, t', err), s') ∧
    ((("example." : String) ≠ rootZone ∧ ∃ c, s'.calls = DNSSECValidator.init.calls ++ [c] ∧
      c.question = dsQuestion "example." ∧ c.result.failed = true ∧ out = none ∧
      err = some (.failedToGetDS "example.") ∧ s'.ds = DNSSECValidator.init.ds) ∨
    ∃ D, (("example." = rootZone ∧ D = (keysEnv [] [.ds exampleDS]).rootAnchors) ∨
        ("example." ≠ rootZone ∧ ∃ c, s'.calls = DNSSECValidator.init.calls ++ [c] ∧
          c.question = dsQuestion "example." ∧ c.result.failed = false ∧
          D = collectDS c.result.res.answers GoMap.empty)) ∧
      (∀ tag k, (∃ V, out = some V ∧ V.get? tag = some k) ↔
        exampleKSKs.get? tag = some k ∧ (matchedDS (keysEnv [] [.ds exampleDS]) D k).isSome) ∧
      (out = none ↔ ∀ tag k, exampleKSKs.get? tag = some k →
        matchedDS (keysEnv [] [.ds exampleDS]) D k = none) ∧
      (out = none → err = some .noValidKSK) ∧ (err = none ↔ out.isSome) ∧
      (∀ d, d ∈ s'.ds ↔ d ∈ DNSSECValidator.init.ds ∨ ∃ tag k, exampleKSKs.get? tag = some k ∧
        matchedDS (keysEnv [] [.ds exampleDS]) D k = some d)) :=
  ⟨_, _, _, _, rfl, validateDSRecords_retains_matched (exampleKSKs_tagKeyed _ rfl) rfl⟩

/-- `exampleDS` is `exampleKSK`'s DS, yet with `collidingDS` after it in the answer
`validateDSRecords` keeps no KSK; in the other order it keeps `exampleKSK`. -/
theorem validateDSRecords_order_dependent :
    Primitives.mock.toDS exampleKSK exampleDS.digestType = some exampleDS ∧
    ((validateDSRecords (keysEnv [] [.ds exampleDS, .ds collidingDS]) "example." exampleKSKs []).run
      .init).map (·.1) = some (none, [], some .noValidKSK) ∧
    ((validateDSRecords (keysEnv [] [.ds collidingDS, .ds exampleDS]) "example." exampleKSKs []).run
      .init).map (·.1) = some (some exampleKSKs, [], none) := by
  decide

/-- A DS answer holding, under a KSK's tag, a DS of digest type 3 makes `validateDSRecords`
read the digest of the DS `ToDS` did not produce: the validator panics. -/
theorem validateDSRecords_panics :
    (validateDSRecords (keysEnv [] [.ds gostDS]) "example." exampleKSKs []).run .init = none := by
  decide

/-- A record's DS, when it is one. -/
def RR.dsRecord? : RR → Option DS
  | .ds d => some d
  | _ => none

/-- `collectDS` keeps, under each tag, the last DS of the answer with that tag, whatever its
owner. -/
theorem collectDS_get? (l : List RR) (D : GoMap UInt16 DS) (t : UInt16) :
    (collectDS l D).get? t =
      ((l.reverse.filterMap RR.dsRecord?).find? (·.keyTag == t)).or (D.get? t) := by
  induction l generalizing D with
  | nil => simp [collectDS]
  | cons rr rest ih =>
      cases rr <;> simp [collectDS, ih, RR.dsRecord?, List.filterMap_append, List.find?_append,
        GoMap.get?_set, Option.or_assoc]
      next d =>
        by_cases h : d.keyTag = t
        · simp [h]
        · simp [h, Ne.symm h]

end Zdns
