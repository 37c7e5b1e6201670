import Zdns.Dnssec.Signatures

/-!
# DNSSEC — Sections

What `validateSection` reports.  `splitRRsetsAndSigs` files every record that is not an RRSIG
under its (owner, class, type) and every RRSIG under its (owner, class, covered type), in section
order (`splitRRsetsAndSigs_rrsets`, `splitRRsetsAndSigs_sigs`); the loop then classifies each
RRset in the order `range` picks.

* `splitRRsetsAndSigs_partition`: the split is a partition. Each record lies in exactly the
  group of its key, and the groups together are the section reordered.
* `validateSet_spec`: one RRset is Insecure when it has no RRSIG, Secure with the signature
  `validateRRSIG` returned, or Bogus with the message of its error.
* `validateSection_reports`: a section that does not panic gets one result per key of a
  non-RRSIG record and none for any other key, each classified as above.
* `validateSection_eq_none`: a section panics only where `getDNSKEYs` does, on a KSK of a
  DNSKEY answer whose `ToDS` yields nothing under the DS of its tag (`ToDSPanics`); reading the
  message of a nil error never happens (`validateSet_eq_none`).
* `validateSection_panics`: the DS answer that makes `validateDSRecords` panic makes the section
  of an A RRset panic, with no result at all.
-/

namespace Zdns

/-! ### Splitting a section -/

/-- The key under which `splitRRsetsAndSigs` files a record that is not an RRSIG. -/
def RR.rrsetKey? : RR → Option RRsetKey
  | .rrsig _ => none
  | rr => some ⟨rr.header.name, rr.header.rrclass, rr.header.rrtype⟩

/-- An RRSIG record's signature, when it covers the RRset under `k`. -/
def RR.sigFor? (k : RRsetKey) : RR → Option RRSIG
  | .rrsig s => if k = ⟨s.hdr.name, s.hdr.rrclass, s.typeCovered⟩ then some s else none
  | _ => none

theorem sigFor?_eq_some {k : RRsetKey} {rr : RR} {r : RRSIG} :
    rr.sigFor? k = some r ↔ rr = .rrsig r ∧ k = ⟨r.hdr.name, r.hdr.rrclass, r.typeCovered⟩ := by
  cases rr <;> simp [RR.sigFor?]
  exact ⟨fun ⟨h₁, h₂⟩ => ⟨h₂, h₂ ▸ h₁⟩, fun ⟨h₁, h₂⟩ => ⟨h₁ ▸ h₂, h₁⟩⟩

theorem splitStep_of_rrsetKey {acc} {rr : RR} {key : RRsetKey} (h : rr.rrsetKey? = some key) :
    splitStep acc rr = (acc.1.push key rr, acc.2) := by
  cases rr <;> simp_all [RR.rrsetKey?, splitStep]

theorem rrsetKey?_eq_none {rr : RR} (h : rr.rrsetKey? = none) : ∃ s, rr = .rrsig s := by
  cases rr <;> simp_all [RR.rrsetKey?]

/-- One turn of the split, on the RRset under `k`. -/
theorem splitStep_rrsets {acc} {k : RRsetKey} {X : List RR} (h : acc.1.get? k = nonNil X)
    (rr : RR) : (splitStep acc rr).1.get? k = nonNil (X ++ [rr].filter (·.rrsetKey? = some k)) := by
  cases hr : rr.rrsetKey? with
  | none => obtain ⟨s, rfl⟩ := rrsetKey?_eq_none hr; simpa [splitStep, RR.rrsetKey?] using h
  | some key =>
      rw [splitStep_of_rrsetKey hr, GoMap.get?_push]
      by_cases hk : k = key
      · subst hk; simp [hr, h]
      · simp [hk, hr, h, Ne.symm hk]

/-- One turn of the split, on the RRSIGs under `k`. -/
theorem splitStep_sigs {acc} {k : RRsetKey} {X : List RRSIG} (h : acc.2.get? k = nonNil X)
    (rr : RR) : (splitStep acc rr).2.get? k = nonNil (X ++ [rr].filterMap (RR.sigFor? k)) := by
  cases rr with
  | rrsig s =>
      simp only [splitStep, GoMap.get?_push, RR.sigFor?, List.filterMap_cons, List.filterMap_nil]
      by_cases hk : k = ⟨s.hdr.name, s.hdr.rrclass, s.typeCovered⟩
      · subst hk; simp [h]
      · simp [hk, h]
  | dnskey _ | ds _ | other _ _ => simpa [splitStep, RR.sigFor?] using h

theorem foldl_splitStep_rrsets (rrs : List RR) {acc} {k : RRsetKey} {X : List RR}
    (h : acc.1.get? k = nonNil X) :
    (rrs.foldl splitStep acc).1.get? k = nonNil (X ++ rrs.filter (·.rrsetKey? = some k)) := by
  induction rrs generalizing acc X with
  | nil => simpa using h
  | cons rr rest ih =>
      rw [List.foldl_cons, ih (splitStep_rrsets h rr), List.append_assoc, ← List.filter_append,
        List.singleton_append]

theorem foldl_splitStep_sigs (rrs : List RR) {acc} {k : RRsetKey} {X : List RRSIG}
    (h : acc.2.get? k = nonNil X) :
    (rrs.foldl splitStep acc).2.get? k = nonNil (X ++ rrs.filterMap (RR.sigFor? k)) := by
  induction rrs generalizing acc X with
  | nil => simpa using h
  | cons rr rest ih =>
      rw [List.foldl_cons, ih (splitStep_sigs h rr), List.append_assoc, ← List.filterMap_append,
        List.singleton_append]

/-- The RRset `splitRRsetsAndSigs` files under `k`: the section's records with that key, in
section order. -/
theorem splitRRsetsAndSigs_rrsets (rrs : List RR) (k : RRsetKey) :
    (splitRRsetsAndSigs rrs).1.get? k = nonNil (rrs.filter (·.rrsetKey? = some k)) := by
  simpa using @foldl_splitStep_rrsets rrs (GoMap.empty, GoMap.empty) k [] rfl

/-- The RRSIGs `splitRRsetsAndSigs` files under `k`: the section's RRSIGs covering it. -/
theorem splitRRsetsAndSigs_sigs (rrs : List RR) (k : RRsetKey) :
    (splitRRsetsAndSigs rrs).2.get? k = nonNil (rrs.filterMap (RR.sigFor? k)) := by
  simpa using @foldl_splitStep_sigs rrs (GoMap.empty, GoMap.empty) k [] rfl

/-! ### The split is a partition -/

/-- The group `splitRRsetsAndSigs` files a record in: the RRset under its (owner, class, type),
or for an RRSIG the signatures under its (owner, class, covered type). -/
def RR.splitKey : RR → RRsetKey ⊕ RRsetKey
  | .rrsig s => .inr ⟨s.hdr.name, s.hdr.rrclass, s.typeCovered⟩
  | rr => .inl ⟨rr.header.name, rr.header.rrclass, rr.header.rrtype⟩

/-- An RRSIG covers the RRset under `k` exactly when it is filed among the signatures under `k`. -/
theorem sigFor?_map_rrsig (k : RRsetKey) (rr : RR) :
    (rr.sigFor? k).map RR.rrsig = if rr.splitKey = .inr k then some rr else none := by
  cases rr with
  | rrsig s =>
      by_cases hk : k = ⟨s.hdr.name, s.hdr.rrclass, s.typeCovered⟩
      · simp [RR.sigFor?, RR.splitKey, hk]
      · simp [RR.sigFor?, RR.splitKey, hk, Ne.symm hk]
  | dnskey _ | ds _ | other _ _ => simp [RR.sigFor?, RR.splitKey]

/-- A group of a split, as records: the RRset under a key, or the RRSIGs under a key. -/
def splitGroup (split : GoMap RRsetKey (List RR) × GoMap RRsetKey (List RRSIG)) :
    RRsetKey ⊕ RRsetKey → List RR
  | .inl k => (split.1.get? k).getD []
  | .inr k => ((split.2.get? k).getD []).map .rrsig

/-- Every group of a split, in map order: the RRsets, then the RRSIGs. -/
def splitGroups (split : GoMap RRsetKey (List RR) × GoMap RRsetKey (List RRSIG)) : List RR :=
  split.1.entries.flatMap Prod.snd ++ (split.2.entries.flatMap Prod.snd).map .rrsig

/-- Each group is the subsequence, in section order, of the records filed under its key. -/
theorem splitGroup_splitRRsetsAndSigs (rrs : List RR) (g : RRsetKey ⊕ RRsetKey) :
    splitGroup (splitRRsetsAndSigs rrs) g = rrs.filter (·.splitKey = g) := by
  cases g with
  | inl k =>
      rw [splitGroup, splitRRsetsAndSigs_rrsets, nonNil_getD]
      exact List.filter_congr fun rr _ => by cases rr <;> simp [RR.rrsetKey?, RR.splitKey]
  | inr k =>
      rw [splitGroup, splitRRsetsAndSigs_sigs, nonNil_getD, List.map_filterMap,
        ← List.filterMap_eq_filter]
      exact List.filterMap_congr fun rr _ => by rw [sigFor?_map_rrsig]; simp [Option.guard]

/-- One turn of the split adds its record to exactly one group. -/
theorem splitStep_groups (acc : GoMap RRsetKey (List RR) × GoMap RRsetKey (List RRSIG)) (rr : RR) :
    (splitGroups (splitStep acc rr)).Perm (splitGroups acc ++ [rr]) := by
  cases hr : rr.rrsetKey? with
  | none =>
      obtain ⟨s, rfl⟩ := rrsetKey?_eq_none hr
      simpa [splitStep, splitGroups] using
        ((GoMap.flatMap_push_perm acc.2 _ s).map RR.rrsig).append_left (acc.1.entries.flatMap Prod.snd)
  | some key =>
      rw [splitStep_of_rrsetKey hr, splitGroups, splitGroups]
      refine ((GoMap.flatMap_push_perm acc.1 key rr).append_right _).trans ?_
      simpa using (List.perm_append_comm : ([rr] ++ _).Perm _).append_left (acc.1.entries.flatMap Prod.snd)

theorem foldl_splitStep_groups (rrs : List RR) (acc : GoMap RRsetKey (List RR) × GoMap RRsetKey (List RRSIG)) :
    (splitGroups (rrs.foldl splitStep acc)).Perm (splitGroups acc ++ rrs) := by
  induction rrs generalizing acc with
  | nil => simp
  | cons rr rest ih =>
      rw [List.foldl_cons]
      exact (ih _).trans (by simpa using (splitStep_groups acc rr).append_right rest)

/-- **Grouping is a partition.**  For every list of records, the RRset map of
`splitRRsetsAndSigs` holds under each key `K` the subsequence, in input order, of the non-RRSIG
records filed under `K`, and the signature map the subsequence of the RRSIGs filed under `K`; a
key with no record is absent, which Go reads as the empty slice.  Every record lies in exactly
one group, and the groups together are the input reordered, so their lengths add up to its
length. -/
theorem splitRRsetsAndSigs_partition (rrs : List RR) :
    (∀ K, (splitRRsetsAndSigs rrs).1.get? K = nonNil (rrs.filter (·.rrsetKey? = some K))) ∧
    (∀ K, (splitRRsetsAndSigs rrs).2.get? K = nonNil (rrs.filterMap (RR.sigFor? K))) ∧
    (∀ rr ∈ rrs, ∃! g, rr ∈ splitGroup (splitRRsetsAndSigs rrs) g) ∧
    (splitGroups (splitRRsetsAndSigs rrs)).Perm rrs ∧
    ((splitRRsetsAndSigs rrs).1.entries.flatMap Prod.snd).length +
      ((splitRRsetsAndSigs rrs).2.entries.flatMap Prod.snd).length = rrs.length := by
  have hp : (splitGroups (splitRRsetsAndSigs rrs)).Perm rrs := by
    simpa [splitGroups] using foldl_splitStep_groups rrs (GoMap.empty, GoMap.empty)
  refine ⟨splitRRsetsAndSigs_rrsets rrs, splitRRsetsAndSigs_sigs rrs,
    fun rr hr => ⟨rr.splitKey, ?_, fun g hg => ?_⟩, hp, by simpa [splitGroups] using hp.length_eq⟩
  · show rr ∈ splitGroup _ _
    rw [splitGroup_splitRRsetsAndSigs]
    exact List.mem_filter.mpr ⟨hr, by simp⟩
  · replace hg : rr ∈ splitGroup _ g := hg
    rw [splitGroup_splitRRsetsAndSigs] at hg
    exact (of_decide_eq_true (List.mem_filter.mp hg).2).symm

/-! ### One RRset -/

theorem append_ne_empty_of_left {a : String} (b : String) (ha : a ≠ "") : a ++ b ≠ "" := fun h =>
  ha (String.ext (List.append_eq_nil.mp (congrArg String.data h)).1)

/-- `err.Error()` is never empty: each message starts with a non-empty literal. -/
theorem Err.message_ne_empty (e : Err) : e.message ≠ "" := by
  cases e <;> simp only [Err.message] <;> (repeat apply append_ne_empty_of_left) <;> decide

section
variable (env : Env)

/-- `res` reports the RRset `rrSet` under `key` Secure with a signature, one of the RRSIGs
`sigs` filed under `key`, that verifies the RRset under `k` (`SigVerified`). -/
def SecureBy (calls : List Call) (sigs : Option (List RRSIG)) (key : RRsetKey) (rrSet : List RR)
    (res : DNSSECPerSetResult) (k : DNSKEY) : Prop :=
  res.status = .secure ∧ ∃ L r, sigs = some L ∧ res.signature = some r ∧
    SigVerified env calls key.rrtype rrSet L r k

/-- What `validateSection` may report for the RRset `rrSet` under `key`, with the RRSIGs `sigs`
filed under `key`: Insecure when there are none; Secure with a verified signature and no error;
or Bogus with no signature and an error message. -/
def Reported (calls : List Call) (sigs : Option (List RRSIG)) (key : RRsetKey) (rrSet : List RR)
    (res : DNSSECPerSetResult) : Prop :=
  res.rrset = key ∧
  ((sigs = none ∧ res.status = .insecure ∧ res.signature = none ∧ res.error = "") ∨
   (sigs.isSome ∧ res.error = "" ∧ ∃ k, SecureBy env calls sigs key rrSet res k) ∨
   (sigs.isSome ∧ res.status = .bogus ∧ res.signature = none ∧ res.error ≠ ""))

/-- The reports `out` of the section `rrs`: one per key of a non-RRSIG record and no other,
each `Reported` against the section's records and RRSIGs under its key. -/
def SectionReported (calls : List Call) (rrs : List RR) (out : List DNSSECPerSetResult) : Prop :=
  (out.map (·.rrset)).Nodup ∧ (∀ key, key ∈ out.map (·.rrset) ↔ ∃ rr ∈ rrs, rr.rrsetKey? = some key) ∧
  ∀ res ∈ out, Reported env calls (nonNil (rrs.filterMap (RR.sigFor? res.rrset))) res.rrset
    (rrs.filter (·.rrsetKey? = some res.rrset)) res

/-- Some report of `out` is Secure with a signature verified under `k` (`SecureBy`). -/
def SecureIn (calls : List Call) (rrs : List RR) (out : List DNSSECPerSetResult) (k : DNSKEY) :
    Prop :=
  ∃ res ∈ out, SecureBy env calls (nonNil (rrs.filterMap (RR.sigFor? res.rrset))) res.rrset
    (rrs.filter (·.rrsetKey? = some res.rrset)) res k

end

section Mono
variable {env : Env} {calls calls' : List Call} {sigs : Option (List RRSIG)} {key : RRsetKey}
  {rrSet : List RR} {res : DNSSECPerSetResult}

theorem SecureBy.mono {k : DNSKEY} (h : SecureBy env calls sigs key rrSet res k)
    (hc : ∀ c ∈ calls, c ∈ calls') : SecureBy env calls' sigs key rrSet res k :=
  h.imp_right fun ⟨L, r, hL, hr, hv⟩ => ⟨L, r, hL, hr, hv.mono hc⟩

theorem Reported.mono (h : Reported env calls sigs key rrSet res) (hc : ∀ c ∈ calls, c ∈ calls') :
    Reported env calls' sigs key rrSet res :=
  h.imp_right (.imp_right (.imp_left fun ⟨hs, he, k, hk⟩ => ⟨hs, he, k, hk.mono hc⟩))

theorem SectionReported.mono {rrs : List RR} {out : List DNSSECPerSetResult}
    (h : SectionReported env calls rrs out) (hc : ∀ c ∈ calls, c ∈ calls') :
    SectionReported env calls' rrs out :=
  h.imp_right (.imp_right fun h res hres => (h res hres).mono hc)

theorem SecureIn.mono {rrs : List RR} {out : List DNSSECPerSetResult} {k : DNSKEY}
    (h : SecureIn env calls rrs out k) (hc : ∀ c ∈ calls, c ∈ calls') : SecureIn env calls' rrs out k :=
  let ⟨res, hres, hs⟩ := h
  ⟨res, hres, hs.mono hc⟩

end Mono

section Spec
variable {env : Env} {sigs : GoMap RRsetKey (List RRSIG)} {key : RRsetKey} {rrSet : List RR}
  {t t' : Trace} {s s' : DNSSECValidator} {res : DNSSECPerSetResult}

/-- The body of `validateSection`'s loop: Insecure without RRSIGs, else Secure with the
signature `validateRRSIG` returned, or Bogus with the message of its error. -/
theorem validateSet_spec (h : (validateSet env sigs key rrSet t).run s = some ((res, t'), s')) :
    (sigs.get? key = none ∧ res = ⟨key, .insecure, none, ""⟩ ∧ t' = t ∧ s' = s) ∨
    ∃ L, sigs.get? key = some L ∧
      ((∃ r e, (validateRRSIG env key.rrtype rrSet L t).run s = some ((some r, t', e), s') ∧
          res = ⟨key, .secure, some r, ""⟩) ∨
       ∃ e, (validateRRSIG env key.rrtype rrSet L t).run s = some ((none, t', some e), s') ∧
          res = ⟨key, .bogus, none, e.message⟩) := by
  unfold validateSet at h
  split at h
  · next hk =>
      simp only [run_pure_eq_some, Prod.mk.injEq] at h
      obtain ⟨⟨rfl, rfl⟩, rfl⟩ := h
      exact .inl ⟨hk, rfl, rfl, rfl⟩
  · next L hk =>
      obtain ⟨⟨sig, t₁, e₁⟩, s₁, hv, hr⟩ := run_bind_eq_some.mp h
      refine .inr ⟨L, hk, ?_⟩
      cases sig with
      | some r =>
          simp only [run_pure_eq_some, Prod.mk.injEq] at hr
          obtain ⟨⟨rfl, rfl⟩, rfl⟩ := hr
          exact .inl ⟨r, e₁, hv, rfl⟩
      | none =>
          cases e₁ with
          | some e =>
              simp only [run_pure_eq_some, Prod.mk.injEq] at hr
              obtain ⟨⟨rfl, rfl⟩, rfl⟩ := hr
              exact .inr ⟨e, hv, rfl⟩
          | none => cases hr

/-- The message of a nil error is never read: `validateSet` panics only where `validateRRSIG`
does. -/
theorem validateSet_eq_none (h : (validateSet env sigs key rrSet t).run s = none) :
    ∃ L, sigs.get? key = some L ∧ (validateRRSIG env key.rrtype rrSet L t).run s = none := by
  unfold validateSet at h
  split at h
  · cases h
  · next L hk =>
      refine ⟨L, hk, ?_⟩
      cases hv : (validateRRSIG env key.rrtype rrSet L t).run s with
      | none => rfl
      | some p =>
          obtain ⟨⟨sig, t₁, e₁⟩, s₁⟩ := p
          have hs := (validateRRSIG_spec hv).2.2
          simp only [StateT.run_bind, hv, Option.some_bind] at h
          rcases hs with ⟨rfl, he, -⟩ | ⟨r, k, rfl, -⟩
          · obtain ⟨e, rfl⟩ := Option.isSome_iff_exists.mp he
            cases h
          · cases h

/-- What one RRset adds: its report, its sub-lookups, its explained DS records, and at most the
key that verified its signature. -/
theorem validateSet_reported (h : (validateSet env sigs key rrSet t).run s = some ((res, t'), s')) :
    Threads env s s' t t' ∧ (∀ d ∈ s'.ds, d ∈ s.ds ∨ DSExplained env (s.newCalls s') d) ∧
    Reported env (s.newCalls s') (sigs.get? key) key rrSet res ∧
    ∀ k ∈ s'.dNSKEY, k ∈ s.dNSKEY ∨ SecureBy env (s.newCalls s') (sigs.get? key) key rrSet res k := by
  rcases validateSet_spec h with ⟨hk, rfl, rfl, rfl⟩ | ⟨L, hk, ⟨r, e, hv, rfl⟩ | ⟨e, hv, rfl⟩⟩
  · exact ⟨Threads.refl rfl, fun d hd => .inl hd, ⟨rfl, .inl ⟨hk, rfl, rfl, rfl⟩⟩,
      fun k hk => .inl hk⟩
  · obtain ⟨hth, hds, hs⟩ := validateRRSIG_spec hv
    rcases hs with ⟨h, -⟩ | ⟨r', k, hr, -, hK, hver⟩
    · cases h
    · cases hr
      have hsec : SecureBy env (s.newCalls s') (sigs.get? key) key rrSet ⟨key, .secure, some r, ""⟩ k :=
        ⟨rfl, L, r, hk, rfl, hver⟩
      refine ⟨hth, hds, ⟨rfl, .inr (.inl ⟨by simp [hk], rfl, k, hsec⟩)⟩, fun k' hk' => ?_⟩
      rw [hK, List.mem_insert_iff] at hk'
      rcases hk' with rfl | hk'
      exacts [.inr hsec, .inl hk']
  · obtain ⟨hth, hds, hs⟩ := validateRRSIG_spec hv
    rcases hs with ⟨-, -, hK⟩ | ⟨r', k, hr, -⟩
    · exact ⟨hth, hds, ⟨rfl, .inr (.inr ⟨by simp [hk], rfl, rfl, e.message_ne_empty⟩)⟩,
        fun k hk => .inl (hK ▸ hk)⟩
    · cases hr

/-- The loop of `validateSection`: one report per RRset visited, in visiting order. -/
theorem validateSets_spec {E : List (RRsetKey × List RR)} {acc out : List DNSSECPerSetResult}
    (h : (validateSets env sigs E acc t).run s = some ((out, t'), s')) :
    ∃ rs, out = acc ++ rs ∧ rs.map (·.rrset) = E.map (·.1) ∧
      (∀ res ∈ rs, ∃ e ∈ E, Reported env (s.newCalls s') (sigs.get? e.1) e.1 e.2 res) ∧
      Threads env s s' t t' ∧ (∀ d ∈ s'.ds, d ∈ s.ds ∨ DSExplained env (s.newCalls s') d) ∧
      ∀ k ∈ s'.dNSKEY, k ∈ s.dNSKEY ∨ ∃ res ∈ rs, ∃ e ∈ E, e.1 = res.rrset ∧
        SecureBy env (s.newCalls s') (sigs.get? e.1) e.1 e.2 res k := by
  induction E generalizing acc t s with
  | nil =>
      simp only [validateSets, run_pure_eq_some, Prod.mk.injEq] at h
      obtain ⟨⟨rfl, rfl⟩, rfl⟩ := h
      exact ⟨[], by simp, rfl, by simp, Threads.refl rfl, fun d hd => .inl hd, fun k hk => .inl hk⟩
  | cons e rest ih =>
      obtain ⟨key, rrSet⟩ := e
      obtain ⟨⟨res, t₁⟩, s₁, h₁, h₂⟩ := run_bind_eq_some.mp h
      obtain ⟨hth₁, hds₁, hrep₁, hk₁⟩ := validateSet_reported h₁
      obtain ⟨rs, rfl, hmap, hrep, hth₂, hds₂, hk₂⟩ := ih h₂
      have subL := hth₁.sub_left hth₂
      have subR := hth₁.sub_right hth₂
      refine ⟨res :: rs, by simp, by simp [hmap, hrep₁.1], fun r hr => ?_, hth₁.trans hth₂,
        fun d hd => ?_, fun k hk => ?_⟩
      · rcases List.mem_cons.mp hr with rfl | hr
        · exact ⟨_, List.mem_cons_self _ _, hrep₁.mono subL⟩
        · obtain ⟨e, he, hR⟩ := hrep r hr
          exact ⟨e, List.mem_cons_of_mem _ he, hR.mono subR⟩
      · exact (hds₂ d hd).elim (fun hd => (hds₁ d hd).imp_right (·.mono subL))
          fun hd => .inr (hd.mono subR)
      · rcases hk₂ k hk with hk | ⟨r, hr, e, he, heq, hs⟩
        · exact (hk₁ k hk).imp_right fun hs =>
            ⟨res, List.mem_cons_self _ _, _, List.mem_cons_self _ _, hrep₁.1.symm, hs.mono subL⟩
        · exact .inr ⟨r, List.mem_cons_of_mem _ hr, e, List.mem_cons_of_mem _ he, heq, hs.mono subR⟩

/-- **What `validateSection` reports.**  When it returns, it reports each key of a non-RRSIG
record of the section exactly once and no other key, whatever order `range` picks; the report of
a key classifies the section's records under it against the section's RRSIGs covering it
(`Reported`).  It issues DNSKEY and DS sub-lookups only, threading the trace through them,
records only explained DS records, and records only keys that verified the signature of a
Secure report. -/
theorem validateSection_reports {rrs : List RR} {out : List DNSSECPerSetResult}
    (h : (validateSection env rrs t).run s = some ((out, t'), s')) :
    SectionReported env (s.newCalls s') rrs out ∧ Threads env s s' t t' ∧
    (∀ d ∈ s'.ds, d ∈ s.ds ∨ DSExplained env (s.newCalls s') d) ∧
    ∀ k ∈ s'.dNSKEY, k ∈ s.dNSKEY ∨ SecureIn env (s.newCalls s') rrs out k := by
  obtain ⟨rs, rfl, hmap, hrep, hth, hds, hk⟩ := validateSets_spec h
  set split := splitRRsetsAndSigs rrs with hsplit
  have hperm : (split.1.visit (env.order split.1.keys)).Perm split.1.entries :=
    split.1.visit_perm (env.order_perm _)
  have hE : ∀ e ∈ split.1.visit (env.order split.1.keys),
      e.2 = rrs.filter (·.rrsetKey? = some e.1) := fun e he =>
    (eq_of_nonNil_eq_some ((splitRRsetsAndSigs_rrsets rrs e.1).symm.trans
      ((split.1.get?_eq_some_iff).mpr (hperm.subset he)))).symm
  have hkeys : (out.map (·.rrset)).Perm split.1.keys := hmap ▸ hperm.map Prod.fst
  refine ⟨⟨hkeys.nodup_iff.mpr split.1.nodup, fun key => ?_, fun res hres => ?_⟩, hth, hds,
    fun k hk' => (hk k hk').imp_right fun ⟨res, hres, e, he, heq, hs⟩ => ⟨res, hres, ?_⟩⟩
  · rw [hkeys.mem_iff, ← not_iff_not, ← GoMap.get?_eq_none_iff, splitRRsetsAndSigs_rrsets,
      nonNil_eq_none, List.filter_eq_nil_iff]
    simp
  · obtain ⟨e, he, hR⟩ := hrep res hres
    rw [hR.1, ← hE e he, ← splitRRsetsAndSigs_sigs]
    exact hR
  · rw [← heq, ← hE e he, ← splitRRsetsAndSigs_sigs]
    exact hs

/-- The loop of `validateSection` panics only where `validateRRSIG` does. -/
theorem validateSets_eq_none {E : List (RRsetKey × List RR)} {acc : List DNSSECPerSetResult}
    (h : (validateSets env sigs E acc t).run s = none) : ToDSPanics env := by
  induction E generalizing acc t s with
  | nil => cases h
  | cons e rest ih =>
      obtain ⟨key, rrSet⟩ := e
      rcases run_bind_eq_none.mp h with h | ⟨⟨_, _⟩, _, -, h⟩
      · obtain ⟨L, -, hr⟩ := validateSet_eq_none h
        exact validateRRSIG_eq_none hr
      · exact ih h

theorem validateSection_eq_none {rrs : List RR} (h : (validateSection env rrs t).run s = none) :
    ToDSPanics env :=
  validateSets_eq_none h

end Spec

/-! ### A zone signing another zone's name -/

/-- A KSK of `evil.`, beside its ZSK `foreignZSK`. -/
def evilKSK : DNSKEY := ⟨⟨"evil.", typeDNSKEY, classINET, 3600⟩, 257, 3, 8, "AwEAAf"⟩

/-- The DS of `evil.`'s KSK. -/
def evilDS : DS := ⟨⟨"evil.", typeDS, classINET, 3600⟩, mockKeyTag evilKSK, 8, 2, "evil.AwEAAf"⟩

/-- The resolver answering with `evil.`'s keys and DS. -/
def evilEnv : Env := keysEnv [.dnskey evilKSK, .dnskey foreignZSK] [.ds evilDS]

/-- An A record of `www.victim.`. -/
def victimA : RR := .other ⟨"www.victim.", typeA, classINET, 3600⟩ "192.0.2.66"

/-- `evil.`'s ZSK signing the A RRset of `www.victim.`. -/
def evilSig : RRSIG := ⟨⟨"www.victim.", typeRRSIG, classINET, 3600⟩, typeA, 8, 2, 3600, 200, 100,
  mockKeyTag foreignZSK, "evil.", "sig:AwEAAz"⟩

/-- An A record of `example.`. -/
def exampleA : RR := .other ⟨"example.", typeA, classINET, 3600⟩ "192.0.2.1"

/-- With `example.`'s DS answer holding a digest type `ToDS` lacks under its KSK's tag, the
section of an A RRset signed by `example.`'s ZSK panics: `validateSection` reports nothing. -/
theorem validateSection_panics :
    (validateSection (keysEnv exampleKeys [.ds gostDS]) [exampleA, .rrsig (signedBy typeA exampleZSK)]
      []).run .init = none := by
  decide

end Zdns
