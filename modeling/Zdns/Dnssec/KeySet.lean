import Zdns.Dnssec.DSRecords

/-!
# DNSSEC — The signer's key set

What a successful `getDNSKEYs Z` hands out (`KeySet`): every KSK is a flag-257 key of the
answer its DNSKEY sub-lookup returned, with a `matchedDS` against the DS records of `Z` (the
root anchors, or a DS answer that passed the check); there is one; and every ZSK is a flag-256
key of the same answer.

* `getDNSKEYs_spec`: the function as a whole: it threads the trace through its two
  sub-lookups; on failure it hands out nothing and records no DS; on success it hands out a
  `KeySet`, and every DS it records is the matched DS of one of that answer's KSKs.
* `getDNSKEYs_zsks_vouched`: the ZSKs of a successful call sit beside a KSK the signer's DS
  vouches for, in one answer that passed the check — and that is all: nothing ties a ZSK to
  that KSK's signature, nor its owner to `Z` (`getDNSKEYs_foreign_zsk`).
* `getDNSKEYs_eq_none`: it panics only on a KSK of its DNSKEY answer whose `ToDS` yields
  nothing under the DS of its tag (`ToDSPanics`), the one panic of the whole validator.
-/

namespace Zdns

section
variable (env : Env)

/-- The keys a successful `getDNSKEYs` hands out, from the DNSKEY sub-lookup `c` and the DS
records `D`. -/
structure KeySet (c : Call) (D : GoMap UInt16 DS) (ksks zsks : GoMap UInt16 DNSKEY) : Prop where
  passed : c.result.failed = false
  ksk : ∀ t k, ksks.get? t = some k → .dnskey k ∈ c.result.res.answers ∧
    k.flags = keySigningKeyFlag ∧ env.prims.keyTag k = t ∧ (matchedDS env D k).isSome
  ksk_nonempty : ∃ t k, ksks.get? t = some k
  zsk : ∀ t k, zsks.get? t = some k → .dnskey k ∈ c.result.res.answers ∧
    k.flags = zoneSigningKeyFlag ∧ env.prims.keyTag k = t

end

section Spec
variable {env : Env}

/-- The KSKs `separateKeys` files are flag-257 keys of the answer, the ZSKs flag-256 ones,
each under its tag. -/
theorem separateKeys_get? {l : List RR} {K Z : GoMap UInt16 DNSKEY} {t : UInt16} {k : DNSKEY} :
    ((separateKeys env l K Z).1.get? t = some k →
      K.get? t = some k ∨ (.dnskey k ∈ l ∧ k.flags = keySigningKeyFlag ∧ env.prims.keyTag k = t)) ∧
    ((separateKeys env l K Z).2.get? t = some k →
      Z.get? t = some k ∨ (.dnskey k ∈ l ∧ k.flags = zoneSigningKeyFlag ∧ env.prims.keyTag k = t)) := by
  induction l generalizing K Z with
  | nil => exact ⟨.inl, .inl⟩
  | cons rr rest ih =>
      have widen : ∀ {M : GoMap UInt16 DNSKEY} {f : UInt16},
          (M.get? t = some k ∨ (.dnskey k ∈ rest ∧ k.flags = f ∧ env.prims.keyTag k = t)) →
          M.get? t = some k ∨ (.dnskey k ∈ rr :: rest ∧ k.flags = f ∧ env.prims.keyTag k = t) :=
        fun h => h.imp_right fun ⟨hm, hf, ht⟩ => ⟨List.mem_cons_of_mem _ hm, hf, ht⟩
      have set : ∀ {M : GoMap UInt16 DNSKEY} {k' : DNSKEY} {f : UInt16}, rr = .dnskey k' →
          k'.flags = f → ((M.set (env.prims.keyTag k') k').get? t = some k ∨
            (.dnskey k ∈ rest ∧ k.flags = f ∧ env.prims.keyTag k = t)) →
          M.get? t = some k ∨ (.dnskey k ∈ rr :: rest ∧ k.flags = f ∧ env.prims.keyTag k = t) := by
        rintro M k' f rfl hf (h | h)
        · rw [GoMap.get?_set] at h
          split at h
          · next ht => cases h; exact .inr ⟨List.mem_cons_self _ _, hf, ht.symm⟩
          · exact .inl h
        · exact widen (.inr h)
      cases rr with
      | dnskey k' =>
          simp only [separateKeys]
          split
          · next hf => exact ⟨fun h => set rfl hf (ih.1 h), fun h => widen (ih.2 h)⟩
          · split
            · next hf => exact ⟨fun h => widen (ih.1 h), fun h => set rfl hf (ih.2 h)⟩
            · exact ⟨fun h => widen (ih.1 h), fun h => widen (ih.2 h)⟩
      | ds _ | rrsig _ | other _ _ =>
          exact ⟨fun h => widen (ih.1 h), fun h => widen (ih.2 h)⟩

/-- `getDNSKEYs`: it threads the trace through its sub-lookups; it fails handing out nothing and
recording no DS, or hands out a `KeySet` of one DNSKEY answer that passed, recording only the
matched DS of that answer's KSKs. -/
theorem getDNSKEYs_spec {Z : String} {t t' : Trace} {s s' : DNSSECValidator}
    {ksks zsks : Option (GoMap UInt16 DNSKEY)} {err : Option Err}
    (h : (getDNSKEYs env Z t).run s = some ((ksks, zsks, t', err), s')) :
    Threads env s s' t t' ∧ s'.dNSKEY = s.dNSKEY ∧
    ((err.isSome ∧ ksks = none ∧ zsks = none ∧ s'.ds = s.ds) ∨
     (err = none ∧ ∃ c D K Zs, c ∈ s.newCalls s' ∧ c.question = dnskeyQuestion Z ∧
       DSSource env (s.newCalls s') Z D ∧ ksks = some K ∧ zsks = some Zs ∧ KeySet env c D K Zs ∧
       ∀ d ∈ s'.ds, d ∈ s.ds ∨ ∃ k, .dnskey k ∈ c.result.res.answers ∧
         k.flags = keySigningKeyFlag ∧ matchedDS env D k = some d)) := by
  obtain ⟨r, s₁, hl, hr⟩ := run_bind_eq_some.mp h
  have hth : Threads env s s₁ t r.trace := Threads.lookup (.inl rfl) hl
  simp only [run_lookup, Option.some.injEq, Prod.mk.injEq] at hl
  obtain ⟨rfl, rfl⟩ := hl
  cases hf : (env.lookup s.calls (dnskeyQuestion Z) t).failed
  · simp only [hf, Bool.false_eq_true, if_false] at hr
    set r := env.lookup s.calls (dnskeyQuestion Z) t with hr_def
    set keys := separateKeys env r.res.answers GoMap.empty GoMap.empty with hkeys
    have hK : ∀ t k, keys.1.get? t = some k → .dnskey k ∈ r.res.answers ∧
        k.flags = keySigningKeyFlag ∧ env.prims.keyTag k = t := fun t k h =>
      (separateKeys_get?.1 h).resolve_left (by simp)
    have hZs : ∀ t k, keys.2.get? t = some k → .dnskey k ∈ r.res.answers ∧
        k.flags = zoneSigningKeyFlag ∧ env.prims.keyTag k = t := fun t k h =>
      (separateKeys_get?.2 h).resolve_left (by simp)
    by_cases h0 : keys.1.size = 0 ∨ keys.2.size = 0
    · simp only [h0, if_true, run_pure_eq_some, Prod.mk.injEq] at hr
      obtain ⟨⟨rfl, rfl, rfl, rfl⟩, rfl⟩ := hr
      exact ⟨hth, rfl, .inl ⟨rfl, rfl, rfl, rfl⟩⟩
    · simp only [h0, if_false] at hr
      obtain ⟨⟨out, t₂, e₂⟩, s₂, hv, hk⟩ := run_bind_eq_some.mp hr
      have hth' := hth.trans (validateDSRecords_threads hv)
      have hkey := (validateDSRecords_spec hv).1
      rcases validateDSRecords_outcome hv with ⟨rfl, he, hds⟩ | ⟨D, hD, hds, ⟨rfl, rfl, hno⟩ | ⟨rfl, rfl, e, he, hm⟩⟩
      · simp only [he, true_or, if_true, run_pure_eq_some, Prod.mk.injEq] at hk
        obtain ⟨⟨rfl, rfl, rfl, rfl⟩, rfl⟩ := hk
        exact ⟨hth', hkey, .inl ⟨by simpa using he, rfl, rfl, hds⟩⟩
      · simp only [Option.isSome_some, true_or, if_true, run_pure_eq_some, Prod.mk.injEq] at hk
        obtain ⟨⟨rfl, rfl, rfl, rfl⟩, rfl⟩ := hk
        refine ⟨hth', hkey, .inl ⟨rfl, rfl, rfl, ?_⟩⟩
        rw [hds, show matchedDSs env D keys.1.entries = [] from
          List.filterMap_eq_nil_iff.mpr hno]
        rfl
      · simp only [Option.isSome_none, Option.isNone_some, Bool.false_eq_true, or_self, if_false,
          run_pure_eq_some, Prod.mk.injEq] at hk
        obtain ⟨⟨rfl, rfl, rfl, rfl⟩, rfl⟩ := hk
        have hth₂ := validateDSRecords_threads hv
        refine ⟨hth', hkey, .inr ⟨rfl, ⟨dnskeyQuestion Z, t, r⟩, D, _, _,
          hth.sub_left hth₂ _ (by simp [DNSSECValidator.newCalls]), rfl, hD.mono (hth.sub_right hth₂),
          rfl, rfl, ⟨hf, fun t k h => ?_, ?_, hZs⟩, fun d hd => ?_⟩⟩
        · rcases keepMatched_get?_eq_some h with h | ⟨⟨e, he, rfl⟩, hm, rfl⟩
          · simp at h
          · exact ⟨(hK _ _ ((keys.1.get?_eq_some_iff).mpr he)).1,
              (hK _ _ ((keys.1.get?_eq_some_iff).mpr he)).2.1, rfl, hm⟩
        · obtain ⟨k, hk⟩ := Option.isSome_iff_exists.mp
            (keepMatched_get?_isSome (.inr ⟨e, he, hm, rfl⟩) :
              ((keepMatched env D keys.1.entries GoMap.empty).get? (env.prims.keyTag e.2)).isSome)
          exact ⟨_, k, hk⟩
        · rw [hds, mem_insertAll] at hd
          refine hd.imp id fun hd => ?_
          obtain ⟨e, he, hmd⟩ := List.mem_filterMap.mp hd
          have := hK _ _ ((keys.1.get?_eq_some_iff).mpr he)
          exact ⟨e.2, this.1, this.2.1, hmd⟩
  · simp only [hf, if_true, run_pure_eq_some, Prod.mk.injEq] at hr
    obtain ⟨⟨rfl, rfl, rfl, rfl⟩, rfl⟩ := hr
    exact ⟨hth, rfl, .inl ⟨rfl, rfl, rfl, rfl⟩⟩

/-- The one panic of the validator: `ToDS` yields nothing for a flag-257 key of some DNSKEY
answer under the DS of its tag, in the root anchors or in some DS answer. -/
def ToDSPanics (env : Env) : Prop :=
  ∃ k D, ToDSFails env D k ∧ k.flags = keySigningKeyFlag ∧
    (∃ calls Z t, .dnskey k ∈ (env.lookup calls (dnskeyQuestion Z) t).res.answers) ∧
    (D = env.rootAnchors ∨
      ∃ calls Z t, D = collectDS (env.lookup calls (dsQuestion Z) t).res.answers GoMap.empty)

/-- `getDNSKEYs` panics only through `validateDSRecords`, on a KSK of its DNSKEY answer. -/
theorem getDNSKEYs_eq_none {Z : String} {t : Trace} {s : DNSSECValidator}
    (h : (getDNSKEYs env Z t).run s = none) : ToDSPanics env := by
  rcases run_bind_eq_none.mp h with h | ⟨r, s₁, hl, h⟩
  · cases h
  simp only [run_lookup, Option.some.injEq, Prod.mk.injEq] at hl
  obtain ⟨rfl, rfl⟩ := hl
  split at h
  · cases h
  dsimp only at h
  split at h
  · cases h
  rcases run_bind_eq_none.mp h with h | ⟨_, _, -, h⟩
  · obtain ⟨D, hD, e, he, hf⟩ := validateDSRecords_eq_none h
    obtain ⟨hk, hflag, -⟩ := (separateKeys_get?.1 ((GoMap.get?_eq_some_iff _).mpr he)).resolve_left
      (by simp)
    exact ⟨e.2, D, hf, hflag, ⟨_, _, _, hk⟩, hD.imp_right fun hD => ⟨_, _, _, hD⟩⟩
  · split at h <;> cases h

/-- **The signer's key set, as the code binds it.**  When `getDNSKEYs Z` succeeds, every key of
its ZSK map is a flag-256 key of the answer its own DNSKEY sub-lookup for `Z` returned, whatever
the key's owner; that answer passed the check (NoError, no error, a `DNSSECResult` nil or Secure);
and a flag-257 key of the same answer, one of the KSKs returned, has a `matchedDS` against the
DS records of `Z` named among the sub-lookups this run issued. -/
theorem getDNSKEYs_zsks_vouched {Z : String} {t t' : Trace} {s s' : DNSSECValidator}
    {ksks zsks : Option (GoMap UInt16 DNSKEY)}
    (h : (getDNSKEYs env Z t).run s = some ((ksks, zsks, t', none), s')) :
    ∃ cs, s'.calls = s.calls ++ cs ∧ ∃ c ∈ cs, c.question = dnskeyQuestion Z ∧ c.result.failed = false ∧
      (∃ Zs, zsks = some Zs ∧ ∀ tag k, Zs.get? tag = some k →
        .dnskey k ∈ c.result.res.answers ∧ k.flags = zoneSigningKeyFlag) ∧
      ∃ D K tag k, DSSource env cs Z D ∧ ksks = some K ∧ K.get? tag = some k ∧
        .dnskey k ∈ c.result.res.answers ∧ k.flags = keySigningKeyFlag ∧ (matchedDS env D k).isSome := by
  obtain ⟨hth, -, hcase⟩ := getDNSKEYs_spec h
  rcases hcase with ⟨he, -⟩ | ⟨-, c, D, K, Zs, hc, hq, hD, rfl, rfl, hks, -⟩
  · simp at he
  · obtain ⟨tag, k, hk⟩ := hks.ksk_nonempty
    obtain ⟨hmem, hflag, -, hm⟩ := hks.ksk tag k hk
    exact ⟨_, hth.calls_eq, c, hc, hq, hks.passed,
      ⟨Zs, rfl, fun tag k h => ⟨(hks.zsk tag k h).1, (hks.zsk tag k h).2.1⟩⟩, D, K, tag, k, hD, rfl, hk,
      hmem, hflag, hm⟩

end Spec

/-! ### Keys filed by tag -/

section
variable (env : Env)

/-- The keys of flag `f` among the records `l`, in order. -/
def keysWithFlag (f : UInt16) (l : List RR) : List DNSKEY :=
  l.filterMap fun
    | .dnskey k => if k.flags = f then some k else none
    | _ => none

/-- The keys `ks` filed one after another under their tags into `M`, a later key replacing an
earlier one of the same tag. -/
def fileByTag (ks : List DNSKEY) (M : GoMap UInt16 DNSKEY) : GoMap UInt16 DNSKEY :=
  ks.foldl (fun m k => m.set (env.prims.keyTag k) k) M

/-- The error a record raises in the loop of `parseKSKsFromAnswer`: a record other than a
DNSKEY, or a DNSKEY with a flag other than 257 and 256. -/
def kskError : RR → Option Err
  | .dnskey k =>
      if k.flags = keySigningKeyFlag ∨ k.flags = zoneSigningKeyFlag then none
      else some (.unexpectedFlag k.flags)
  | rr => some (.invalidRRType (env.prims.rrString rr))

end

section FileByTag
variable {env : Env}

/-- Under each tag, the last key of that tag, else what `M` held. -/
theorem fileByTag_get? (ks : List DNSKEY) (M : GoMap UInt16 DNSKEY) (t : UInt16) :
    (fileByTag env ks M).get? t = (ks.reverse.find? (env.prims.keyTag · = t)).or (M.get? t) := by
  induction ks generalizing M with
  | nil => simp [fileByTag]
  | cons k rest ih =>
      rw [fileByTag, List.foldl_cons, ← fileByTag, ih, GoMap.get?_set]
      by_cases ht : env.prims.keyTag k = t
      · simp [ht, List.find?_append, Option.or_assoc]
      · simp [ht, Ne.symm ht, List.find?_append]

theorem fileByTag_empty_size_eq_zero (ks : List DNSKEY) :
    (fileByTag env ks GoMap.empty).size = 0 ↔ ks = [] := by
  rw [GoMap.size_eq_zero_iff]
  refine ⟨fun h => List.eq_nil_iff_forall_not_mem.mpr fun k hk => ?_, fun h t => by simp [h, fileByTag]⟩
  have := h (env.prims.keyTag k)
  rw [fileByTag_get?, GoMap.get?_empty, Option.or_none, List.find?_eq_none] at this
  exact this k (List.mem_reverse.mpr hk) (by simp)

theorem keysWithFlag_cons (f : UInt16) (rr : RR) (l : List RR) :
    keysWithFlag f (rr :: l) = match rr with
      | .dnskey k => if k.flags = f then k :: keysWithFlag f l else keysWithFlag f l
      | _ => keysWithFlag f l := by
  cases rr with
  | dnskey k => by_cases h : k.flags = f <;> simp [keysWithFlag, h]
  | ds _ | rrsig _ | other _ _ => rfl

theorem zoneSigningKeyFlag_ne : zoneSigningKeyFlag ≠ keySigningKeyFlag := by decide

theorem separateKeys_eq (l : List RR) (K Z : GoMap UInt16 DNSKEY) :
    separateKeys env l K Z = (fileByTag env (keysWithFlag keySigningKeyFlag l) K,
      fileByTag env (keysWithFlag zoneSigningKeyFlag l) Z) := by
  induction l generalizing K Z with
  | nil => rfl
  | cons rr rest ih =>
      cases rr with
      | dnskey k =>
          by_cases h₁ : k.flags = keySigningKeyFlag
          · simp [separateKeys, keysWithFlag_cons, fileByTag, h₁, zoneSigningKeyFlag_ne.symm, ih]
          · by_cases h₂ : k.flags = zoneSigningKeyFlag <;>
              simp [separateKeys, keysWithFlag_cons, fileByTag, h₁, h₂, zoneSigningKeyFlag_ne, ih]
      | ds _ | rrsig _ | other _ _ => simp [separateKeys, keysWithFlag_cons, ih]

/-- **The key maps of `getDNSKEYs`.**  Under each tag, the KSK map holds the last flag-257 key of
the answer with that tag and the ZSK map the last flag-256 one: an earlier key of the same tag
is dropped, and records of any other kind or flag are skipped. -/
theorem separateKeys_last (l : List RR) (t : UInt16) :
    (separateKeys env l GoMap.empty GoMap.empty).1.get? t =
        (keysWithFlag keySigningKeyFlag l).reverse.find? (env.prims.keyTag · = t) ∧
      (separateKeys env l GoMap.empty GoMap.empty).2.get? t =
        (keysWithFlag zoneSigningKeyFlag l).reverse.find? (env.prims.keyTag · = t) := by
  simp [separateKeys_eq, fileByTag_get?]

theorem parseKSKs_eq (l : List RR) (K : GoMap UInt16 DNSKEY) :
    parseKSKs env l K = match l.findSome? (kskError env) with
      | some e => (none, some e)
      | none =>
          if (fileByTag env (keysWithFlag keySigningKeyFlag l) K).size = 0 then (none, some .noKSKInRRset)
          else (some (fileByTag env (keysWithFlag keySigningKeyFlag l) K), none) := by
  induction l generalizing K with
  | nil => rfl
  | cons rr rest ih =>
      cases rr with
      | dnskey k =>
          by_cases h₁ : k.flags = keySigningKeyFlag
          · simp [parseKSKs, kskError, keysWithFlag_cons, fileByTag, h₁, ih]
          · by_cases h₂ : k.flags = zoneSigningKeyFlag
            · simp [parseKSKs, kskError, keysWithFlag_cons, fileByTag, h₁, h₂, zoneSigningKeyFlag_ne, ih]
            · simp [parseKSKs, kskError, h₁, h₂]
      | ds _ | rrsig _ | other _ _ => simp [parseKSKs, kskError]

/-- **The KSK parser's results.**  `parseKSKsFromAnswer` stops at the first record that is not a
DNSKEY, or is a DNSKEY with a flag other than 257 and 256, with that record's error.  Without
such a record it fails when the RRset has no flag-257 key.  Otherwise it returns, under each
tag, the last flag-257 key of that tag. -/
theorem parseKSKsFromAnswer_spec (rrSet : List RR) :
    (∀ e, rrSet.findSome? (kskError env) = some e → parseKSKsFromAnswer env rrSet = (none, some e)) ∧
    (rrSet.findSome? (kskError env) = none → keysWithFlag keySigningKeyFlag rrSet = [] →
      parseKSKsFromAnswer env rrSet = (none, some .noKSKInRRset)) ∧
    (rrSet.findSome? (kskError env) = none → keysWithFlag keySigningKeyFlag rrSet ≠ [] →
      ∃ M, parseKSKsFromAnswer env rrSet = (some M, none) ∧
        ∀ t, M.get? t = (keysWithFlag keySigningKeyFlag rrSet).reverse.find? (env.prims.keyTag · = t)) := by
  have heq := @parseKSKs_eq env rrSet GoMap.empty
  refine ⟨fun e he => by rw [parseKSKsFromAnswer, heq, he], fun he hk => ?_, fun he hk => ?_⟩
  · rw [parseKSKsFromAnswer, heq, he, if_pos ((fileByTag_empty_size_eq_zero _).mpr hk)]
  · rw [parseKSKsFromAnswer, heq, he, if_neg (mt (fileByTag_empty_size_eq_zero _).mp hk)]
    exact ⟨_, rfl, fun t => by simp [fileByTag_get?]⟩

end FileByTag

/-- A ZSK of `evil.`. -/
def foreignZSK : DNSKEY := ⟨⟨"evil.", typeDNSKEY, classINET, 3600⟩, 256, 3, 8, "AwEAAz"⟩

/-- `example.`'s DNSKEY answer carrying `evil.`'s ZSK beside `example.`'s KSK. -/
def foreignKeysEnv : Env := keysEnv [.dnskey exampleKSK, .dnskey foreignZSK] [.ds exampleDS]

theorem getDNSKEYs_zsks_vouched_foreign :
    ∃ ksks zsks t' s', (getDNSKEYs foreignKeysEnv "example." []).run .init =
      some ((ksks, zsks, t', none), s') ∧
    ∃ cs, s'.calls = DNSSECValidator.init.calls ++ cs ∧ ∃ c ∈ cs, c.question = dnskeyQuestion "example." ∧
      c.result.failed = false ∧ (∃ Zs, zsks = some Zs ∧ ∀ tag k, Zs.get? tag = some k →
        .dnskey k ∈ c.result.res.answers ∧ k.flags = zoneSigningKeyFlag) ∧
      ∃ D K tag k, DSSource foreignKeysEnv cs "example." D ∧ ksks = some K ∧
        K.get? tag = some k ∧ .dnskey k ∈ c.result.res.answers ∧ k.flags = keySigningKeyFlag ∧
        (matchedDS foreignKeysEnv D k).isSome :=
  ⟨_, _, _, _, rfl, getDNSKEYs_zsks_vouched rfl⟩

/-- `getDNSKEYs "example."` succeeds and hands out `evil.`'s ZSK as a key of `example.`. -/
theorem getDNSKEYs_foreign_zsk :
    ((getDNSKEYs foreignKeysEnv "example." []).run .init).map (·.1) =
      some (some exampleKSKs, some (GoMap.empty.set (mockKeyTag foreignZSK) foreignZSK), [], none) ∧
    foreignZSK.hdr.name ≠ "example." := by
  decide

end Zdns
