import Zdns.Dnssec.Report

/-!
# DNSSEC — Chain of trust

The spec's chain of trust, as the least predicate `Trusted env U` over the records `U` the
validator can see: a root anchor is a trusted DS; a flag-257 key is a trusted KSK of its owner
when `ToDS` of it matches, in tag and in digest up to case, a trusted DS of that owner; a key is
trusted when the DNSKEY RRset of its owner in `U` carries a valid RRSIG verifying under a
trusted KSK of that owner; a DS below the root is trusted when its DS RRset carries a valid RRSIG
verifying under a trusted flag-256 key of the RRSIG's signer.

The resolver the validator asks may validate what it returns as this validator does
(`Env.SelfValidating`): every `DNSSECResult` a sub-lookup carries is the one `validate` computes
for its answer, a cache hit carrying none.

`validate` checks one level of this chain, not the chain:

* `validate_secure_one_level`: the signature of a Secure RRset is one of the section's RRSIGs
  covering it, valid and verifying it under a key with its tag; that key is a flag-257 key of the
  RRset itself for a DNSKEY RRset, else a flag-256 key of a DNSKEY answer that passed for the
  signer of the last such RRSIG, an answer also holding a KSK that matches a DS of that signer.
* `validate_zsk_rrset_self_signed`: over a self-validating resolver, that flag-256 key lies in a
  DNSKEY RRset of its answer signed by a KSK of that RRset, one level further and no more.
* `validate_secure_untrusted`: a DNSKEY RRset alone in an Answer is Secure on its KSK's own
  signature with no DS in sight; and, over a self-validating resolver, an A RRset is Secure under
  a ZSK whose DNSKEY RRset a rogue KSK signed beside the KSK the DS vouches for. Neither key is
  trusted.
-/

namespace Zdns

/-! ### Trust -/

/-- A node of the chain of trust. -/
inductive TrustNode
  | ds (d : DS)
  | ksk (k : DNSKEY)
  | key (k : DNSKEY)
deriving DecidableEq

/-- The owner of a node. -/
def TrustNode.owner : TrustNode → String
  | .ds d => d.hdr.name
  | .ksk k | .key k => k.hdr.name

/-- The records of `U` forming the RRset of owner `Z`, class `C` and type `T`. -/
def rrsetOf (U : List RR) (Z : String) (C T : UInt16) : List RR :=
  U.filter fun rr => rr.header.name = Z ∧ rr.header.rrclass = C ∧ rr.header.rrtype = T

/-- The spec's chain of trust over the records `U`. -/
inductive Trusted (env : Env) (U : List RR) : TrustNode → Prop
  | anchor {t : UInt16} {d : DS} : env.rootAnchors.get? t = some d → Trusted env U (.ds d)
  | signedDS {d : DS} {r : RRSIG} {k : DNSKEY} : d.hdr.name ≠ rootZone → .ds d ∈ U → .rrsig r ∈ U →
      r.hdr.name = d.hdr.name → r.hdr.rrclass = d.hdr.rrclass → r.typeCovered = typeDS →
      env.prims.validityPeriod r env.now →
      env.prims.verify r k (rrsetOf U d.hdr.name d.hdr.rrclass typeDS) →
      k.flags = zoneSigningKeyFlag → k.hdr.name = r.signerName → Trusted env U (.key k) →
      Trusted env U (.ds d)
  | ksk {k : DNSKEY} {d a : DS} : k.flags = keySigningKeyFlag → d.hdr.name = k.hdr.name →
      Trusted env U (.ds d) → env.prims.toDS k d.digestType = some a → a.keyTag = d.keyTag →
      toUpper a.digest = toUpper d.digest → Trusted env U (.ksk k)
  | key {k k' : DNSKEY} {r : RRSIG} : .dnskey k ∈ U → .rrsig r ∈ U → r.hdr.name = k.hdr.name →
      r.hdr.rrclass = k.hdr.rrclass → r.typeCovered = typeDNSKEY →
      env.prims.validityPeriod r env.now →
      env.prims.verify r k' (rrsetOf U k.hdr.name k.hdr.rrclass typeDNSKEY) →
      k'.hdr.name = k.hdr.name → Trusted env U (.ksk k') → Trusted env U (.key k)

namespace Trusted
variable {env : Env} {U : List RR}

/-- With root anchors owned by the root and no DS record in `U`, only the root's keys are
trusted: trust never leaves the root without a DS record. -/
theorem owner_root {v : TrustNode}
    (hA : ∀ t d, env.rootAnchors.get? t = some d → d.hdr.name = rootZone) (hU : ∀ d, .ds d ∉ U)
    (h : Trusted env U v) : v.owner = rootZone := by
  induction h with
  | anchor ht => exact hA _ _ ht
  | signedDS _ hd => exact absurd hd (hU _)
  | ksk _ hname _ _ _ _ ih => exact hname.symm.trans ih
  | key _ _ _ _ _ _ _ hname _ ih => exact hname.symm.trans ih

/-- A trusted DS is a root anchor or a record of `U`. -/
theorem ds_inv {d : DS} (h : Trusted env U (.ds d)) :
    (∃ t, env.rootAnchors.get? t = some d) ∨ .ds d ∈ U := by
  cases h with
  | anchor ht => exact .inl ⟨_, ht⟩
  | signedDS _ hd => exact .inr hd

/-- A trusted KSK matches a trusted DS of its owner. -/
theorem ksk_inv {k : DNSKEY} (h : Trusted env U (.ksk k)) :
    ∃ d a, k.flags = keySigningKeyFlag ∧ d.hdr.name = k.hdr.name ∧ Trusted env U (.ds d) ∧
      env.prims.toDS k d.digestType = some a ∧ a.keyTag = d.keyTag ∧ toUpper a.digest = toUpper d.digest := by
  cases h with
  | ksk hf hn hd ha ht hdig => exact ⟨_, _, hf, hn, hd, ha, ht, hdig⟩

/-- A trusted key's DNSKEY RRset in `U` carries a valid RRSIG verifying under a trusted KSK of its
owner. -/
theorem key_inv {k : DNSKEY} (h : Trusted env U (.key k)) :
    ∃ r k', .dnskey k ∈ U ∧ .rrsig r ∈ U ∧ r.hdr.name = k.hdr.name ∧ r.hdr.rrclass = k.hdr.rrclass ∧
      r.typeCovered = typeDNSKEY ∧ env.prims.validityPeriod r env.now ∧
      env.prims.verify r k' (rrsetOf U k.hdr.name k.hdr.rrclass typeDNSKEY) ∧
      k'.hdr.name = k.hdr.name ∧ Trusted env U (.ksk k') := by
  cases h with
  | key hk hr hn hc ht hv hver hn' hk' => exact ⟨_, _, hk, hr, hn, hc, ht, hv, hver, hn', hk'⟩

end Trusted

/-! ### One level -/

/-- The message of a sub-lookup's answer: its Answer, Authority and Additional sections. -/
def SingleQueryResult.msg (r : SingleQueryResult) : Msg := ⟨r.answers, r.authorities, r.additionals⟩

/-- The resolver validates what it returns as this validator does: every `DNSSECResult` a lookup
carries is the one `validate` computes for its answer on a fresh validator, against the same
environment, from some trace.  A cache hit carries none. -/
def Env.SelfValidating (env : Env) : Prop :=
  ∀ calls q t res, (env.lookup calls q t).res.dNSSECResult = some res →
    ∃ t₀ t₁ v, (validate env (env.lookup calls q t).res.msg t₀).run .init = some ((res, t₁), v)

/-- A sub-lookup that passed the check carried no `DNSSECResult` or a Secure one. -/
theorem LookupResult.status_secure {r : LookupResult} (h : r.failed = false) {res : DNSSECResult}
    (hres : r.res.dNSSECResult = some res) : res.status = .secure := by
  simp only [LookupResult.failed, hres, Bool.or_eq_false_iff, Option.any_some, bne_eq_false_iff_eq] at h
  exact h.2

theorem populateStatus_eq_secure {l : List DNSSECPerSetResult} (h : populateStatus l = .secure) :
    ∀ r ∈ l, r.status = .secure := by
  unfold populateStatus at h
  split_ifs at h with h₁
  · simpa using h₁

section Spec
variable {env : Env} {msg : Msg} {t t' : Trace} {s s' : DNSSECValidator} {res : DNSSECResult}

/-- A Secure report's signature is an RRSIG of the section covering the RRset, verified as
`SigVerified` says. -/
theorem Reported.secure {calls : List Call} {rrs : List RR} {r : DNSSECPerSetResult}
    (h : Reported env calls (nonNil (rrs.filterMap (RR.sigFor? r.rrset))) r.rrset
      (rrs.filter (·.rrsetKey? = some r.rrset)) r) (hsec : r.status = .secure) :
    ∃ sig k, r.signature = some sig ∧ .rrsig sig ∈ rrs ∧
      r.rrset = ⟨sig.hdr.name, sig.hdr.rrclass, sig.typeCovered⟩ ∧
      SigVerified env calls r.rrset.rrtype (rrs.filter (·.rrsetKey? = some r.rrset))
        (rrs.filterMap (RR.sigFor? r.rrset)) sig k := by
  rcases h.2 with ⟨-, hi, -⟩ | ⟨-, -, k, -, L, sig, hL, hsig, hv⟩ | ⟨-, hb, -⟩
  · simp [hsec] at hi
  · obtain rfl := eq_of_nonNil_eq_some hL
    obtain ⟨rr, hrr, hs⟩ := List.mem_filterMap.mp hv.1
    obtain ⟨rfl, hk⟩ := sigFor?_eq_some.mp hs
    exact ⟨sig, k, hsig, hrr, hk, hv⟩
  · simp [hsec] at hb

/-- **What a Secure report stands on.** -/
theorem validate_secure_one_level (h : (validate env msg t).run s = some ((res, t'), s'))
    {rrs : List RR} {out : List DNSSECPerSetResult} (hp : (rrs, out) ∈ sectionReports msg res)
    {r : DNSSECPerSetResult} (hr : r ∈ out) (hsec : r.status = .secure) :
    ∃ cs, s'.calls = s.calls ++ cs ∧ ∃ sig k, r.signature = some sig ∧ .rrsig sig ∈ rrs ∧
      sig.hdr.name = r.rrset.name ∧ sig.hdr.rrclass = r.rrset.rrclass ∧
      sig.typeCovered = r.rrset.rrtype ∧ env.prims.validityPeriod sig env.now ∧
      env.prims.verify sig k (rrs.filter (·.rrsetKey? = some r.rrset)) ∧
      env.prims.keyTag k = sig.keyTag ∧
      ((r.rrset.rrtype = typeDNSKEY ∧ .dnskey k ∈ rrs.filter (·.rrsetKey? = some r.rrset) ∧
          k.flags = keySigningKeyFlag) ∨
       (r.rrset.rrtype ≠ typeDNSKEY ∧ ∃ last c, (rrs.filterMap (RR.sigFor? r.rrset)).getLast? = some last ∧
         c ∈ cs ∧ c.question = dnskeyQuestion last.signerName ∧ c.result.failed = false ∧
         .dnskey k ∈ c.result.res.answers ∧ k.flags = zoneSigningKeyFlag ∧
         ∃ ksk D, .dnskey ksk ∈ c.result.res.answers ∧ ksk.flags = keySigningKeyFlag ∧
           (matchedDS env D ksk).isSome ∧ DSSource env cs last.signerName D)) := by
  obtain ⟨hth, -, -, -, hrep, -⟩ := validate_spec h
  obtain ⟨sig, k, hsig, hmem, hkey, -, hval, hver, htag, hcase⟩ := ((hrep _ hp).2.2 r hr).secure hsec
  refine ⟨_, hth.calls_eq, sig, k, hsig, hmem, by rw [hkey], by rw [hkey], by rw [hkey], hval, hver,
    htag, hcase.imp (fun ⟨hT, hk, hf⟩ => ⟨hT, hk, hf⟩)
      fun ⟨hT, last, Zs, hl, ⟨c, hc, hq, D, K, hD, hks⟩, hz⟩ => ?_⟩
  obtain ⟨tag, ksk, hksk⟩ := hks.ksk_nonempty
  obtain ⟨hkm, hkf, -, hkd⟩ := hks.ksk tag ksk hksk
  exact ⟨hT, last, c, hl, hc, hq, hks.passed, (hks.zsk _ _ hz).1, (hks.zsk _ _ hz).2.1,
    ksk, D, hkm, hkf, hkd, hD⟩

/-- In a report `validate` rolls up Secure, every DNSKEY of the Answer section lies in a DNSKEY
RRset reported Secure: an RRSIG of the section over that RRset verifies it under a flag-257 key of
the RRset itself. -/
theorem validate_answer_dnskey_signed (h : (validate env msg t).run s = some ((res, t'), s'))
    (hs : res.status = .secure) {k : DNSKEY} (hk : .dnskey k ∈ msg.answer)
    (hkT : k.hdr.rrtype = typeDNSKEY) :
    ∃ sig k', .rrsig sig ∈ msg.answer ∧ sig.hdr.name = k.hdr.name ∧ sig.hdr.rrclass = k.hdr.rrclass ∧
      sig.typeCovered = typeDNSKEY ∧ env.prims.validityPeriod sig env.now ∧
      env.prims.keyTag k' = sig.keyTag ∧
      .dnskey k' ∈ msg.answer.filter (·.rrsetKey? = some ⟨k.hdr.name, k.hdr.rrclass, typeDNSKEY⟩) ∧
      k'.flags = keySigningKeyFlag ∧
      env.prims.verify sig k' (msg.answer.filter (·.rrsetKey? = some ⟨k.hdr.name, k.hdr.rrclass, typeDNSKEY⟩)) := by
  obtain ⟨-, -, -, hst, hrep, -⟩ := validate_spec h
  obtain ⟨-, hkeys, hR⟩ := hrep (msg.answer, res.answer) (List.mem_cons_self _ _)
  have hkey : (RR.dnskey k).rrsetKey? = some ⟨k.hdr.name, k.hdr.rrclass, typeDNSKEY⟩ := by
    simp [RR.rrsetKey?, RR.header, hkT]
  obtain ⟨r, hr, hrk⟩ := List.mem_map.mp ((hkeys _).mpr ⟨_, hk, hkey⟩)
  obtain ⟨sig, k', -, hmem, hcov, -, hval, hver, htag, hcase⟩ :=
    (hR r hr).secure (populateStatus_eq_secure (hst ▸ hs) r hr)
  rw [hrk] at hcov hver hcase
  obtain ⟨-, hk', hf⟩ := hcase.resolve_right fun h => h.1 rfl
  simp only [RRsetKey.mk.injEq] at hcov
  exact ⟨sig, k', hmem, hcov.1.symm, hcov.2.1.symm, hcov.2.2.symm, hval, htag, hk', hf, hver⟩

/-- **One level below.**  Over a resolver that validates what it returns, the ZSK that verified a
Secure RRset's signature, other than a DNSKEY RRset's, was handed out by a DNSKEY answer of this
run.  When that answer carried a `DNSSECResult`, the ZSK lies there in a DNSKEY RRset whose RRSIG
verifies under a KSK of that RRset itself.  Nothing ties that KSK to the one a DS vouches for. -/
theorem validate_zsk_rrset_self_signed (hsv : env.SelfValidating)
    (h : (validate env msg t).run s = some ((res, t'), s'))
    {rrs : List RR} {out : List DNSSECPerSetResult} (hp : (rrs, out) ∈ sectionReports msg res)
    {r : DNSSECPerSetResult} (hr : r ∈ out) (hsec : r.status = .secure)
    (hT : r.rrset.rrtype ≠ typeDNSKEY) :
    ∃ sig k c, r.signature = some sig ∧ env.prims.verify sig k (rrs.filter (·.rrsetKey? = some r.rrset)) ∧
      c ∈ s.newCalls s' ∧ c.question.rrtype = typeDNSKEY ∧ .dnskey k ∈ c.result.res.answers ∧
      k.flags = zoneSigningKeyFlag ∧
      (c.result.res.dNSSECResult.isSome → k.hdr.rrtype = typeDNSKEY →
        ∃ sig' k', .rrsig sig' ∈ c.result.res.answers ∧ sig'.hdr.name = k.hdr.name ∧
          sig'.hdr.rrclass = k.hdr.rrclass ∧ sig'.typeCovered = typeDNSKEY ∧
          env.prims.validityPeriod sig' env.now ∧ env.prims.keyTag k' = sig'.keyTag ∧
          .dnskey k' ∈ c.result.res.answers.filter
            (·.rrsetKey? = some ⟨k.hdr.name, k.hdr.rrclass, typeDNSKEY⟩) ∧
          k'.flags = keySigningKeyFlag ∧
          env.prims.verify sig' k' (c.result.res.answers.filter
            (·.rrsetKey? = some ⟨k.hdr.name, k.hdr.rrclass, typeDNSKEY⟩))) := by
  obtain ⟨hth, -, -, -, hrep, -⟩ := validate_spec h
  obtain ⟨sig, k, hsig, -, -, -, -, hver, -, hcase⟩ := ((hrep _ hp).2.2 r hr).secure hsec
  obtain ⟨-, last, Zs, -, ⟨c, hc, hq, D, K, -, hks⟩, hz⟩ := hcase.resolve_left fun h => hT h.1
  obtain ⟨hkm, hkf, -⟩ := hks.zsk _ _ hz
  refine ⟨sig, k, c, hsig, hver, hc, by rw [hq]; rfl, hkm, hkf, fun hsome hkT => ?_⟩
  obtain ⟨res', hres'⟩ := Option.isSome_iff_exists.mp hsome
  obtain ⟨-, pre, hcr⟩ := hth.issued c hc
  obtain ⟨t₀, t₁, v, hsub⟩ := hsv pre c.question c.traceIn res' (hcr ▸ hres')
  rw [← hcr] at hsub
  exact validate_answer_dnskey_signed hsub (LookupResult.status_secure hks.passed hres') hkm hkT

end Spec

theorem validate_secure_one_level_signed :
    ∃ res t' s', (validate exampleEnv signedAMsg []).run .init = some ((res, t'), s') ∧
    ∃ r ∈ res.answer, r.status = .secure ∧
    ∃ cs, s'.calls = DNSSECValidator.init.calls ++ cs ∧ ∃ sig k, r.signature = some sig ∧
      .rrsig sig ∈ signedAMsg.answer ∧ sig.hdr.name = r.rrset.name ∧
      sig.hdr.rrclass = r.rrset.rrclass ∧ sig.typeCovered = r.rrset.rrtype ∧
      exampleEnv.prims.validityPeriod sig exampleEnv.now ∧
      exampleEnv.prims.verify sig k (signedAMsg.answer.filter (·.rrsetKey? = some r.rrset)) ∧
      exampleEnv.prims.keyTag k = sig.keyTag ∧
      ((r.rrset.rrtype = typeDNSKEY ∧ .dnskey k ∈ signedAMsg.answer.filter (·.rrsetKey? = some r.rrset) ∧
          k.flags = keySigningKeyFlag) ∨
       (r.rrset.rrtype ≠ typeDNSKEY ∧ ∃ last c,
         (signedAMsg.answer.filterMap (RR.sigFor? r.rrset)).getLast? = some last ∧
         c ∈ cs ∧ c.question = dnskeyQuestion last.signerName ∧ c.result.failed = false ∧
         .dnskey k ∈ c.result.res.answers ∧ k.flags = zoneSigningKeyFlag ∧
         ∃ ksk D, .dnskey ksk ∈ c.result.res.answers ∧ ksk.flags = keySigningKeyFlag ∧
           (matchedDS exampleEnv D ksk).isSome ∧ DSSource exampleEnv cs last.signerName D)) := by
  have hp : (validate exampleEnv signedAMsg []).run .init = some ((_, _), _) := rfl
  exact ⟨_, _, _, hp, _, List.mem_cons_self _ _, rfl,
    validate_secure_one_level hp (List.mem_cons_self _ _) (List.mem_singleton_self _) rfl⟩

/-! ### The mock library and the chain -/

/-- The mock `Verify` accepts a key only from the RRSIG's signer. -/
theorem mock_verify_signer {s : RRSIG} {k : DNSKEY} {rrs : List RR}
    (h : Primitives.mock.verify s k rrs = true) : toLower s.signerName = toLower k.hdr.name := by
  simp only [Primitives.mock, Bool.and_eq_true, beq_iff_eq] at h
  exact h.1.1.1.1.2

/-- The mock `Verify` accepts a key only under the RRSIG's key tag. -/
theorem mock_verify_keyTag {s : RRSIG} {k : DNSKEY} {rrs : List RR}
    (h : Primitives.mock.verify s k rrs = true) : s.keyTag = mockKeyTag k := by
  simp only [Primitives.mock, Bool.and_eq_true, beq_iff_eq] at h
  exact h.1.1.1.1.1.1.1

/-- The mock `ToDS` gives a key's DS the key's tag. -/
theorem mock_toDS_keyTag {k : DNSKEY} {h : UInt8} {a : DS} (ha : Primitives.mock.toDS k h = some a) :
    a.keyTag = mockKeyTag k := by
  simp only [Primitives.mock] at ha
  split_ifs at ha
  cases ha
  rfl

/-- Under the mock library, a trusted key's DNSKEY RRset in `U` carries an RRSIG with the key tag
of a trusted DS of the key's owner. -/
theorem Trusted.mock_key {env : Env} {U : List RR} {k : DNSKEY} (hp : env.prims = .mock)
    (h : Trusted env U (.key k)) :
    ∃ r d, .rrsig r ∈ U ∧ r.hdr.name = k.hdr.name ∧ r.typeCovered = typeDNSKEY ∧
      Trusted env U (.ds d) ∧ d.hdr.name = k.hdr.name ∧ d.keyTag = r.keyTag := by
  obtain ⟨r, k', -, hr, hrn, -, hrt, -, hver, hn', hk'⟩ := h.key_inv
  obtain ⟨d, a, -, hdn, hd, ha, htag, -⟩ := hk'.ksk_inv
  rw [hp] at hver ha
  refine ⟨r, d, hr, hrn, hrt, hd, hdn.trans hn', ?_⟩
  rw [← htag, mock_toDS_keyTag ha, mock_verify_keyTag hver]

/-- The root's KSK. -/
def rootKSK : DNSKEY := ⟨⟨".", typeDNSKEY, classINET, 172800⟩, 257, 3, 8, "AwEAAaz"⟩

/-- The pinned DS of the root's KSK. -/
def rootDS : DS := ⟨⟨".", typeDS, classINET, 86400⟩, mockKeyTag rootKSK, 8, 2, ".AwEAAaz"⟩

/-- The root anchors: `rootDS`. -/
def rootAnchors : GoMap UInt16 DS := GoMap.empty.set rootDS.keyTag rootDS

theorem rootAnchors_get? {t : UInt16} {d : DS} (h : rootAnchors.get? t = some d) : d = rootDS := by
  simp only [rootAnchors, GoMap.get?_set, GoMap.get?_empty] at h
  split at h
  · cases h; rfl
  · cases h

/-! ### A self-signed DNSKEY RRset -/

/-- The validator pinned to `rootDS`, with a resolver that answers nothing. -/
def anchoredEnv : Env := Env.mock rootAnchors fun _ => ⟨[], [], [], none⟩

/-- A response whose Answer is `example.`'s DNSKEY RRset, signed by its own KSK. -/
def selfSignedMsg : Msg := ⟨[.dnskey exampleKSK, .rrsig (signedBy typeDNSKEY exampleKSK)], [], []⟩

/-- `example.`'s self-signed DNSKEY RRset is Secure, yet over any records without a DS no key
that verifies its signature is trusted, as a key or as a KSK. -/
theorem validate_self_signed_dnskey :
    anchoredEnv.SelfValidating ∧
    ((validate anchoredEnv selfSignedMsg []).run .init).map (·.1.1.answer) =
      some [⟨⟨"example.", classINET, typeDNSKEY⟩, .secure, some (signedBy typeDNSKEY exampleKSK), ""⟩] ∧
    ∀ U k, (∀ d, .ds d ∉ U) →
      anchoredEnv.prims.verify (signedBy typeDNSKEY exampleKSK) k [.dnskey exampleKSK] = true →
      ¬ Trusted anchoredEnv U (.key k) ∧ ¬ Trusted anchoredEnv U (.ksk k) := by
  refine ⟨fun _ _ _ _ h => Option.noConfusion h, by decide, fun U k hU hv => ?_⟩
  have hk : toLower k.hdr.name = "example." := (mock_verify_signer hv).symm.trans (by decide)
  have hroot : ∀ v, Trusted anchoredEnv U v → v.owner = rootZone := fun _ =>
    Trusted.owner_root (fun _ _ h => (rootAnchors_get? h).symm ▸ rfl) hU
  refine ⟨fun h => ?_, fun h => ?_⟩ <;>
  · have := hroot _ h
    simp only [TrustNode.owner] at this
    rw [this] at hk
    exact absurd hk (by decide)

/-! ### A rogue KSK beside the vouched one -/

/-- The root's ZSK. -/
def rootZSK : DNSKEY := ⟨⟨".", typeDNSKEY, classINET, 172800⟩, 256, 3, 8, "AwEAAr"⟩

/-- A KSK in `example.`'s DNSKEY RRset that no DS vouches for. -/
def rogueKSK : DNSKEY := ⟨⟨"example.", typeDNSKEY, classINET, 3600⟩, 257, 3, 8, "AwEAAg"⟩

/-- The root KSK's RRSIG over the root's DNSKEY RRset. -/
def rootKeysSig : RRSIG :=
  ⟨⟨".", typeRRSIG, classINET, 172800⟩, typeDNSKEY, 8, 0, 172800, 200, 100, mockKeyTag rootKSK, ".",
    "sig:AwEAAaz"⟩

/-- The root's DNSKEY RRset, signed by the root's KSK. -/
def rootKeys : List RR := [.dnskey rootKSK, .dnskey rootZSK, .rrsig rootKeysSig]

/-- `example.`'s DNSKEY RRset: the KSK its DS vouches for, the rogue KSK and the ZSK, signed by the
rogue KSK alone. -/
def rogueKeys : List RR :=
  [.dnskey exampleKSK, .dnskey rogueKSK, .dnskey exampleZSK, .rrsig (signedBy typeDNSKEY rogueKSK)]

/-- The root ZSK's RRSIG over `example.`'s DS RRset. -/
def exampleDSSig : RRSIG :=
  ⟨⟨"example.", typeRRSIG, classINET, 86400⟩, typeDS, 8, 1, 86400, 200, 100, mockKeyTag rootZSK, ".",
    "sig:AwEAAr"⟩

/-- `example.`'s DS RRset, signed by the root's ZSK. -/
def exampleDSSet : List RR := [.ds exampleDS, .rrsig exampleDSSig]

/-- The answers of the root's and `example.`'s servers. -/
def rogueAnswer (q : Question) : List RR :=
  if q = dnskeyQuestion rootZone then rootKeys
  else if q = dnskeyQuestion "example." then rogueKeys
  else if q = dsQuestion "example." then exampleDSSet
  else []

/-- The resolver returning `rogueAnswer` as cache hits. -/
def rogueCacheEnv : Env := Env.mock rootAnchors fun q => ⟨rogueAnswer q, [], [], none⟩

/-- The resolver returning `rogueAnswer` with the `DNSSECResult` the validator computes for it. -/
def rogueEnv : Env :=
  Env.mock rootAnchors fun q =>
    ⟨rogueAnswer q, [], [], ((validate rogueCacheEnv ⟨rogueAnswer q, [], []⟩ []).run .init).map (·.1.1)⟩

/-- The records the validator can see: the response and every answer. -/
def rogueRecords : List RR := signedAMsg.answer ++ rootKeys ++ rogueKeys ++ exampleDSSet

/-- A cache hit passes the check as a Secure result does, so each answer's result is the same
whether the answers below it carry results or not: `rogueEnv` validates what it returns. -/
theorem rogueEnv_selfValidating : rogueEnv.SelfValidating := by
  intro calls q t res h
  have hm : ∀ m ∈ [rootKeys, rogueKeys, exampleDSSet, []],
      ((validate rogueEnv ⟨m, [], []⟩ []).run .init).map (·.1.1) =
        ((validate rogueCacheEnv ⟨m, [], []⟩ []).run .init).map (·.1.1) := by
    decide
  have hq : rogueAnswer q ∈ [rootKeys, rogueKeys, exampleDSSet, []] := by
    unfold rogueAnswer
    split_ifs <;> simp
  simp only [rogueEnv, Env.mock] at h
  rw [← hm _ hq, Option.map_eq_some'] at h
  obtain ⟨⟨⟨_, t₁⟩, v⟩, hrun, rfl⟩ := h
  exact ⟨[], t₁, v, hrun⟩

theorem rogueRecords_ds {d : DS} (h : .ds d ∈ rogueRecords) : d = exampleDS := by
  simpa [rogueRecords, signedAMsg, exampleA, rootKeys, rogueKeys, exampleDSSet] using h

theorem rogueRecords_dnskey_sig {r : RRSIG} (h : .rrsig r ∈ rogueRecords)
    (hn : r.hdr.name = "example.") (ht : r.typeCovered = typeDNSKEY) :
    r = signedBy typeDNSKEY rogueKSK := by
  simp only [rogueRecords, signedAMsg, exampleA, rootKeys, rogueKeys, exampleDSSet, List.cons_append,
    List.nil_append, List.mem_cons, RR.rrsig.injEq, reduceCtorEq, List.not_mem_nil, false_or,
    or_false] at h
  rcases h with rfl | rfl | rfl | rfl
  · exact absurd ht (by decide)
  · exact absurd hn (by decide)
  · rfl
  · exact absurd ht (by decide)

/-- Over a resolver that validates what it returns, `example.`'s A RRset is Secure under its ZSK.
The DNSKEY answer handing the ZSK out was reported Secure on the rogue KSK's signature. The KSK
the DS vouches for is trusted, yet no key that verifies the A RRset's signature is. -/
theorem validate_rogue_ksk_zsk :
    rogueEnv.SelfValidating ∧
    (rogueEnv.lookup [] (dnskeyQuestion "example.") []).res.dNSSECResult.map (·.status) = some .secure ∧
    ((validate rogueEnv signedAMsg []).run .init).map (·.1.1.answer) =
      some [⟨⟨"example.", classINET, typeA⟩, .secure, some (signedBy typeA exampleZSK), ""⟩] ∧
    Trusted rogueEnv rogueRecords (.ksk exampleKSK) ∧
    ∀ k, rogueEnv.prims.verify (signedBy typeA exampleZSK) k [exampleA] = true →
      ¬ Trusted rogueEnv rogueRecords (.key k) := by
  have hroot : Trusted rogueEnv rogueRecords (.ksk rootKSK) :=
    .ksk rfl rfl (.anchor (by decide : rogueEnv.rootAnchors.get? rootDS.keyTag = some rootDS)) rfl rfl rfl
  refine ⟨rogueEnv_selfValidating, by decide, by decide, ?_, fun k hv h => ?_⟩
  · have hzsk : Trusted rogueEnv rogueRecords (.key rootZSK) :=
      @Trusted.key _ _ rootZSK rootKSK rootKeysSig (by decide) (by decide) rfl rfl rfl (by decide)
        (by decide) rfl hroot
    exact .ksk rfl rfl (@Trusted.signedDS _ _ exampleDS exampleDSSig rootZSK (by decide) (by decide)
      (by decide) rfl rfl rfl (by decide) (by decide) rfl rfl hzsk) rfl rfl rfl
  · have hk : toLower k.hdr.name = "example." := (mock_verify_signer hv).symm.trans (by decide)
    obtain ⟨r, d, hr, hrn, hrt, hd, hdn, htag⟩ := h.mock_key rfl
    rcases hd.ds_inv with ⟨_, ha⟩ | hdU
    · rw [← hdn, rootAnchors_get? ha] at hk
      exact absurd hk (by decide)
    · obtain rfl := rogueRecords_ds hdU
      obtain rfl := rogueRecords_dnskey_sig hr (hrn.trans hdn.symm) hrt
      exact absurd htag (by decide)

/-- **Secure is not trusted.**  A DNSKEY RRset alone in an Answer is Secure on its own KSK's
signature, though with no DS record in sight no key of its owner is trusted.  And over a resolver
that validates what it returns, an A RRset is Secure under a ZSK that no chain of trust reaches:
its DNSKEY RRset was signed by a KSK no DS vouches for, beside the one a DS does. -/
theorem validate_secure_untrusted :
    (anchoredEnv.SelfValidating ∧
      ((validate anchoredEnv selfSignedMsg []).run .init).map (·.1.1.answer) =
        some [⟨⟨"example.", classINET, typeDNSKEY⟩, .secure, some (signedBy typeDNSKEY exampleKSK), ""⟩] ∧
      ∀ U k, (∀ d, .ds d ∉ U) →
        anchoredEnv.prims.verify (signedBy typeDNSKEY exampleKSK) k [.dnskey exampleKSK] = true →
        ¬ Trusted anchoredEnv U (.key k) ∧ ¬ Trusted anchoredEnv U (.ksk k)) ∧
    (rogueEnv.SelfValidating ∧
      (rogueEnv.lookup [] (dnskeyQuestion "example.") []).res.dNSSECResult.map (·.status) = some .secure ∧
      ((validate rogueEnv signedAMsg []).run .init).map (·.1.1.answer) =
        some [⟨⟨"example.", classINET, typeA⟩, .secure, some (signedBy typeA exampleZSK), ""⟩] ∧
      Trusted rogueEnv rogueRecords (.ksk exampleKSK) ∧
      ∀ k, rogueEnv.prims.verify (signedBy typeA exampleZSK) k [exampleA] = true →
        ¬ Trusted rogueEnv rogueRecords (.key k)) :=
  ⟨validate_self_signed_dnskey, validate_rogue_ksk_zsk⟩

/-- Over `rogueEnv`, the ZSK that verified the A RRset lies in `example.`'s DNSKEY RRset, which
the rogue KSK signed. -/
theorem validate_zsk_rrset_self_signed_rogue :
    ∃ res t' s', (validate rogueEnv signedAMsg []).run .init = some ((res, t'), s') ∧
    ∃ r ∈ res.answer, r.status = .secure ∧ r.rrset.rrtype ≠ typeDNSKEY ∧
    ∃ sig k c, r.signature = some sig ∧
      rogueEnv.prims.verify sig k (signedAMsg.answer.filter (·.rrsetKey? = some r.rrset)) ∧
      c ∈ DNSSECValidator.init.newCalls s' ∧ c.question.rrtype = typeDNSKEY ∧
      .dnskey k ∈ c.result.res.answers ∧ k.flags = zoneSigningKeyFlag ∧
      (c.result.res.dNSSECResult.isSome → k.hdr.rrtype = typeDNSKEY →
        ∃ sig' k', .rrsig sig' ∈ c.result.res.answers ∧ sig'.hdr.name = k.hdr.name ∧
          sig'.hdr.rrclass = k.hdr.rrclass ∧ sig'.typeCovered = typeDNSKEY ∧
          rogueEnv.prims.validityPeriod sig' rogueEnv.now ∧ rogueEnv.prims.keyTag k' = sig'.keyTag ∧
          .dnskey k' ∈ c.result.res.answers.filter
            (·.rrsetKey? = some ⟨k.hdr.name, k.hdr.rrclass, typeDNSKEY⟩) ∧
          k'.flags = keySigningKeyFlag ∧
          rogueEnv.prims.verify sig' k' (c.result.res.answers.filter
            (·.rrsetKey? = some ⟨k.hdr.name, k.hdr.rrclass, typeDNSKEY⟩))) := by
  have hp : (validate rogueEnv signedAMsg []).run .init = some ((_, _), _) := rfl
  have hT : (⟨"example.", classINET, typeA⟩ : RRsetKey).rrtype ≠ typeDNSKEY := by decide
  exact ⟨_, _, _, hp, _, List.mem_cons_self _ _, rfl, hT,
    validate_zsk_rrset_self_signed rogueEnv_selfValidating hp (List.mem_cons_self _ _)
      (List.mem_cons_self _ _) rfl hT⟩

end Zdns
