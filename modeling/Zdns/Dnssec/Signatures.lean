import Zdns.Dnssec.KeySet

/-!
# DNSSEC — Signatures

What `validateRRSIG` returns.  Its first loop fetches the keys of every RRSIG's signer and keeps
only the last signer's ZSKs (`fetchSignerKeys_spec`); its second tries the RRSIGs in list order
and stops at the first in its validity period whose tag has no key (`verifyRRSIGs_spec`).

* `validateRRSIG_spec`: a signature it returns is one of the RRSIGs, in its validity period,
  verified under a key filed under its tag: a flag-257 key of the RRset itself for a DNSKEY
  RRset, else a ZSK of the key set `getDNSKEYs` handed out for the last RRSIG's signer; and it
  returns no signature only with an error.
* `validateRRSIG_dnskey_offline`: a DNSKEY RRset is checked against its own KSKs alone, with no
  sub-lookup and no DS record, and never panics.
* `validateRRSIG_order_dependent`: a DNSKEY RRset signed by its KSK and by its ZSK is Secure or
  not depending on the order of the two RRSIGs.

`DSExplained` names where every DS recorded so far comes from: the matched DS of a flag-257 key
of a DNSKEY answer that passed, against the DS records of the same signer.
-/

namespace Zdns

section
variable (env : Env)

/-- `d` is the matched DS of a KSK of the DNSKEY answer `c` for some signer `Z`, against the DS
records of `Z`. -/
def DSExplained (calls : List Call) (d : DS) : Prop :=
  ∃ Z c D k, c ∈ calls ∧ c.question = dnskeyQuestion Z ∧ c.result.failed = false ∧
    DSSource env calls Z D ∧ .dnskey k ∈ c.result.res.answers ∧ k.flags = keySigningKeyFlag ∧
    matchedDS env D k = some d

/-- `Zs` is the ZSK map a successful `getDNSKEYs Z` handed out, given the sub-lookups `calls`. -/
def ZSKsOf (calls : List Call) (Z : String) (Zs : GoMap UInt16 DNSKEY) : Prop :=
  ∃ c ∈ calls, c.question = dnskeyQuestion Z ∧ ∃ D K, DSSource env calls Z D ∧ KeySet env c D K Zs

/-- `r`, one of the RRSIGs `sigs` of an RRset of type `T`, is in its validity period and
verifies the RRset under `k`, filed under its tag: a KSK of the RRset itself for a DNSKEY RRset,
else a ZSK that `getDNSKEYs` handed out for the signer of the last RRSIG. -/
def SigVerified (calls : List Call) (T : UInt16) (rrSet : List RR) (sigs : List RRSIG) (r : RRSIG)
    (k : DNSKEY) : Prop :=
  r ∈ sigs ∧ env.prims.validityPeriod r env.now ∧ env.prims.verify r k rrSet ∧
    env.prims.keyTag k = r.keyTag ∧
    ((T = typeDNSKEY ∧ .dnskey k ∈ rrSet ∧ k.flags = keySigningKeyFlag) ∨
     (T ≠ typeDNSKEY ∧ ∃ last Zs, sigs.getLast? = some last ∧
       ZSKsOf env calls last.signerName Zs ∧ Zs.get? r.keyTag = some k))

end

section Mono
variable {env : Env} {calls calls' : List Call}

theorem DSExplained.mono {d : DS} (h : DSExplained env calls d) (hc : ∀ c ∈ calls, c ∈ calls') :
    DSExplained env calls' d := by
  obtain ⟨Z, c, D, k, hmem, hq, hf, hD, hk⟩ := h
  exact ⟨Z, c, D, k, hc c hmem, hq, hf, hD.mono hc, hk⟩

theorem ZSKsOf.mono {Z : String} {Zs : GoMap UInt16 DNSKEY} (h : ZSKsOf env calls Z Zs)
    (hc : ∀ c ∈ calls, c ∈ calls') : ZSKsOf env calls' Z Zs := by
  obtain ⟨c, hmem, hq, D, K, hD, hks⟩ := h
  exact ⟨c, hc c hmem, hq, D, K, hD.mono hc, hks⟩

theorem SigVerified.mono {T : UInt16} {rrSet : List RR} {sigs : List RRSIG} {r : RRSIG} {k : DNSKEY}
    (h : SigVerified env calls T rrSet sigs r k) (hc : ∀ c ∈ calls, c ∈ calls') :
    SigVerified env calls' T rrSet sigs r k :=
  h.imp_right (.imp_right (.imp_right (.imp_right (.imp_right fun ⟨hT, last, Zs, hl, hZ, hk⟩ =>
    ⟨hT, last, Zs, hl, hZ.mono hc, hk⟩))))

end Mono

section Spec
variable {env : Env} {s s' : DNSSECValidator} {t t' : Trace}

/-- `getDNSKEYs` records only explained DS records. -/
theorem getDNSKEYs_ds {Z : String} {ksks zsks : Option (GoMap UInt16 DNSKEY)} {err : Option Err}
    (h : (getDNSKEYs env Z t).run s = some ((ksks, zsks, t', err), s')) :
    ∀ d ∈ s'.ds, d ∈ s.ds ∨ DSExplained env (s.newCalls s') d := by
  rcases (getDNSKEYs_spec h).2.2 with ⟨-, -, -, hds⟩ | ⟨-, c, D, K, Zs, hc, hq, hD, -, -, hks, hds⟩
  · exact fun d hd => .inl (hds ▸ hd)
  · exact fun d hd => (hds d hd).imp_right fun ⟨k, hk, hf, hm⟩ =>
      ⟨Z, c, D, k, hc, hq, hks.passed, hD, hk, hf, hm⟩

/-- The KSKs `parseKSKs` files are flag-257 keys of the RRset, each under its tag. -/
theorem parseKSKs_get? {l : List RR} {K M : GoMap UInt16 DNSKEY}
    (h : (parseKSKs env l K).1 = some M) {t : UInt16} {k : DNSKEY} (hk : M.get? t = some k) :
    K.get? t = some k ∨ (.dnskey k ∈ l ∧ k.flags = keySigningKeyFlag ∧ env.prims.keyTag k = t) := by
  induction l generalizing K with
  | nil =>
      simp only [parseKSKs] at h
      split at h
      · cases h
      · cases h; exact .inl hk
  | cons rr rest ih =>
      cases rr with
      | dnskey k' =>
          simp only [parseKSKs] at h
          split at h
          · next hf =>
              rcases ih h with h' | ⟨hm, hf', ht⟩
              · rw [GoMap.get?_set] at h'
                split at h'
                · next ht => cases h'; exact .inr ⟨List.mem_cons_self _ _, hf, ht.symm⟩
                · exact .inl h'
              · exact .inr ⟨List.mem_cons_of_mem _ hm, hf', ht⟩
          · split at h
            · exact (ih h).imp_right fun ⟨hm, hf, ht⟩ => ⟨List.mem_cons_of_mem _ hm, hf, ht⟩
            · cases h
      | ds _ | rrsig _ | other _ _ => simp [parseKSKs] at h

/-- The first loop of `validateRRSIG`: its sub-lookups, the DS records it adds, and, when no
signer failed, the last signer's ZSK map. -/
theorem fetchSignerKeys_spec {sigs : List RRSIG} {dm dm' : Option (GoMap UInt16 DNSKEY)}
    {err : Option Err} (h : (fetchSignerKeys env sigs dm t).run s = some ((dm', t', err), s')) :
    Threads env s s' t t' ∧ s'.dNSKEY = s.dNSKEY ∧
    (∀ d ∈ s'.ds, d ∈ s.ds ∨ DSExplained env (s.newCalls s') d) ∧
    (err = none → (sigs = [] ∧ dm' = dm) ∨ ∃ last Zs, sigs.getLast? = some last ∧ dm' = some Zs ∧
      ZSKsOf env (s.newCalls s') last.signerName Zs) := by
  induction sigs generalizing dm t s with
  | nil =>
      simp only [fetchSignerKeys, run_pure_eq_some, Prod.mk.injEq] at h
      obtain ⟨⟨rfl, rfl, rfl⟩, rfl⟩ := h
      exact ⟨Threads.refl rfl, rfl, fun d hd => .inl hd, fun _ => .inl ⟨rfl, rfl⟩⟩
  | cons sig rest ih =>
      obtain ⟨⟨ksks, zsks, t₁, e₁⟩, s₁, h₁, h₂⟩ := run_bind_eq_some.mp h
      have hk := getDNSKEYs_spec h₁
      have hds := getDNSKEYs_ds h₁
      cases e₁ with
      | some e =>
          simp only [run_pure_eq_some, Prod.mk.injEq] at h₂
          obtain ⟨⟨rfl, rfl, rfl⟩, rfl⟩ := h₂
          exact ⟨hk.1, hk.2.1, hds, by simp⟩
      | none =>
          obtain ⟨hT, hK, hD, hE⟩ := ih h₂
          refine ⟨hk.1.trans hT, hK.trans hk.2.1, fun d hd => ?_, fun he => .inr ?_⟩
          · exact (hD d hd).elim (fun hd => (hds d hd).imp_right (·.mono (hk.1.sub_left hT)))
              fun hd => .inr (hd.mono (hk.1.sub_right hT))
          · rcases hE he with ⟨rfl, rfl⟩ | ⟨last, Zs, hl, rfl, hZ⟩
            · rcases hk.2.2 with ⟨h, -⟩ | ⟨-, c, D, K, Zs, hc, hq, hDs, -, rfl, hks, -⟩
              · simp at h
              · exact ⟨sig, Zs, rfl, rfl, c, hk.1.sub_left hT c hc, hq, D, K,
                  hDs.mono (hk.1.sub_left hT), hks⟩
            · exact ⟨last, Zs, by simp [List.getLast?_cons, hl], rfl, hZ.mono (hk.1.sub_right hT)⟩

/-- The second loop of `validateRRSIG` issues no sub-lookup.  It returns a signature only after
verifying it under the key its map holds for its tag, and then records that key; otherwise it
returns an error and records nothing. -/
theorem verifyRRSIGs_spec {rrSet : List RR} {dm : Option (GoMap UInt16 DNSKEY)} {L : List RRSIG}
    {sig : Option RRSIG} {err : Option Err}
    (h : (verifyRRSIGs env rrSet dm t L).run s = some ((sig, t', err), s')) :
    t' = t ∧ s'.calls = s.calls ∧ s'.ds = s.ds ∧
    ((sig = none ∧ err.isSome ∧ s'.dNSKEY = s.dNSKEY) ∨
     ∃ r ∈ L, ∃ k, sig = some r ∧ err = none ∧ env.prims.validityPeriod r env.now ∧
       dm.bind (·.get? r.keyTag) = some k ∧ env.prims.verify r k rrSet ∧
       s'.dNSKEY = s.dNSKEY.insert k) := by
  induction L with
  | nil =>
      simp only [verifyRRSIGs, run_pure_eq_some, Prod.mk.injEq] at h
      obtain ⟨⟨rfl, rfl, rfl⟩, rfl⟩ := h
      exact ⟨rfl, rfl, rfl, .inl ⟨rfl, rfl, rfl⟩⟩
  | cons r rest ih =>
      simp only [verifyRRSIGs] at h
      split at h
      · next hv =>
          split at h
          · simp only [run_pure_eq_some, Prod.mk.injEq] at h
            obtain ⟨⟨rfl, rfl, rfl⟩, rfl⟩ := h
            exact ⟨rfl, rfl, rfl, .inl ⟨rfl, rfl, rfl⟩⟩
          · next k hk =>
              split at h
              · next hver =>
                  simp only [run_bind_eq_some, run_recordDNSKEY, Option.some.injEq, Prod.mk.injEq,
                    run_pure_eq_some] at h
                  obtain ⟨_, _, ⟨-, rfl⟩, ⟨rfl, rfl, rfl⟩, rfl⟩ := h
                  exact ⟨rfl, rfl, rfl, .inr ⟨r, List.mem_cons_self _ _, k, rfl, rfl, hv, hk, hver, rfl⟩⟩
              · exact (ih h).imp id (.imp id (.imp id (.imp_right fun ⟨r', hm, hr'⟩ =>
                  ⟨r', List.mem_cons_of_mem r hm, hr'⟩)))
      · exact (ih h).imp id (.imp id (.imp id (.imp_right fun ⟨r', hm, hr'⟩ =>
          ⟨r', List.mem_cons_of_mem r hm, hr'⟩)))

/-- **What `validateRRSIG` returns.**  It issues DNSKEY and DS sub-lookups only, threading the
trace through them, and records only explained DS records.  It returns no signature only with an
error, recording no key.  A signature it returns is one of the RRSIGs, in its validity period,
verified under a key `k` filed under its tag, and `k` is recorded: for a DNSKEY RRset a KSK of the
RRset itself, else a ZSK that `getDNSKEYs` handed out for the signer of the last RRSIG. -/
theorem validateRRSIG_spec {T : UInt16} {rrSet : List RR} {sigs : List RRSIG} {sig : Option RRSIG}
    {err : Option Err} (h : (validateRRSIG env T rrSet sigs t).run s = some ((sig, t', err), s')) :
    Threads env s s' t t' ∧ (∀ d ∈ s'.ds, d ∈ s.ds ∨ DSExplained env (s.newCalls s') d) ∧
    ((sig = none ∧ err.isSome ∧ s'.dNSKEY = s.dNSKEY) ∨
     ∃ r k, sig = some r ∧ err = none ∧ s'.dNSKEY = s.dNSKEY.insert k ∧
       SigVerified env (s.newCalls s') T rrSet sigs r k) := by
  unfold validateRRSIG at h
  split at h
  · next hT =>
      split at h
      · simp only [run_pure_eq_some, Prod.mk.injEq] at h
        obtain ⟨⟨rfl, rfl, rfl⟩, rfl⟩ := h
        exact ⟨Threads.refl rfl, fun d hd => .inl hd, .inl ⟨rfl, rfl, rfl⟩⟩
      · next dm hp =>
          obtain ⟨rfl, hc, hds, hv | ⟨r, hr, k, rfl, rfl, hval, hk, hver, hK⟩⟩ := verifyRRSIGs_spec h
          · exact ⟨Threads.refl hc, fun d hd => .inl (hds ▸ hd), .inl hv⟩
          cases dm with
          | none => cases hk
          | some M =>
              rcases parseKSKs_get? (congrArg Prod.fst hp) hk with h0 | ⟨hmem, hflag, htag⟩
              · simp at h0
              · exact ⟨Threads.refl hc, fun d hd => .inl (hds ▸ hd),
                  .inr ⟨r, k, rfl, rfl, hK, hr, hval, hver, htag, .inl ⟨hT, hmem, hflag⟩⟩⟩
  · next hT =>
      obtain ⟨⟨dm, t₁, e₁⟩, s₁, h₁, h₂⟩ := run_bind_eq_some.mp h
      obtain ⟨hth, hK₁, hds₁, hlast⟩ := fetchSignerKeys_spec h₁
      cases e₁ with
      | some e =>
          simp only [run_pure_eq_some, Prod.mk.injEq] at h₂
          obtain ⟨⟨rfl, rfl, rfl⟩, rfl⟩ := h₂
          exact ⟨hth, hds₁, .inl ⟨rfl, rfl, hK₁⟩⟩
      | none =>
          obtain ⟨rfl, hc, hds, hcase⟩ := verifyRRSIGs_spec h₂
          have hn : s.newCalls s' = s.newCalls s₁ := congrArg (List.drop s.calls.length) hc
          rcases hcase with hv | ⟨r, hr, k, rfl, rfl, hval, hk, hver, hK⟩
          · exact ⟨hth.trans (Threads.refl hc), fun d hd => hn ▸ hds₁ d (hds ▸ hd),
              .inl ⟨hv.1, hv.2.1, hv.2.2.trans hK₁⟩⟩
          rcases hlast rfl with ⟨rfl, -⟩ | ⟨last, Zs, hl, rfl, c, hcm, hq, D, K, hD, hks⟩
          · cases hr
          · exact ⟨hth.trans (Threads.refl hc), fun d hd => hn ▸ hds₁ d (hds ▸ hd),
              .inr ⟨r, k, rfl, rfl, hK.trans (by rw [hK₁]), hr, hval, hver,
              (hks.zsk _ _ hk).2.2, .inr ⟨hT, last, Zs, hl, hn ▸ ⟨c, hcm, hq, D, K, hD, hks⟩, hk⟩⟩⟩

/-! ### Panics -/

/-- The first loop of `validateRRSIG` panics only where `getDNSKEYs` does. -/
theorem fetchSignerKeys_eq_none {sigs : List RRSIG} {dm : Option (GoMap UInt16 DNSKEY)}
    (h : (fetchSignerKeys env sigs dm t).run s = none) : ToDSPanics env := by
  induction sigs generalizing dm t s with
  | nil => cases h
  | cons sig rest ih =>
      rcases run_bind_eq_none.mp h with h | ⟨⟨_, _, _, e⟩, _, -, h⟩
      · exact getDNSKEYs_eq_none h
      cases e with
      | some _ => cases h
      | none => exact ih h

/-- The second loop of `validateRRSIG` never panics. -/
theorem verifyRRSIGs_ne_none {rrSet : List RR} {dm : Option (GoMap UInt16 DNSKEY)} {L : List RRSIG} :
    (verifyRRSIGs env rrSet dm t L).run s ≠ none := by
  induction L with
  | nil => simp [verifyRRSIGs]
  | cons r rest ih =>
      simp only [verifyRRSIGs]
      split
      · split
        · simp
        · split
          · simp [StateT.run_bind]
          · exact ih
      · exact ih

/-- `validateRRSIG` panics only in its first loop, where `getDNSKEYs` does. -/
theorem validateRRSIG_eq_none {T : UInt16} {rrSet : List RR} {sigs : List RRSIG}
    (h : (validateRRSIG env T rrSet sigs t).run s = none) : ToDSPanics env := by
  unfold validateRRSIG at h
  split at h
  · split at h
    · cases h
    · exact absurd h verifyRRSIGs_ne_none
  · rcases run_bind_eq_none.mp h with h | ⟨⟨_, _, e⟩, _, -, h⟩
    · exact fetchSignerKeys_eq_none h
    cases e with
    | some _ => cases h
    | none => exact absurd h verifyRRSIGs_ne_none

/-- **A DNSKEY RRset is checked against itself alone.**  On a DNSKEY RRset `validateRRSIG` never
panics, issues no sub-lookup, records no DS, and hands the trace back unchanged.  A signature it
returns verified the RRset under a flag-257 key of the RRset itself, filed under the RRSIG's
tag, and that key is the one recorded; no DS record vouches for it. -/
theorem validateRRSIG_dnskey_offline (rrSet : List RR) (sigs : List RRSIG) (t : Trace)
    (s : DNSSECValidator) :
    ∃ sig err s', (validateRRSIG env typeDNSKEY rrSet sigs t).run s = some ((sig, t, err), s') ∧
      s'.calls = s.calls ∧ s'.ds = s.ds ∧
      ((sig = none ∧ err.isSome ∧ s'.dNSKEY = s.dNSKEY) ∨
       ∃ r k, sig = some r ∧ err = none ∧ r ∈ sigs ∧ .dnskey k ∈ rrSet ∧
         k.flags = keySigningKeyFlag ∧ env.prims.keyTag k = r.keyTag ∧ env.prims.verify r k rrSet ∧
         s'.dNSKEY = s.dNSKEY.insert k) := by
  unfold validateRRSIG
  rw [if_pos rfl]
  rcases hp : parseKSKsFromAnswer env rrSet with ⟨dm, _ | e⟩
  · obtain ⟨⟨⟨sig, t', err⟩, s'⟩, hrun⟩ := Option.ne_none_iff_exists'.mp
      (verifyRRSIGs_ne_none : (verifyRRSIGs env rrSet dm t sigs).run s ≠ none)
    obtain ⟨rfl, hc, hds, hv | ⟨r, hr, k, rfl, rfl, -, hk, hver, hK⟩⟩ := verifyRRSIGs_spec hrun
    · exact ⟨_, _, _, hrun, hc, hds, .inl hv⟩
    cases dm with
    | none => cases hk
    | some M =>
        rcases parseKSKs_get? (congrArg Prod.fst hp) hk with h0 | ⟨hmem, hflag, htag⟩
        · simp at h0
        · exact ⟨_, _, _, hrun, hc, hds, .inr ⟨r, k, rfl, rfl, hr, hmem, hflag, htag, hver, hK⟩⟩
  · exact ⟨_, _, _, rfl, rfl, rfl, .inl ⟨rfl, rfl, rfl⟩⟩

end Spec

/-! ### A DNSKEY RRset signed by its KSK and its ZSK -/

/-- A ZSK of `example.`. -/
def exampleZSK : DNSKEY := ⟨⟨"example.", typeDNSKEY, classINET, 3600⟩, 256, 3, 8, "AwEAAe"⟩

/-- The DNSKEY RRset of `example.`. -/
def exampleKeys : List RR := [.dnskey exampleKSK, .dnskey exampleZSK]

/-- The RRSIG the key `k` makes over the `example.` RRset of type `T`, valid from 100 to 200. -/
def signedBy (T : UInt16) (k : DNSKEY) : RRSIG :=
  ⟨⟨"example.", typeRRSIG, classINET, 3600⟩, T, k.algorithm, 1, 3600, 200, 100, mockKeyTag k,
    k.hdr.name, "sig:" ++ k.publicKey⟩

/-- The KSK's RRSIG over `example.`'s DNSKEY RRset is valid and verifies.  With the ZSK's RRSIG
before it, `validateRRSIG` finds no KSK under the ZSK's tag and gives up; in the other order it
returns the KSK's RRSIG. -/
theorem validateRRSIG_order_dependent :
    Primitives.mock.validityPeriod (signedBy typeDNSKEY exampleKSK) 150 = true ∧
    Primitives.mock.verify (signedBy typeDNSKEY exampleKSK) exampleKSK exampleKeys = true ∧
    ((validateRRSIG (keysEnv [] []) typeDNSKEY exampleKeys
      [signedBy typeDNSKEY exampleZSK, signedBy typeDNSKEY exampleKSK] []).run .init).map (·.1) =
      some (none, [], some (.noMatchingDNSKEY (mockKeyTag exampleZSK))) ∧
    ((validateRRSIG (keysEnv [] []) typeDNSKEY exampleKeys
      [signedBy typeDNSKEY exampleKSK, signedBy typeDNSKEY exampleZSK] []).run .init).map (·.1) =
      some (some (signedBy typeDNSKEY exampleKSK), [], none) := by
  decide

end Zdns
