import Zdns.Dnssec.Report

/-!
# DNSSEC — The questions the validator asks

The validator asks the resolver two kinds of questions, both about a signer that an RRSIG names:
its DNSKEY records (`dnskeyQuestion`) and, below the root, its DS records (`dsQuestion`).

* `getDNSKEYs_questions`: `getDNSKEYs Z` asks the DNSKEY question of `Z`.  When `Z` is not the
  root and that answer passed the check with a KSK and a ZSK, it then asks the DS question of `Z`.
  It asks nothing else.
* `validate_asks_signers`: every sub-lookup of a run of `validate` is the DNSKEY or the DS question
  of the signer of one of the message's own RRSIGs, over a type other than DNSKEY.  The validator
  never asks about any other zone, so it does not walk the chain of trust up from a signer.
-/

namespace Zdns

/-- `q` is one of the two questions the validator asks about the signer `Z`. -/
def AsksAbout (Z : String) (q : Question) : Prop := q = dnskeyQuestion Z ∨ q = dsQuestion Z

/-- From `s` to `s'` a run issued sub-lookups only for questions satisfying `P`. -/
def AsksOnly (P : Question → Prop) (s s' : DNSSECValidator) : Prop :=
  ∃ cs, s'.calls = s.calls ++ cs ∧ ∀ c ∈ cs, P c.question

namespace AsksOnly
variable {P Q : Question → Prop} {s₁ s₂ s₃ : DNSSECValidator}

theorem of_calls_eq (h : s₂.calls = s₁.calls) : AsksOnly P s₁ s₂ := ⟨[], by simp [h], by simp⟩

theorem trans (h₁ : AsksOnly P s₁ s₂) (h₂ : AsksOnly P s₂ s₃) : AsksOnly P s₁ s₃ := by
  obtain ⟨cs₁, e₁, k₁⟩ := h₁
  obtain ⟨cs₂, e₂, k₂⟩ := h₂
  refine ⟨cs₁ ++ cs₂, by simp [e₂, e₁], fun c hc => ?_⟩
  rcases List.mem_append.mp hc with hc | hc
  exacts [k₁ c hc, k₂ c hc]

theorem mono (h : AsksOnly P s₁ s₂) (hP : ∀ q, P q → Q q) : AsksOnly Q s₁ s₂ :=
  let ⟨cs, e, k⟩ := h
  ⟨cs, e, fun c hc => hP _ (k c hc)⟩

end AsksOnly

section Questions
variable {env : Env} {t t' : Trace} {s s' : DNSSECValidator}

/-- **The sub-lookups of `getDNSKEYs`.**  It asks the DNSKEY question of `Z`.  It then asks the DS
question of `Z` exactly when `Z` is not the root, the DNSKEY answer passed the check, and the
answer held a KSK and a ZSK.  It asks nothing else. -/
theorem getDNSKEYs_questions {Z : String} {a : Option (GoMap UInt16 DNSKEY) ×
    Option (GoMap UInt16 DNSKEY) × Trace × Option Err} (h : (getDNSKEYs env Z t).run s = some (a, s')) :
    let r := env.lookup s.calls (dnskeyQuestion Z) t
    let keys := separateKeys env r.res.answers GoMap.empty GoMap.empty
    ∃ cs, s'.calls = s.calls ++ cs ∧ cs.map (·.question) = dnskeyQuestion Z ::
      if Z ≠ rootZone ∧ r.failed = false ∧ keys.1.size ≠ 0 ∧ keys.2.size ≠ 0 then [dsQuestion Z]
      else [] := by
  intro r keys
  obtain ⟨r', s₁, hl, h⟩ := run_bind_eq_some.mp h
  simp only [run_lookup, Option.some.injEq, Prod.mk.injEq] at hl
  obtain ⟨rfl, rfl⟩ := hl
  by_cases hf : r.failed = true
  · simp only [hf, if_true, run_pure_eq_some] at h
    exact ⟨[_], by rw [← h.2], by simp [hf]⟩
  have hpass : r.failed = false := by simpa using hf
  simp only [hf, Bool.false_eq_true, if_false] at h
  by_cases hk : keys.1.size = 0 ∨ keys.2.size = 0
  · simp only [keys, r] at hk
    simp only [hk, if_true, run_pure_eq_some] at h
    refine ⟨[_], by rw [← h.2], ?_⟩
    rcases hk with hk | hk <;> simp [keys, r, hk]
  simp only [keys, r] at hk
  simp only [hk, if_false] at h
  obtain ⟨⟨k, t₂, e⟩, s₂, h₂, h⟩ := run_bind_eq_some.mp h
  have hs' : s' = s₂ := by split_ifs at h <;> exact (run_pure_eq_some.mp h).2.symm
  subst hs'
  have hk' : keys.1.size ≠ 0 ∧ keys.2.size ≠ 0 := not_or.mp hk
  rcases (validateDSRecords_spec h₂).2 with ⟨hZ, hc, -⟩ | ⟨hZ, c, hc, hq, -⟩
  · exact ⟨[_], by rw [hc], by simp [hZ]⟩
  · refine ⟨[_, c], by rw [hc, List.append_assoc]; rfl, ?_⟩
    simp only [List.map_cons, List.map_nil, hq, List.cons.injEq, true_and]
    rw [if_pos ⟨hZ, hpass, hk'⟩]

theorem getDNSKEYs_asks {Z : String} {a : Option (GoMap UInt16 DNSKEY) ×
    Option (GoMap UInt16 DNSKEY) × Trace × Option Err} (h : (getDNSKEYs env Z t).run s = some (a, s')) :
    AsksOnly (AsksAbout Z) s s' := by
  obtain ⟨cs, hcs, hq⟩ := getDNSKEYs_questions h
  refine ⟨cs, hcs, fun c hc => ?_⟩
  have hm : c.question ∈ cs.map (·.question) := List.mem_map_of_mem _ hc
  rw [hq] at hm
  split_ifs at hm <;> simp only [List.mem_cons, List.mem_singleton, List.not_mem_nil, or_false] at hm
  · exact hm.imp id id
  · exact .inl hm

theorem fetchSignerKeys_asks {sigs : List RRSIG} {dm : Option (GoMap UInt16 DNSKEY)}
    {a : Option (GoMap UInt16 DNSKEY) × Trace × Option Err}
    (h : (fetchSignerKeys env sigs dm t).run s = some (a, s')) :
    AsksOnly (fun q => ∃ sig ∈ sigs, AsksAbout sig.signerName q) s s' := by
  induction sigs generalizing dm t s with
  | nil =>
      obtain ⟨-, rfl⟩ := run_pure_eq_some.mp h
      exact .of_calls_eq rfl
  | cons sig rest ih =>
      obtain ⟨⟨_, z, t₁, e⟩, s₁, h₁, h⟩ := run_bind_eq_some.mp h
      have hs : AsksOnly (fun q => ∃ sig' ∈ sig :: rest, AsksAbout sig'.signerName q) s s₁ :=
        (getDNSKEYs_asks h₁).mono fun q hq => ⟨sig, List.mem_cons_self _ _, hq⟩
      cases e with
      | some _ => exact (run_pure_eq_some.mp h).2 ▸ hs
      | none => exact hs.trans ((ih h).mono fun q hq => by
          obtain ⟨sig', hm, hq⟩ := hq
          exact ⟨sig', List.mem_cons_of_mem _ hm, hq⟩)

theorem validateRRSIG_asks {T : UInt16} {rrSet : List RR} {sigs : List RRSIG}
    {a : Option RRSIG × Trace × Option Err} (h : (validateRRSIG env T rrSet sigs t).run s = some (a, s')) :
    AsksOnly (fun q => T ≠ typeDNSKEY ∧ ∃ sig ∈ sigs, AsksAbout sig.signerName q) s s' := by
  unfold validateRRSIG at h
  split at h
  · split at h
    · obtain ⟨-, rfl⟩ := run_pure_eq_some.mp h
      exact .of_calls_eq rfl
    · exact .of_calls_eq (verifyRRSIGs_spec h).2.1
  · next hT =>
      obtain ⟨⟨dm, t₁, e⟩, s₁, h₁, h⟩ := run_bind_eq_some.mp h
      have hs : AsksOnly (fun q => T ≠ typeDNSKEY ∧ ∃ sig ∈ sigs, AsksAbout sig.signerName q) s s₁ :=
        (fetchSignerKeys_asks h₁).mono fun _ hq => ⟨hT, hq⟩
      cases e with
      | some _ => exact (run_pure_eq_some.mp h).2 ▸ hs
      | none => exact hs.trans (.of_calls_eq (verifyRRSIGs_spec h).2.1)

theorem validateSets_asks {sigs : GoMap RRsetKey (List RRSIG)} {E : List (RRsetKey × List RR)}
    {acc : List DNSSECPerSetResult} {a : List DNSSECPerSetResult × Trace}
    (h : (validateSets env sigs E acc t).run s = some (a, s')) :
    AsksOnly (fun q => ∃ e ∈ E, e.1.rrtype ≠ typeDNSKEY ∧
      ∃ sig ∈ (sigs.get? e.1).getD [], AsksAbout sig.signerName q) s s' := by
  induction E generalizing acc t s with
  | nil =>
      obtain ⟨-, rfl⟩ := run_pure_eq_some.mp h
      exact .of_calls_eq rfl
  | cons e rest ih =>
      obtain ⟨key, rrSet⟩ := e
      obtain ⟨⟨_, t₁⟩, s₁, h₁, h⟩ := run_bind_eq_some.mp h
      refine AsksOnly.trans ?_ ((ih h).mono fun q hq => by
        obtain ⟨e, he, hq⟩ := hq
        exact ⟨e, List.mem_cons_of_mem _ he, hq⟩)
      unfold validateSet at h₁
      split at h₁
      · obtain ⟨-, rfl⟩ := run_pure_eq_some.mp h₁
        exact .of_calls_eq rfl
      · next L hL =>
          obtain ⟨⟨sig, t₂, err⟩, s₂, h₂, h₃⟩ := run_bind_eq_some.mp h₁
          have hs₂ : s₂ = s₁ := by
            rcases sig with _ | _ <;> rcases err with _ | _ <;> first
              | exact (run_pure_eq_some.mp h₃).2 | cases h₃
          subst hs₂
          exact (validateRRSIG_asks h₂).mono fun q hq => by
            obtain ⟨hT, sig', hm, hq⟩ := hq
            exact ⟨_, List.mem_cons_self _ _, hT, sig', by simpa [hL] using hm, hq⟩

theorem validateSection_asks {sec : List RR} {a : List DNSSECPerSetResult × Trace}
    (h : (validateSection env sec t).run s = some (a, s')) :
    AsksOnly (fun q => ∃ sig, .rrsig sig ∈ sec ∧ sig.typeCovered ≠ typeDNSKEY ∧
      AsksAbout sig.signerName q) s s' :=
  (validateSets_asks h).mono fun q hq => by
    obtain ⟨e, _, hT, sig, hm, hq⟩ := hq
    rw [splitRRsetsAndSigs_sigs, nonNil_getD, List.mem_filterMap] at hm
    obtain ⟨rr, hrr, hs⟩ := hm
    obtain ⟨rfl, he⟩ := sigFor?_eq_some.mp hs
    exact ⟨sig, hrr, by rwa [he] at hT, hq⟩

/-- **The validator asks only about the message's own signers.**  Every sub-lookup of a run of
`validate` is the DNSKEY or the DS question of the signer of an RRSIG of the message, over a
type other than DNSKEY. -/
theorem validate_asks_signers {msg : Msg} {a : DNSSECResult × Trace}
    (h : (validate env msg t).run s = some (a, s')) :
    ∃ cs, s'.calls = s.calls ++ cs ∧ ∀ c ∈ cs, ∃ sig, .rrsig sig ∈ msg.answer ++ msg.extra ++ msg.ns ∧
      sig.typeCovered ≠ typeDNSKEY ∧
      (c.question = dnskeyQuestion sig.signerName ∨ c.question = dsQuestion sig.signerName) := by
  obtain ⟨⟨_, t₁⟩, s₁, h₁, h⟩ := run_bind_eq_some.mp h
  obtain ⟨⟨_, t₂⟩, s₂, h₂, h⟩ := run_bind_eq_some.mp h
  obtain ⟨⟨_, t₃⟩, s₃, h₃, h⟩ := run_bind_eq_some.mp h
  obtain ⟨v, s₄, hg, h⟩ := run_bind_eq_some.mp h
  simp only [run_get, Option.some.injEq, Prod.mk.injEq] at hg
  obtain ⟨rfl, rfl⟩ := hg
  obtain rfl := (run_pure_eq_some.mp h).2
  have hsec : ∀ {sec : List RR}, (∀ rr ∈ sec, rr ∈ msg.answer ++ msg.extra ++ msg.ns) →
      ∀ q, (∃ sig, .rrsig sig ∈ sec ∧ sig.typeCovered ≠ typeDNSKEY ∧ AsksAbout sig.signerName q) →
        ∃ sig, .rrsig sig ∈ msg.answer ++ msg.extra ++ msg.ns ∧ sig.typeCovered ≠ typeDNSKEY ∧
          AsksAbout sig.signerName q :=
    fun hsub _ ⟨sig, hm, hT, hq⟩ => ⟨sig, hsub _ hm, hT, hq⟩
  exact (((validateSection_asks h₁).mono (hsec fun _ h => by simp [h])).trans
    (((validateSection_asks h₂).mono (hsec fun _ h => by simp [h])).trans
      ((validateSection_asks h₃).mono (hsec fun _ h => by simp [h]))))

theorem validate_asks_signers_signed :
    ∃ a s', (validate exampleEnv signedAMsg []).run .init = some (a, s') ∧
      ∃ cs, s'.calls = DNSSECValidator.init.calls ++ cs ∧ ∀ c ∈ cs, ∃ sig,
        .rrsig sig ∈ signedAMsg.answer ++ signedAMsg.extra ++ signedAMsg.ns ∧
        sig.typeCovered ≠ typeDNSKEY ∧
        (c.question = dnskeyQuestion sig.signerName ∨ c.question = dsQuestion sig.signerName) := by
  have hp : (validate exampleEnv signedAMsg []).run .init = some (_, _) := rfl
  exact ⟨_, _, hp, validate_asks_signers hp⟩

end Questions

end Zdns
