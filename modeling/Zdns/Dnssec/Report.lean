import Zdns.Dnssec.Sections

/-!
# DNSSEC — The report of `validate`

`validate` runs `validateSection` over the Answer, Additional and Authority sections in turn and
reports the DS and DNSKEY records the validator recorded on the way.

* `validate_spec`: each section's reports are `SectionReported`, the sub-lookups are DNSKEY and
  DS questions threaded through in turn, and every recorded DS and DNSKEY is explained.
* `validate_trace_appends`: when every lookup extends the trace it is handed, the trace
  `validate` returns is its input followed by what each sub-lookup appended, in issue order.
* `validate_reports_used_keys`: from a fresh validator, every reported DNSKEY verified the
  signature of an RRset reported Secure, and every reported DS is the matched DS of a KSK of a
  DNSKEY answer that passed; `validate_bogus_records_ds` shows that DS need not belong to any
  Secure RRset.
* `validate_report_statuses`: no RRset is reported Indeterminate; one is Insecure exactly when no
  RRSIG of its section covers it, Bogus exactly with an error message, and Secure exactly with a
  signature.
* `validate_eq_none`: the one panic is a nil `ToDS` for a KSK under the DS of its tag
  (`ToDSPanics`), so with a `ToDS` defined everywhere `validate` always returns
  (`validate_isSome`).
-/

namespace Zdns

/-- The sections of `msg` beside their reports in `res`, in the order `validate` runs them. -/
def sectionReports (msg : Msg) (res : DNSSECResult) : List (List RR × List DNSSECPerSetResult) :=
  [(msg.answer, res.answer), (msg.extra, res.additionals), (msg.ns, res.authoritative)]

section Spec
variable {env : Env} {msg : Msg} {t t' : Trace} {s s' : DNSSECValidator} {res : DNSSECResult}

/-- **What `validate` returns.** -/
theorem validate_spec (h : (validate env msg t).run s = some ((res, t'), s')) :
    Threads env s s' t t' ∧ res.ds = s'.ds ∧ res.dnskey = s'.dNSKEY ∧
    res.status = populateStatus res.answer ∧
    (∀ p ∈ sectionReports msg res, SectionReported env (s.newCalls s') p.1 p.2) ∧
    (∀ d ∈ s'.ds, d ∈ s.ds ∨ DSExplained env (s.newCalls s') d) ∧
    ∀ k ∈ s'.dNSKEY, k ∈ s.dNSKEY ∨
      ∃ p ∈ sectionReports msg res, SecureIn env (s.newCalls s') p.1 p.2 k := by
  obtain ⟨⟨a, t₁⟩, s₁, h₁, h⟩ := run_bind_eq_some.mp h
  obtain ⟨⟨b, t₂⟩, s₂, h₂, h⟩ := run_bind_eq_some.mp h
  obtain ⟨⟨c, t₃⟩, s₃, h₃, h⟩ := run_bind_eq_some.mp h
  obtain ⟨v, s₄, hg, h⟩ := run_bind_eq_some.mp h
  simp only [run_get, Option.some.injEq, Prod.mk.injEq] at hg
  obtain ⟨rfl, rfl⟩ := hg
  simp only [run_pure_eq_some, Prod.mk.injEq] at h
  obtain ⟨⟨rfl, rfl⟩, rfl⟩ := h
  obtain ⟨r₁, th₁, ds₁, k₁⟩ := validateSection_reports h₁
  obtain ⟨r₂, th₂, ds₂, k₂⟩ := validateSection_reports h₂
  obtain ⟨r₃, th₃, ds₃, k₃⟩ := validateSection_reports h₃
  have sub₁ := th₁.sub_left (th₂.trans th₃)
  have sub₂ := fun c hc => th₁.sub_right (th₂.trans th₃) c (th₂.sub_left th₃ c hc)
  have sub₃ := (th₁.trans th₂).sub_right th₃
  refine ⟨th₁.trans (th₂.trans th₃), rfl, rfl, rfl, ?_, fun d hd => ?_, fun k hk => ?_⟩
  · simp only [sectionReports, List.mem_cons, List.mem_singleton, List.not_mem_nil, or_false]
    rintro p (rfl | rfl | rfl)
    exacts [r₁.mono sub₁, r₂.mono sub₂, r₃.mono sub₃]
  · rcases ds₃ d hd with hd | hd
    · rcases ds₂ d hd with hd | hd
      · exact (ds₁ d hd).imp_right (·.mono sub₁)
      · exact .inr (hd.mono sub₂)
    · exact .inr (hd.mono sub₃)
  · simp only [sectionReports, List.mem_cons, List.mem_singleton, List.not_mem_nil, or_false,
      exists_eq_or_imp, exists_eq_left]
    rcases k₃ k hk with hk | hk
    · rcases k₂ k hk with hk | hk
      · exact (k₁ k hk).imp_right fun hk => .inl (hk.mono sub₁)
      · exact .inr (.inr (.inl (hk.mono sub₂)))
    · exact .inr (.inr (.inr (hk.mono sub₃)))

/-- What a report's status means, read off `Reported`: never Indeterminate; Insecure exactly
when no RRSIG covers the RRset; Bogus exactly with an error message; a signature exactly when
Secure. -/
theorem Reported.status {calls : List Call} {L : List RRSIG} {key : RRsetKey} {rrSet : List RR}
    {r : DNSSECPerSetResult} (h : Reported env calls (nonNil L) key rrSet r) :
    r.status ≠ .indeterminate ∧ (r.status = .insecure ↔ L = []) ∧ (r.status = .bogus ↔ r.error ≠ "") ∧
      (r.signature.isSome ↔ r.status = .secure) := by
  rcases h.2 with ⟨hn, hs, hsig, he⟩ | ⟨hn, he, k, hs, L', r', -, hsig, -⟩ | ⟨hn, hs, hsig, he⟩
  · simp [hs, hsig, he, nonNil_eq_none.mp hn]
  · have hL : L ≠ [] := fun h0 => by simp [h0, nonNil] at hn
    simp [hs, hsig, he, hL]
  · have hL : L ≠ [] := fun h0 => by simp [h0, nonNil] at hn
    simp [hs, hsig, he, hL]

/-- **What the statuses of a report mean.**  No RRset of a returned report is Indeterminate.  An
RRset is Insecure exactly when no RRSIG of its section covers it, Bogus exactly when it carries
an error message, and it carries a signature exactly when it is Secure. -/
theorem validate_report_statuses (h : (validate env msg t).run s = some ((res, t'), s')) :
    ∀ p ∈ sectionReports msg res, ∀ r ∈ p.2, r.status ≠ .indeterminate ∧
      (r.status = .insecure ↔ p.1.filterMap (RR.sigFor? r.rrset) = []) ∧
      (r.status = .bogus ↔ r.error ≠ "") ∧ (r.signature.isSome ↔ r.status = .secure) :=
  fun p hp r hr => (((validate_spec h).2.2.2.2.1 p hp).2.2 r hr).status

/-- The trace sub-lookups issued in turn hand on is their input followed by what each appended,
when each extends the trace it is handed. -/
theorem Threaded.eq_append {t t' : Trace} {cs : List Call} (h : Threaded t cs t')
    (hp : ∀ c ∈ cs, c.traceIn <+: c.result.trace) : t' = t ++ (cs.map Call.appended).flatten := by
  induction cs generalizing t with
  | nil => simpa [Threaded] using h
  | cons c cs ih =>
      obtain ⟨rfl, hrest⟩ := h
      rw [ih hrest fun c' hc' => hp c' (List.mem_cons_of_mem _ hc'), List.map_cons,
        List.flatten_cons, ← List.append_assoc, Call.appended,
        List.prefix_iff_eq_append.mp (hp c (List.mem_cons_self _ _))]

/-- **The trace is append-only through validation.**  When every lookup returns a trace that
extends the one it was handed, the trace `validate` returns is its input followed by the steps
each of its DNSKEY and DS sub-lookups appended, in issue order, on every path. -/
theorem validate_trace_appends (hext : ∀ calls q tr, tr <+: (env.lookup calls q tr).trace)
    (h : (validate env msg t).run s = some ((res, t'), s')) :
    t <+: t' ∧ ∃ cs, s'.calls = s.calls ++ cs ∧
      (∀ c ∈ cs, c.question.rrtype = typeDNSKEY ∨ c.question.rrtype = typeDS) ∧
      t' = t ++ (cs.map Call.appended).flatten := by
  obtain ⟨cs, hcs, hth, hiss⟩ := (validate_spec h).1
  have ht' := hth.eq_append fun c hc => by
    obtain ⟨-, pre, hr⟩ := hiss c hc
    rw [hr]
    exact hext _ _ _
  exact ⟨ht' ▸ List.prefix_append _ _, cs, hcs, fun c hc => (hiss c hc).1, ht'⟩

/-- **The DS and DNSKEY records reported.**  From a fresh validator, every DNSKEY `validate`
reports verified the signature of an RRset it reports Secure, and every DS it reports is the
matched DS of a KSK of a DNSKEY answer that passed, against the DS records of that signer. -/
theorem validate_reports_used_keys (h : (validate env msg t).run .init = some ((res, t'), s')) :
    (∀ k ∈ res.dnskey, ∃ p ∈ sectionReports msg res, SecureIn env s'.calls p.1 p.2 k) ∧
    ∀ d ∈ res.ds, DSExplained env s'.calls d := by
  obtain ⟨-, hds, hk, -, -, hD, hK⟩ := validate_spec h
  have hn : DNSSECValidator.init.newCalls s' = s'.calls := rfl
  exact ⟨fun k hk' => hn ▸ (hK k (hk ▸ hk')).resolve_left (List.not_mem_nil _),
    fun d hd => hn ▸ (hD d (hds ▸ hd)).resolve_left (List.not_mem_nil _)⟩

/-- **Where the validator crashes.**  A run of `validate` panics only when `ToDS` yields nothing
for a flag-257 key of some DNSKEY answer under the DS of its tag, in the root anchors or in some
DS answer. -/
theorem validate_eq_none (h : (validate env msg t).run s = none) : ToDSPanics env := by
  rcases run_bind_eq_none.mp h with h | ⟨⟨_, _⟩, _, -, h⟩
  · exact validateSection_eq_none h
  rcases run_bind_eq_none.mp h with h | ⟨⟨_, _⟩, _, -, h⟩
  · exact validateSection_eq_none h
  rcases run_bind_eq_none.mp h with h | ⟨⟨_, _⟩, _, -, h⟩
  · exact validateSection_eq_none h
  rcases run_bind_eq_none.mp h with h | ⟨_, _, -, h⟩ <;> cases h

/-- With a `ToDS` that yields a DS for every key and digest type, `validate` always returns. -/
theorem validate_isSome (hds : ∀ k dt, env.prims.toDS k dt ≠ none) :
    ((validate env msg t).run s).isSome :=
  Option.ne_none_iff_isSome.mp fun h =>
    let ⟨k, _, ⟨_, _, hf⟩, _⟩ := validate_eq_none h
    hds k _ hf

end Spec

/-! ### A signed A RRset, and a forged one -/

/-- The resolver answering with `example.`'s keys and DS, adding nothing to the trace. -/
def exampleEnv : Env := keysEnv exampleKeys [.ds exampleDS]

/-- A response whose Answer is `example.`'s A RRset signed by its ZSK. -/
def signedAMsg : Msg := ⟨[exampleA, .rrsig (signedBy typeA exampleZSK)], [], []⟩

example : ((validate exampleEnv signedAMsg []).run .init).map (fun p => (p.1.1.status, p.1.1.ds,
    p.1.1.dnskey)) = some (.secure, [exampleDS], [exampleZSK]) := by
  decide

/-- An exchange with the root server `198.41.0.4` about `name`, as a trace records it. -/
def rootExchange (name : String) : TraceStep := ⟨⟨[], [], [], none⟩, "198.41.0.4", 0, name⟩

/-- `exampleEnv`'s answers, from a resolver that records one exchange per lookup. -/
def tracingEnv : Env :=
  { exampleEnv with
    lookup := fun calls q t => { exampleEnv.lookup calls q t with trace := t ++ [rootExchange q.name] } }

/-- From the trace of the query itself, the two sub-lookups for `example.`'s keys and DS append
one exchange each. -/
theorem validate_trace_appends_signed :
    (∀ calls q tr, tr <+: (tracingEnv.lookup calls q tr).trace) ∧
    ∃ res t' s', (validate tracingEnv signedAMsg [rootExchange "example."]).run .init =
        some ((res, t'), s') ∧ t'.length = 3 ∧
      [rootExchange "example."] <+: t' ∧ ∃ cs, s'.calls = DNSSECValidator.init.calls ++ cs ∧
        (∀ c ∈ cs, c.question.rrtype = typeDNSKEY ∨ c.question.rrtype = typeDS) ∧
        t' = [rootExchange "example."] ++ (cs.map Call.appended).flatten := by
  have hext : ∀ calls q tr, tr <+: (tracingEnv.lookup calls q tr).trace := fun _ _ tr =>
    List.prefix_append tr _
  have hp : (validate tracingEnv signedAMsg [rootExchange "example."]).run .init = some ((_, _), _) :=
    rfl
  exact ⟨hext, _, _, _, hp, rfl, validate_trace_appends hext hp⟩

theorem validate_reports_used_keys_signed :
    ∃ res t' s', (validate exampleEnv signedAMsg []).run .init = some ((res, t'), s') ∧
      (∀ k ∈ res.dnskey, ∃ p ∈ sectionReports signedAMsg res, SecureIn exampleEnv s'.calls p.1 p.2 k) ∧
      ∀ d ∈ res.ds, DSExplained exampleEnv s'.calls d := by
  have hp : (validate exampleEnv signedAMsg []).run .init = some ((_, _), _) := rfl
  exact ⟨_, _, _, hp, validate_reports_used_keys hp⟩

theorem validate_report_statuses_signed :
    ∃ res t' s', (validate exampleEnv signedAMsg []).run .init = some ((res, t'), s') ∧
      ∀ p ∈ sectionReports signedAMsg res, ∀ r ∈ p.2, r.status ≠ .indeterminate ∧
        (r.status = .insecure ↔ p.1.filterMap (RR.sigFor? r.rrset) = []) ∧
        (r.status = .bogus ↔ r.error ≠ "") ∧ (r.signature.isSome ↔ r.status = .secure) := by
  have hp : (validate exampleEnv signedAMsg []).run .init = some ((_, _), _) := rfl
  exact ⟨_, _, _, hp, validate_report_statuses hp⟩

/-- The mock library with a `ToDS` that knows every digest type. -/
def Primitives.allDigests : Primitives :=
  { Primitives.mock with
    toDS := fun k h =>
      some ⟨{ k.hdr with rrtype := typeDS }, mockKeyTag k, k.algorithm, h, k.hdr.name ++ k.publicKey⟩ }

theorem validate_isSome_allDigests :
    (∀ k dt, Primitives.allDigests.toDS k dt ≠ none) ∧
      ((validate { exampleEnv with prims := .allDigests } signedAMsg []).run .init).isSome :=
  have hds : ∀ k dt, Primitives.allDigests.toDS k dt ≠ none := fun _ _ => Option.some_ne_none _
  ⟨hds, validate_isSome hds⟩

/-- `example.`'s ZSK's RRSIG with a forged signature. -/
def forgedSig : RRSIG := { signedBy typeA exampleZSK with signature := "sig:forged" }

/-- The A RRset under a forged RRSIG is Bogus and nothing else is reported, yet the DS that
vouched for `example.`'s KSK is reported. -/
theorem validate_bogus_records_ds :
    ((validate exampleEnv ⟨[exampleA, .rrsig forgedSig], [], []⟩ []).run .init).map
      (fun p => (p.1.1.answer.map (·.status), p.1.1.additionals, p.1.1.authoritative, p.1.1.ds)) =
      some ([.bogus], [], [], [exampleDS]) := by
  decide

end Zdns
