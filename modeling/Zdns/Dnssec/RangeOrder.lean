import Zdns.Dnssec.Report

/-!
# DNSSEC — The report does not depend on the order of `range`

`validateSection` ranges over a Go map, and the runtime picks the order afresh on each run.  No
function of the validator reads `v.ds` or `v.dNSKEY` before the end of `validate`.  Suppose two
environments have the same library, clock and anchors, and resolvers that answer each question
alike whatever was asked before (`Env.Agree`).  Then an RRset's report, and the records it adds
to the two sets, depend neither on the RRsets validated before it nor on the trace.

`EndAlike R s₁ s₂` compares two runs, from `s₁` and from `s₂`.  Either both panic, or both
return results related by `R` after adding the same DS records and keys (`Adds`).  `Alike R x y`
says that `x` and `y` end alike from any two states; it composes over `bind` (`Alike.bind`).
Each function of the validator, from `lookup` up to `validateSet`, is alike to itself against
two agreeing environments, on any two traces (`validateSet_alike`).  Comparing a run with the
one from a fresh validator on an empty trace gives each RRset one outcome (`setOutcome`).
`validateSets` panics when one of its RRsets' outcomes is a panic, and otherwise reports their
outcomes in turn (`validateSets_panics_of_setOutcome`, `validateSets_of_setOutcomes`).

* `validateSection_refines`: with a resolver whose answers do not depend on the history, a
  section's report is, up to order, the fresh-validator report of each of its RRsets.
* `validate_report_independent`: two runs of `validate` against agreeing environments, whatever
  orders their `range` picks, either both panic or both return.  When they return, each section
  has the same reports up to order, the DS and DNSKEY sets are the same, and so is the status.
-/

namespace Zdns

/-- Two answers of the resolver that agree on everything but the trace. -/
def LookupResult.SameAnswer (r r' : LookupResult) : Prop :=
  r.res = r'.res ∧ r.status = r'.status ∧ r.err = r'.err

namespace LookupResult.SameAnswer
variable {r r' r'' : LookupResult}

theorem symm (h : r.SameAnswer r') : r'.SameAnswer r :=
  ⟨h.1.symm, h.2.1.symm, h.2.2.symm⟩

theorem trans (h : r.SameAnswer r') (h' : r'.SameAnswer r'') : r.SameAnswer r'' :=
  ⟨h.1.trans h'.1, h.2.1.trans h'.2.1, h.2.2.trans h'.2.2⟩

theorem failed_eq (h : r.SameAnswer r') : r.failed = r'.failed := by
  obtain ⟨hr, hs, he⟩ := h
  simp only [LookupResult.failed, hr, hs, he]

end LookupResult.SameAnswer

/-- Two environments over the same library, clock and root anchors, whose resolvers answer each
question alike, whatever was asked before and whatever trace each is handed.  They may differ in
the traces they return and in the order `range` picks.  An environment agrees with itself when
its resolver's answers do not depend on the history. -/
structure Env.Agree (env₁ env₂ : Env) : Prop where
  prims : env₁.prims = env₂.prims
  now : env₁.now = env₂.now
  rootAnchors : env₁.rootAnchors = env₂.rootAnchors
  answers : ∀ calls calls' q t t', (env₁.lookup calls q t).SameAnswer (env₂.lookup calls' q t')

namespace Env.Agree
variable {env₁ env₂ env₃ : Env}

theorem symm (h : env₁.Agree env₂) : env₂.Agree env₁ :=
  ⟨h.prims.symm, h.now.symm, h.rootAnchors.symm, fun _ _ _ _ _ => (h.answers _ _ _ _ _).symm⟩

theorem trans (h : env₁.Agree env₂) (h' : env₂.Agree env₃) : env₁.Agree env₃ :=
  ⟨h.prims.trans h'.prims, h.now.trans h'.now, h.rootAnchors.trans h'.rootAnchors,
    fun _ _ q _ _ => (h.answers _ [] q _ []).trans (h'.answers _ _ _ _ _)⟩

end Env.Agree

/-! ### Two runs alike -/

/-- From `s` to `s'` a run added the DS records `D` and the keys `K` to the validator's sets, and
nothing else. -/
def Adds (s s' : DNSSECValidator) (D : List DS) (K : List DNSKEY) : Prop :=
  (∀ d, d ∈ s'.ds ↔ d ∈ s.ds ∨ d ∈ D) ∧ ∀ k, k ∈ s'.dNSKEY ↔ k ∈ s.dNSKEY ∨ k ∈ K

namespace Adds
variable {s₁ s₂ s₃ : DNSSECValidator} {D D' : List DS} {K K' : List DNSKEY}

theorem of_eq (hd : s₂.ds = s₁.ds) (hk : s₂.dNSKEY = s₁.dNSKEY) : Adds s₁ s₂ [] [] := by
  simp [Adds, hd, hk]

theorem trans (h₁ : Adds s₁ s₂ D K) (h₂ : Adds s₂ s₃ D' K') : Adds s₁ s₃ (D ++ D') (K ++ K') :=
  ⟨fun d => by rw [h₂.1, h₁.1]; simp [or_assoc], fun k => by rw [h₂.2, h₁.2]; simp [or_assoc]⟩

theorem congr (h : Adds s₁ s₂ D K) (hD : ∀ d, d ∈ D ↔ d ∈ D') (hK : ∀ k, k ∈ K ↔ k ∈ K') :
    Adds s₁ s₂ D' K' :=
  ⟨fun d => by rw [h.1, hD], fun k => by rw [h.2, hK]⟩

end Adds

/-- Two runs, from `s₁` and from `s₂`, end alike: both panic, or both return, with results
related by `R`, after adding the same records. -/
inductive EndAlike {α β : Type} (R : α → β → Prop) (s₁ s₂ : DNSSECValidator) :
    Option (α × DNSSECValidator) → Option (β × DNSSECValidator) → Prop
  | panic : EndAlike R s₁ s₂ none none
  | ret {a : α} {b : β} {s₁' s₂' : DNSSECValidator} (D : List DS) (K : List DNSKEY) :
      R a b → Adds s₁ s₁' D K → Adds s₂ s₂' D K → EndAlike R s₁ s₂ (some (a, s₁')) (some (b, s₂'))

namespace EndAlike
variable {α β γ δ : Type} {R : α → β → Prop} {R' : γ → δ → Prop}

/-- Two runs that end alike, continued by computations that end alike from the states they
reach, end alike. -/
protected theorem bind {x : ValidatorM α} {y : ValidatorM β} {f : α → ValidatorM γ}
    {g : β → ValidatorM δ} {s₁ s₂ : DNSSECValidator} (h : EndAlike R s₁ s₂ (x.run s₁) (y.run s₂))
    (hf : ∀ a b s₁' s₂' D K, R a b → Adds s₁ s₁' D K → Adds s₂ s₂' D K →
      EndAlike R' s₁' s₂' ((f a).run s₁') ((g b).run s₂')) :
    EndAlike R' s₁ s₂ ((x >>= f).run s₁) ((y >>= g).run s₂) := by
  simp only [StateT.run_bind]
  generalize x.run s₁ = o₁, y.run s₂ = o₂ at h
  cases h with
  | panic => exact .panic
  | @ret a b s₁' s₂' D K hab h₁ h₂ =>
      have h' := hf a b s₁' s₂' D K hab h₁ h₂
      show EndAlike R' s₁ s₂ ((f a).run s₁') ((g b).run s₂')
      generalize (f a).run s₁' = o₁, (g b).run s₂' = o₂ at h'
      cases h' with
      | panic => exact .panic
      | ret D' K' h h₁' h₂' => exact .ret (D ++ D') (K ++ K') h (h₁.trans h₁') (h₂.trans h₂')

end EndAlike

/-- `x` and `y` end alike from any two states. -/
def Alike {α β : Type} (R : α → β → Prop) (x : ValidatorM α) (y : ValidatorM β) : Prop :=
  ∀ s₁ s₂, EndAlike R s₁ s₂ (x.run s₁) (y.run s₂)

namespace Alike
variable {α β γ δ : Type} {R : α → β → Prop} {R' : γ → δ → Prop}

protected theorem pure {a : α} {b : β} (h : R a b) : Alike R (pure a) (pure b) :=
  fun _ _ => .ret [] [] h (.of_eq rfl rfl) (.of_eq rfl rfl)

protected theorem failure : Alike R failure failure := fun _ _ => .panic

protected theorem bind {x : ValidatorM α} {y : ValidatorM β} {f : α → ValidatorM γ}
    {g : β → ValidatorM δ} (hx : Alike R x y) (hf : ∀ a b, R a b → Alike R' (f a) (g b)) :
    Alike R' (x >>= f) (y >>= g) :=
  fun s₁ s₂ => (hx s₁ s₂).bind fun a b _ _ _ _ hab _ _ => hf a b hab _ _

end Alike

/-! ### Each function of the validator, against two agreeing environments -/

section Functions
variable {env₁ env₂ : Env}

/-- Two results equal once their traces are forgotten. -/
def UpToTrace {α γ : Type} (a b : α × Trace × γ) : Prop := a.1 = b.1 ∧ a.2.2 = b.2.2

theorem separateKeys_of_prims (hp : env₁.prims = env₂.prims) :
    ∀ l ksks zsks, separateKeys env₁ l ksks zsks = separateKeys env₂ l ksks zsks
  | [], _, _ => rfl
  | rr :: rest, _, _ => by cases rr <;> simp only [separateKeys, hp, separateKeys_of_prims hp rest]

theorem parseKSKs_of_prims (hp : env₁.prims = env₂.prims) :
    ∀ l ksks, parseKSKs env₁ l ksks = parseKSKs env₂ l ksks
  | [], _ => rfl
  | rr :: rest, _ => by cases rr <;> simp only [parseKSKs, hp, parseKSKs_of_prims hp rest]

theorem lookup_alike (h : env₁.Agree env₂) (q : Question) (t₁ t₂ : Trace) :
    Alike LookupResult.SameAnswer (lookup env₁ q t₁) (lookup env₂ q t₂) :=
  fun s₁ s₂ => .ret [] [] (h.answers s₁.calls s₂.calls q t₁ t₂) (.of_eq rfl rfl) (.of_eq rfl rfl)

theorem recordDS_alike (d : DS) : Alike (fun _ _ => True) (recordDS d) (recordDS d) :=
  fun _ _ => .ret [d] [] trivial ⟨by simp [or_comm], by simp⟩ ⟨by simp [or_comm], by simp⟩

theorem recordDNSKEY_alike (k : DNSKEY) : Alike (fun _ _ => True) (recordDNSKEY k) (recordDNSKEY k) :=
  fun _ _ => .ret [] [k] trivial ⟨by simp, by simp [or_comm]⟩ ⟨by simp, by simp [or_comm]⟩

theorem matchKSKs_alike (hp : env₁.prims = env₂.prims) (dsRecords : GoMap UInt16 DS) :
    ∀ l acc, Alike Eq (matchKSKs env₁ dsRecords l acc) (matchKSKs env₂ dsRecords l acc)
  | [], _ => .pure rfl
  | (_, ksk) :: rest, acc => by
      simp only [matchKSKs, hp]
      split
      · exact matchKSKs_alike hp dsRecords rest acc
      · split
        · exact .failure
        · split_ifs
          · exact .bind (recordDS_alike _) fun _ _ _ => matchKSKs_alike hp dsRecords rest _
          · exact matchKSKs_alike hp dsRecords rest acc

theorem validateKSKs_alike (hp : env₁.prims = env₂.prims) (dsRecords : GoMap UInt16 DS)
    (dnskeyMap : GoMap UInt16 DNSKEY) (t₁ t₂ : Trace) :
    Alike UpToTrace (validateKSKs env₁ dsRecords dnskeyMap t₁)
      (validateKSKs env₂ dsRecords dnskeyMap t₂) :=
  .bind (matchKSKs_alike hp _ _ _) fun _ _ hab => by
    subst hab
    split_ifs <;> exact .pure ⟨rfl, rfl⟩

theorem validateDSRecords_alike (h : env₁.Agree env₂) (signerDomain : String)
    (dnskeyMap : GoMap UInt16 DNSKEY) (t₁ t₂ : Trace) :
    Alike UpToTrace (validateDSRecords env₁ signerDomain dnskeyMap t₁)
      (validateDSRecords env₂ signerDomain dnskeyMap t₂) := by
  unfold validateDSRecords
  rw [h.rootAnchors]
  split_ifs
  · exact validateKSKs_alike h.prims _ _ _ _
  · refine .bind (lookup_alike h _ _ _) fun r r' hr => ?_
    rw [hr.failed_eq, hr.1]
    split_ifs
    · exact .pure ⟨rfl, rfl⟩
    · exact validateKSKs_alike h.prims _ _ _ _

theorem getDNSKEYs_alike (h : env₁.Agree env₂) (signerDomain : String) (t₁ t₂ : Trace) :
    Alike (fun a b => a.1 = b.1 ∧ UpToTrace a.2 b.2) (getDNSKEYs env₁ signerDomain t₁)
      (getDNSKEYs env₂ signerDomain t₂) := by
  unfold getDNSKEYs
  refine .bind (lookup_alike h _ _ _) fun r r' hr => ?_
  rw [hr.failed_eq, hr.1, separateKeys_of_prims h.prims]
  dsimp only
  by_cases hf : r'.failed = true
  · rw [if_pos hf, if_pos hf]
    exact .pure ⟨rfl, rfl, rfl⟩
  rw [if_neg hf, if_neg hf]
  generalize separateKeys env₂ r'.res.answers GoMap.empty GoMap.empty = keys
  by_cases hk : keys.1.size = 0 ∨ keys.2.size = 0
  · rw [if_pos hk, if_pos hk]
    exact .pure ⟨rfl, rfl, rfl⟩
  rw [if_neg hk, if_neg hk]
  refine .bind (validateDSRecords_alike h _ _ _ _) fun a b hab => ?_
  rcases a with ⟨k, _, e⟩
  rcases b with ⟨k', _, e'⟩
  obtain ⟨rfl, rfl⟩ := hab
  split <;> exact .pure ⟨rfl, rfl, rfl⟩

theorem fetchSignerKeys_alike (h : env₁.Agree env₂) :
    ∀ (rrsigs : List RRSIG) (dnskeyMap : Option (GoMap UInt16 DNSKEY)) (t₁ t₂ : Trace),
      Alike UpToTrace (fetchSignerKeys env₁ rrsigs dnskeyMap t₁)
        (fetchSignerKeys env₂ rrsigs dnskeyMap t₂)
  | [], _, _, _ => .pure ⟨rfl, rfl⟩
  | rrsig :: rest, _, _, _ =>
      .bind (getDNSKEYs_alike h _ _ _) fun ⟨_, z, t, e⟩ ⟨_, z', t', e'⟩ hab => by
        obtain ⟨-, rfl, rfl⟩ := hab
        cases e with
        | some _ => exact .pure ⟨rfl, rfl⟩
        | none => exact fetchSignerKeys_alike h rest z t t'

theorem verifyRRSIGs_alike (h : env₁.Agree env₂) (rrSet : List RR)
    (dnskeyMap : Option (GoMap UInt16 DNSKEY)) (t₁ t₂ : Trace) : ∀ rrsigs,
      Alike UpToTrace (verifyRRSIGs env₁ rrSet dnskeyMap t₁ rrsigs)
        (verifyRRSIGs env₂ rrSet dnskeyMap t₂ rrsigs)
  | [] => .pure ⟨rfl, rfl⟩
  | rrsig :: rest => by
      simp only [verifyRRSIGs, h.prims, h.now]
      split_ifs
      · split
        · exact .pure ⟨rfl, rfl⟩
        · split_ifs
          · exact .bind (recordDNSKEY_alike _) fun _ _ _ => .pure ⟨rfl, rfl⟩
          · exact verifyRRSIGs_alike h rrSet dnskeyMap t₁ t₂ rest
      · exact verifyRRSIGs_alike h rrSet dnskeyMap t₁ t₂ rest

theorem validateRRSIG_alike (h : env₁.Agree env₂) (rrSetType : UInt16) (rrSet : List RR)
    (rrsigs : List RRSIG) (t₁ t₂ : Trace) :
    Alike UpToTrace (validateRRSIG env₁ rrSetType rrSet rrsigs t₁)
      (validateRRSIG env₂ rrSetType rrSet rrsigs t₂) := by
  unfold validateRRSIG parseKSKsFromAnswer
  rw [parseKSKs_of_prims h.prims]
  split_ifs
  · split
    · exact .pure ⟨rfl, rfl⟩
    · exact verifyRRSIGs_alike h _ _ _ _ _
  · refine .bind (fetchSignerKeys_alike h _ _ _ _) fun ⟨dm, t, e⟩ ⟨dm', t', e'⟩ hab => ?_
    obtain ⟨rfl, rfl⟩ := hab
    cases e with
    | some _ => exact .pure ⟨rfl, rfl⟩
    | none => exact verifyRRSIGs_alike h _ _ _ _ _

/-- **An RRset's report reads nothing of the run before it.**  Against two agreeing
environments, two runs of `validateSet` on one RRset, from any two states and on any two traces,
both panic, or both give the same report after adding the same records. -/
theorem validateSet_alike (h : env₁.Agree env₂) (typeToRRSigs : GoMap RRsetKey (List RRSIG))
    (rrsKey : RRsetKey) (rrSet : List RR) (t₁ t₂ : Trace) :
    Alike (fun a b => a.1 = b.1) (validateSet env₁ typeToRRSigs rrsKey rrSet t₁)
      (validateSet env₂ typeToRRSigs rrsKey rrSet t₂) := by
  unfold validateSet
  split
  · exact .pure rfl
  · refine .bind (validateRRSIG_alike h _ _ _ _ _) fun ⟨sig, t, e⟩ ⟨sig', t', e'⟩ hab => ?_
    obtain ⟨rfl, rfl⟩ := hab
    rcases sig with _ | _ <;> rcases e with _ | _
    exacts [.failure, .pure rfl, .pure rfl, .pure rfl]

end Functions

/-! ### One outcome per RRset -/

/-- What `validateSet` gives the RRset `e` on a fresh validator and an empty trace: its report,
and the DS records and keys the validator then holds; `none` when it panics. -/
def setOutcome (env : Env) (typeToRRSigs : GoMap RRsetKey (List RRSIG)) (e : RRsetKey × List RR) :
    Option (DNSSECPerSetResult × List DS × List DNSKEY) :=
  ((validateSet env typeToRRSigs e.1 e.2 []).run .init).map fun p => (p.1.1, p.2.ds, p.2.dNSKEY)

/-- The abstract report of a section: the outcome of each of its RRsets, in the split's insertion
order, leaving out those that panic. -/
def sectionOutcomes (env : Env) (sec : List RR) : List (DNSSECPerSetResult × List DS × List DNSKEY) :=
  (splitRRsetsAndSigs sec).1.entries.filterMap (setOutcome env (splitRRsetsAndSigs sec).2)

/-- Some RRset of the section panics on a fresh validator. -/
def SectionPanics (env : Env) (sec : List RR) : Prop :=
  ∃ e ∈ (splitRRsetsAndSigs sec).1.entries, setOutcome env (splitRRsetsAndSigs sec).2 e = none

section Outcomes
variable {env ref : Env} (typeToRRSigs : GoMap RRsetKey (List RRSIG))

theorem validateSet_eq_none_of_setOutcome (h : env.Agree ref) {e : RRsetKey × List RR}
    (he : setOutcome ref typeToRRSigs e = none) (t : Trace) (s : DNSSECValidator) :
    (validateSet env typeToRRSigs e.1 e.2 t).run s = none := by
  have ha := validateSet_alike h typeToRRSigs e.1 e.2 t [] s .init
  unfold setOutcome at he
  generalize (validateSet env typeToRRSigs e.1 e.2 t).run s = o₁ at ha ⊢
  generalize (validateSet ref typeToRRSigs e.1 e.2 []).run .init = o₂ at ha he
  cases ha with
  | panic => rfl
  | ret => cases he

theorem validateSet_of_setOutcome (h : env.Agree ref) {e : RRsetKey × List RR}
    {o : DNSSECPerSetResult × List DS × List DNSKEY} (he : setOutcome ref typeToRRSigs e = some o)
    (t : Trace) (s : DNSSECValidator) :
    ∃ t' s', (validateSet env typeToRRSigs e.1 e.2 t).run s = some ((o.1, t'), s') ∧
      Adds s s' o.2.1 o.2.2 := by
  have ha := validateSet_alike h typeToRRSigs e.1 e.2 t [] s .init
  unfold setOutcome at he
  generalize (validateSet env typeToRRSigs e.1 e.2 t).run s = o₁ at ha ⊢
  generalize (validateSet ref typeToRRSigs e.1 e.2 []).run .init = o₂ at ha he
  cases ha with
  | panic => cases he
  | @ret a b s₁' s₂' D K hab h₁ h₂ =>
      cases he
      refine ⟨a.2, s₁', by rw [← hab], h₁.congr (fun d => ?_) (fun k => ?_)⟩
      · simpa [DNSSECValidator.init] using (h₂.1 d).symm
      · simpa [DNSSECValidator.init] using (h₂.2 k).symm

/-- `validateSets` panics once an RRset's outcome is a panic, wherever it stands. -/
theorem validateSets_panics_of_setOutcome (h : env.Agree ref) :
    ∀ {E : List (RRsetKey × List RR)}, (∃ e ∈ E, setOutcome ref typeToRRSigs e = none) →
      ∀ acc t s, (validateSets env typeToRRSigs E acc t).run s = none
  | [], ⟨_, he, _⟩, _, _, _ => absurd he (List.not_mem_nil _)
  | (k, rrs) :: E, hE, acc, t, s => by
      rw [validateSets, run_bind_eq_none]
      rcases ho : setOutcome ref typeToRRSigs (k, rrs) with _ | o
      · exact .inl (validateSet_eq_none_of_setOutcome typeToRRSigs h ho t s)
      · obtain ⟨t', s', hrun, -⟩ := validateSet_of_setOutcome typeToRRSigs h ho t s
        obtain ⟨e, he, hn⟩ := hE
        have he : e ∈ E := (List.mem_cons.mp he).resolve_left (by rintro rfl; simp [ho] at hn)
        exact .inr ⟨_, _, hrun, validateSets_panics_of_setOutcome h ⟨e, he, hn⟩ _ _ _⟩

/-- Otherwise `validateSets` reports the RRsets' outcomes in turn, and adds their records. -/
theorem validateSets_of_setOutcomes (h : env.Agree ref) :
    ∀ {E : List (RRsetKey × List RR)}, (∀ e ∈ E, setOutcome ref typeToRRSigs e ≠ none) →
      ∀ acc t s, ∃ t' s', (validateSets env typeToRRSigs E acc t).run s =
          some ((acc ++ (E.filterMap (setOutcome ref typeToRRSigs)).map (·.1), t'), s') ∧
        Adds s s' ((E.filterMap (setOutcome ref typeToRRSigs)).flatMap (·.2.1))
          ((E.filterMap (setOutcome ref typeToRRSigs)).flatMap (·.2.2))
  | [], _, acc, t, s => ⟨t, s, by simp [validateSets], .of_eq rfl rfl⟩
  | (k, rrs) :: E, hE, acc, t, s => by
      obtain ⟨o, ho⟩ := Option.ne_none_iff_exists'.mp (hE _ (List.mem_cons_self _ _))
      obtain ⟨t₁, s₁, hrun, hadd⟩ := validateSet_of_setOutcome typeToRRSigs h ho t s
      obtain ⟨t₂, s₂, hrun', hadd'⟩ := validateSets_of_setOutcomes h
        (fun e he => hE e (List.mem_cons_of_mem _ he)) (acc ++ [o.1]) t₁ s₁
      refine ⟨t₂, s₂, ?_, ?_⟩
      · rw [validateSets, run_bind_eq_some]
        exact ⟨_, _, hrun, by simpa [List.filterMap_cons, ho] using hrun'⟩
      · simpa [List.filterMap_cons, ho] using hadd.trans hadd'

end Outcomes

/-! ### The order of `range` -/

section RangeOrder
variable {env₁ env₂ : Env}

/-- A section's run against an environment agreeing with `ref`, read off `ref`'s outcomes: a panic
when one of its RRsets panics, else each RRset's outcome up to order, whatever order `range`
picks. -/
theorem validateSection_setOutcomes {env ref : Env} (h : env.Agree ref) (sec : List RR) (t : Trace)
    (s : DNSSECValidator) :
    (SectionPanics ref sec → (validateSection env sec t).run s = none) ∧
    (¬ SectionPanics ref sec → ∃ out t' s', (validateSection env sec t).run s = some ((out, t'), s') ∧
      out.Perm ((sectionOutcomes ref sec).map (·.1)) ∧
      Adds s s' ((sectionOutcomes ref sec).flatMap (·.2.1)) ((sectionOutcomes ref sec).flatMap (·.2.2))) := by
  have p := (splitRRsetsAndSigs sec).1.visit_perm (env.order_perm (splitRRsetsAndSigs sec).1.keys)
  refine ⟨fun ⟨e, he, hn⟩ => validateSets_panics_of_setOutcome _ h ⟨e, p.mem_iff.mpr he, hn⟩ _ _ _,
    fun hn => ?_⟩
  simp only [SectionPanics, not_exists, not_and] at hn
  obtain ⟨t', s', hr, ha⟩ := validateSets_of_setOutcomes _ h (fun e he => hn e (p.mem_iff.mp he)) [] t s
  have q := p.filterMap (setOutcome ref (splitRRsetsAndSigs sec).2)
  exact ⟨_, t', s', hr, q.map _, ha.congr (fun _ => (q.flatMap_right _).mem_iff)
    (fun _ => (q.flatMap_right _).mem_iff)⟩

/-- Two sections' reports agree up to the order of the RRsets, whatever order each run's `range`
picks. -/
theorem validateSection_alike (h : env₁.Agree env₂) (sectionRRs : List RR) (t₁ t₂ : Trace) :
    Alike (fun a b => a.1.Perm b.1) (validateSection env₁ sectionRRs t₁)
      (validateSection env₂ sectionRRs t₂) := fun s₁ s₂ => by
  have h₁ : env₁.Agree env₁ := h.trans h.symm
  by_cases hE : SectionPanics env₁ sectionRRs
  · rw [(validateSection_setOutcomes h₁ _ t₁ s₁).1 hE, (validateSection_setOutcomes h.symm _ t₂ s₂).1 hE]
    exact .panic
  · obtain ⟨_, _, _, hr₁, p₁, a₁⟩ := (validateSection_setOutcomes h₁ _ t₁ s₁).2 hE
    obtain ⟨_, _, _, hr₂, p₂, a₂⟩ := (validateSection_setOutcomes h.symm _ t₂ s₂).2 hE
    rw [hr₁, hr₂]
    exact .ret _ _ (p₁.trans p₂.symm) a₁ a₂

/-- **A section's report is a function of its RRsets.**  Suppose the resolver's answers do not
depend on what was asked before.  Then `validateSection` panics when some RRset panics on a fresh
validator.  Otherwise it reports, up to order, each RRset's report on a fresh validator, and adds
exactly those runs' DS records and keys. -/
theorem validateSection_refines {env : Env} (h : env.Agree env) (sec : List RR) (t : Trace)
    (s : DNSSECValidator) :
    (SectionPanics env sec → (validateSection env sec t).run s = none) ∧
    (¬ SectionPanics env sec → ∃ out t' s', (validateSection env sec t).run s = some ((out, t'), s') ∧
      out.Perm ((sectionOutcomes env sec).map (·.1)) ∧
      Adds s s' ((sectionOutcomes env sec).flatMap (·.2.1)) ((sectionOutcomes env sec).flatMap (·.2.2))) :=
  validateSection_setOutcomes h sec t s

theorem populateStatus_of_perm {l l' : List DNSSECPerSetResult} (h : l.Perm l') :
    populateStatus l = populateStatus l' := by
  simp only [populateStatus, List.all_eq, List.any_eq, h.mem_iff]

/-- Two reports of `validate` equal up to the order of each section's reports and of the DS and
DNSKEY records. -/
def DNSSECResult.SameUpToOrder (r₁ r₂ : DNSSECResult) : Prop :=
  r₁.answer.Perm r₂.answer ∧ r₁.additionals.Perm r₂.additionals ∧
    r₁.authoritative.Perm r₂.authoritative ∧ (∀ d, d ∈ r₁.ds ↔ d ∈ r₂.ds) ∧
    (∀ k, k ∈ r₁.dnskey ↔ k ∈ r₂.dnskey) ∧ r₁.status = r₂.status

theorem validate_alike (h : env₁.Agree env₂) (msg : Msg) (t₁ t₂ : Trace) (s : DNSSECValidator) :
    EndAlike (fun a b => a.1.SameUpToOrder b.1) s s ((validate env₁ msg t₁).run s)
      ((validate env₂ msg t₂).run s) := by
  unfold validate
  refine .bind (validateSection_alike h _ _ _ s s) fun ⟨a, _⟩ ⟨a', _⟩ s₁ s₁' _ _ ha h₁ h₁' => ?_
  refine .bind (validateSection_alike h _ _ _ s₁ s₁') fun ⟨b, _⟩ ⟨b', _⟩ s₂ s₂' _ _ hb h₂ h₂' => ?_
  refine .bind (validateSection_alike h _ _ _ s₂ s₂') fun ⟨c, _⟩ ⟨c', _⟩ s₃ s₃' _ _ hc h₃ h₃' => ?_
  have e := (h₁.trans h₂).trans h₃
  have e' := (h₁'.trans h₂').trans h₃'
  exact .ret [] [] ⟨ha, hb, hc, fun d => by rw [e.1, e'.1], fun k => by rw [e.2, e'.2],
    populateStatus_of_perm ha⟩ (.of_eq rfl rfl) (.of_eq rfl rfl)

/-- **The order of `range` does not matter.**  Two runs of `validate` on one message, from one
state, against environments whose resolvers answer each question alike, whatever the traces and
whatever orders their `range` picks: both panic, or both return the same reports per section up
to order, the same DS and DNSKEY records, and the same status. -/
theorem validate_report_independent (h : env₁.Agree env₂) (msg : Msg) (t₁ t₂ : Trace)
    (s : DNSSECValidator) :
    ((validate env₁ msg t₁).run s = none ↔ (validate env₂ msg t₂).run s = none) ∧
    ∀ r₁ u₁ v₁ r₂ u₂ v₂, (validate env₁ msg t₁).run s = some ((r₁, u₁), v₁) →
      (validate env₂ msg t₂).run s = some ((r₂, u₂), v₂) → r₁.SameUpToOrder r₂ := by
  have ha := validate_alike h msg t₁ t₂ s
  generalize (validate env₁ msg t₁).run s = o₁, (validate env₂ msg t₂).run s = o₂ at ha ⊢
  cases ha with
  | panic => exact ⟨Iff.rfl, by simp⟩
  | ret _ _ hab => exact ⟨by simp, by rintro _ _ _ _ _ _ ⟨⟩ ⟨⟩; exact hab⟩

/-- An unsigned A record of `www.example.`. -/
def wwwA : RR := .other ⟨"www.example.", typeA, classINET, 3600⟩ "192.0.2.2"

/-- A response whose Answer holds two RRsets: `example.`'s A RRset signed by its ZSK, and
`www.example.`'s unsigned one. -/
def twoSetsMsg : Msg := ⟨[exampleA, .rrsig (signedBy typeA exampleZSK), wwwA], [], []⟩

/-- `exampleEnv` with `range` visiting RRsets in reverse insertion order. -/
def reversedEnv : Env := { exampleEnv with order := List.reverse, order_perm := List.reverse_perm }

/-- Visited in the two orders, the two RRsets of `twoSetsMsg` are reported in two orders, from
two traces, and the reports agree up to that order. -/
theorem validate_report_independent_reversed :
    exampleEnv.Agree reversedEnv ∧
    ((validate exampleEnv twoSetsMsg []).run .init).map (·.1.1.answer) ≠
      ((validate reversedEnv twoSetsMsg [rootExchange "example."]).run .init).map (·.1.1.answer) ∧
    (((validate exampleEnv twoSetsMsg []).run .init = none ↔
      (validate reversedEnv twoSetsMsg [rootExchange "example."]).run .init = none) ∧
    ∀ r₁ u₁ v₁ r₂ u₂ v₂, (validate exampleEnv twoSetsMsg []).run .init = some ((r₁, u₁), v₁) →
      (validate reversedEnv twoSetsMsg [rootExchange "example."]).run .init = some ((r₂, u₂), v₂) →
      r₁.SameUpToOrder r₂) :=
  have h : exampleEnv.Agree reversedEnv := ⟨rfl, rfl, rfl, fun _ _ _ _ _ => ⟨rfl, rfl, rfl⟩⟩
  ⟨h, by decide, validate_report_independent h twoSetsMsg [] [rootExchange "example."] .init⟩

/-- A state left by earlier work: `example.`'s DS and ZSK recorded, its DNSKEY question asked. -/
def laterState : DNSSECValidator :=
  ⟨[exampleDS], [exampleZSK],
    [⟨dnskeyQuestion "example.", [], exampleEnv.lookup [] (dnskeyQuestion "example.") []⟩]⟩

/-- From a later state and a non-empty trace, the two RRsets of `twoSetsMsg`'s Answer are
reported as each is on a fresh validator. -/
theorem validateSection_refines_two_sets :
    exampleEnv.Agree exampleEnv ∧ (sectionOutcomes exampleEnv twoSetsMsg.answer).length = 2 ∧
    (SectionPanics exampleEnv twoSetsMsg.answer →
      (validateSection exampleEnv twoSetsMsg.answer [rootExchange "example."]).run laterState = none) ∧
    (¬ SectionPanics exampleEnv twoSetsMsg.answer → ∃ out t' s',
      (validateSection exampleEnv twoSetsMsg.answer [rootExchange "example."]).run laterState =
        some ((out, t'), s') ∧
      out.Perm ((sectionOutcomes exampleEnv twoSetsMsg.answer).map (·.1)) ∧
      Adds laterState s' ((sectionOutcomes exampleEnv twoSetsMsg.answer).flatMap (·.2.1))
        ((sectionOutcomes exampleEnv twoSetsMsg.answer).flatMap (·.2.2))) :=
  have h : exampleEnv.Agree exampleEnv := ⟨rfl, rfl, rfl, fun _ _ _ _ _ => ⟨rfl, rfl, rfl⟩⟩
  ⟨h, by decide, validateSection_refines h twoSetsMsg.answer [rootExchange "example."] laterState⟩

end RangeOrder

end Zdns
