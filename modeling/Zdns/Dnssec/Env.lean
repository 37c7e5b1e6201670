import Zdns.Dnssec.Records
import Zdns.Support.Names

/-!
# DNSSEC — The validator's environment

What `dNSSECValidator` calls and does not contain.

* The dns library's primitives (`Primitives`): `(*DNSKEY).KeyTag`, `(*DNSKEY).ToDS` (nil for a
  digest type it lacks or a key it cannot encode), `(*RRSIG).Verify` (success is a nil error),
  `(*RRSIG).ValidityPeriod`, and the `String()` of a record.  They are wire encoding and
  cryptography, outside the repository, and every theorem holds for all of them.
* The resolver (`Env.lookup`): `v.r.lookup` asked a question with a trace.  It may answer
  anything, and its answer may depend on everything asked before (`List Call`), which covers a
  cache, retries and a network that changes under the validator.
* The pinned root anchors `rootanchors.GetValidDSRecords()`, the clock instant of the
  validity checks, and the order in which `range` visits the RRsets of a section.

The validator's own mutable state is `v.ds` and `v.dNSKEY`, two Go sets, with the ghost log
`calls` of the sub-lookups issued, in issue order, which nothing in the model reads.  A run is
a `ValidatorM` computation; `none` is a Go panic.
-/

namespace Zdns

/-- The dns library's functions the validator calls. -/
structure Primitives where
  keyTag : DNSKEY → UInt16
  toDS : DNSKEY → UInt8 → Option DS
  verify : RRSIG → DNSKEY → List RR → Bool
  validityPeriod : RRSIG → Int → Bool
  rrString : RR → String

/-- The key tag of the mock library: a checksum of the public key. -/
def mockKeyTag (k : DNSKEY) : UInt16 :=
  (k.publicKey.data.foldl (fun (acc : Nat) (c : Char) => acc + c.toNat) 0).toUInt16

/-- A mock of the library, for concrete runs.  Its structural checks are the library's: `ToDS`
knows digest types 1, 2 and 4 only, and `Verify` checks the key tag, class and algorithm, that
the signer is the key's owner, protocol 3, and that the records form an RRset of the covered
type.  The cryptography is a stand-in: a digest is the owner beside the key, and a signature
verifies when it is `sig:` and the signing key. -/
def Primitives.mock : Primitives where
  keyTag := mockKeyTag
  toDS k h :=
    if h = 1 ∨ h = 2 ∨ h = 4 then
      some ⟨{ k.hdr with rrtype := typeDS }, mockKeyTag k, k.algorithm, h, k.hdr.name ++ k.publicKey⟩
    else none
  verify s k rrs :=
    s.keyTag == mockKeyTag k && s.hdr.rrclass == k.hdr.rrclass && s.algorithm == k.algorithm &&
      toLower s.signerName == toLower k.hdr.name && k.protocol == 3 && !rrs.isEmpty &&
      rrs.all (fun rr => rr.header.rrclass == s.hdr.rrclass && rr.header.rrtype == s.typeCovered &&
        toLower rr.header.name == toLower s.hdr.name) &&
      s.signature == "sig:" ++ k.publicKey
  validityPeriod s t := decide ((s.inception.toNat : Int) ≤ t ∧ t ≤ s.expiration.toNat)
  rrString rr := rr.header.name

/-- What `v.r.lookup` returns: the result, the trace, the status and the error. -/
structure LookupResult where
  res : SingleQueryResult
  trace : Trace
  status : Status
  err : Option String
deriving DecidableEq

/-- One sub-lookup: the question, the trace handed to the resolver, and its answer. -/
structure Call where
  question : Question
  traceIn : Trace
  result : LookupResult
deriving DecidableEq

/-- The steps a sub-lookup added after the trace it was handed. -/
def Call.appended (c : Call) : Trace := c.result.trace.drop c.traceIn.length

/-- Everything `validate` runs against. -/
structure Env where
  prims : Primitives
  now : Int
  rootAnchors : GoMap UInt16 DS
  lookup : List Call → Question → Trace → LookupResult
  order : List RRsetKey → List RRsetKey
  order_perm : ∀ ks, (order ks).Perm ks

/-- An environment over the mock library at the instant 150: the resolver answers each question
with `answer`, status NoError, and adds nothing to the trace; `range` visits RRsets in insertion
order. -/
def Env.mock (anchors : GoMap UInt16 DS) (answer : Question → SingleQueryResult) : Env where
  prims := .mock
  now := 150
  rootAnchors := anchors
  lookup _ q t := ⟨answer q, t, .noError, none⟩
  order := id
  order_perm _ := List.Perm.refl _

/-- The mutable fields of `dNSSECValidator`, and the ghost log of its sub-lookups. -/
structure DNSSECValidator where
  ds : List DS
  dNSKEY : List DNSKEY
  calls : List Call
deriving DecidableEq

/-- `makeDNSSECValidator`: empty sets, nothing asked yet. -/
def DNSSECValidator.init : DNSSECValidator := ⟨[], [], []⟩

/-- A run of the validator: it threads the state and may panic (`none`). -/
abbrev ValidatorM := StateT DNSSECValidator Option

/-- `v.r.lookup(v.ctx, &q, ..., trace)`. -/
def lookup (env : Env) (q : Question) (trace : Trace) : ValidatorM LookupResult := fun v =>
  let r := env.lookup v.calls q trace
  some (r, { v with calls := v.calls ++ [⟨q, trace, r⟩] })

/-- `v.ds[d] = true`. -/
def recordDS (d : DS) : ValidatorM Unit := fun v => some ((), { v with ds := v.ds.insert d })

/-- `v.dNSKEY[k] = true`. -/
def recordDNSKEY (k : DNSKEY) : ValidatorM Unit := fun v =>
  some ((), { v with dNSKEY := v.dNSKEY.insert k })

/-- The errors the validator returns, one constructor per site. -/
inductive Err
  | cannotGetDNSKEYs (signerDomain : String)
  | missingKSKOrZSK
  | dsValidationFailed (cause : Err)
  | failedToGetDS (signerDomain : String)
  | noValidKSK
  | invalidRRType (rr : String)
  | unexpectedFlag (flags : UInt16)
  | noKSKInRRset
  | failedToParseKSKs (cause : Err)
  | failedToRetrieveDNSKEYs (signerDomain : String) (cause : Err)
  | noMatchingDNSKEY (keyTag : UInt16)
  | couldNotVerify
deriving DecidableEq

/-- `err.Error()`. -/
def Err.message : Err → String
  | .cannotGetDNSKEYs d => "cannot get DNSKEYs for signer domain " ++ d
  | .missingKSKOrZSK => "missing at least one KSK or ZSK in DNSKEY answer"
  | .dsValidationFailed e => "DS validation failed: " ++ e.message
  | .failedToGetDS d => "failed to get DS records for signer domain " ++ d
  | .noValidKSK => "no valid KSK found"
  | .invalidRRType rr => "invalid RR type in DNSKEY RRset: " ++ rr
  | .unexpectedFlag f => "unexpected DNSKEY flag: " ++ toString f
  | .noKSKInRRset => "could not find any KSK in DNSKEY RRset"
  | .failedToParseKSKs e => "failed to parse KSKs from DNSKEY answer: " ++ e.message
  | .failedToRetrieveDNSKEYs d e =>
      "failed to retrieve DNSKEYs for signer domain " ++ d ++ ": " ++ e.message
  | .noMatchingDNSKEY t => "no matching DNSKEY found for RRSIG with key tag " ++ toString t
  | .couldNotVerify => "could not verify any RRSIG for RRset"

/-! ### Runs -/

section Runs
variable {α β : Type} {x : ValidatorM α} {f : α → ValidatorM β} {s s' : DNSSECValidator}

theorem run_bind_eq_some {b : β} :
    (x >>= f).run s = some (b, s') ↔ ∃ a s₁, x.run s = some (a, s₁) ∧ (f a).run s₁ = some (b, s') := by
  simp [StateT.run_bind, Option.bind_eq_some]

theorem run_bind_eq_none :
    (x >>= f).run s = none ↔ x.run s = none ∨ ∃ a s₁, x.run s = some (a, s₁) ∧ (f a).run s₁ = none := by
  rw [StateT.run_bind]
  rcases x.run s with _ | ⟨a, s₁⟩ <;> simp [and_assoc]

@[simp] theorem run_pure_eq_some {a b : α} : (pure a : ValidatorM α).run s = some (b, s') ↔ a = b ∧ s = s' := by
  simp [StateT.run_pure, and_comm, eq_comm]

@[simp] theorem run_failure : (failure : ValidatorM α).run s = none := rfl

@[simp] theorem run_lookup (env : Env) (q : Question) (t : Trace) :
    (lookup env q t).run s = some (env.lookup s.calls q t,
      { s with calls := s.calls ++ [⟨q, t, env.lookup s.calls q t⟩] }) := rfl

@[simp] theorem run_recordDS (d : DS) : (recordDS d).run s = some ((), { s with ds := s.ds.insert d }) :=
  rfl

@[simp] theorem run_recordDNSKEY (k : DNSKEY) :
    (recordDNSKEY k).run s = some ((), { s with dNSKEY := s.dNSKEY.insert k }) := rfl

@[simp] theorem run_get : (get : ValidatorM DNSSECValidator).run s = some (s, s) := rfl

end Runs

/-! ### The sub-lookups of a run -/

/-- The sub-lookups `cs`, issued in turn, take the trace `t` to `t'`: each is handed the trace
the one before it returned. -/
def Threaded : Trace → List Call → Trace → Prop
  | t, [], t' => t' = t
  | t, c :: cs, t' => c.traceIn = t ∧ Threaded c.result.trace cs t'

/-- A sub-lookup the validator issues: a question for DNSKEY or DS records, the only ones it
asks, answered by the resolver after some sub-lookups before it. -/
def Call.Issued (env : Env) (c : Call) : Prop :=
  (c.question.rrtype = typeDNSKEY ∨ c.question.rrtype = typeDS) ∧
    ∃ pre, c.result = env.lookup pre c.question c.traceIn

/-- From `s` to `s'` a run issued the sub-lookups `cs` only, and handed the trace from `t` on to
`t'` through them. -/
def Threads (env : Env) (s s' : DNSSECValidator) (t t' : Trace) : Prop :=
  ∃ cs, s'.calls = s.calls ++ cs ∧ Threaded t cs t' ∧ ∀ c ∈ cs, c.Issued env

/-- The sub-lookups a run from `s` to `s'` issued: the calls of `s'` after those of `s`. -/
def DNSSECValidator.newCalls (s s' : DNSSECValidator) : List Call := s'.calls.drop s.calls.length

theorem DNSSECValidator.newCalls_eq {s s' : DNSSECValidator} {cs : List Call}
    (h : s'.calls = s.calls ++ cs) : s.newCalls s' = cs := by
  simp [DNSSECValidator.newCalls, h]

theorem threaded_append {t t'' : Trace} {cs₁ : List Call} {cs₂ : List Call} :
    Threaded t (cs₁ ++ cs₂) t'' ↔ ∃ t', Threaded t cs₁ t' ∧ Threaded t' cs₂ t'' := by
  induction cs₁ generalizing t with
  | nil => simp [Threaded]
  | cons c cs ih => simp [Threaded, ih, and_assoc]

namespace Threads
variable {env : Env} {s₁ s₂ s₃ : DNSSECValidator} {t₁ t₂ t₃ : Trace}

theorem refl (h : s₂.calls = s₁.calls) : Threads env s₁ s₂ t₁ t₁ := ⟨[], by simp [h], rfl, by simp⟩

theorem trans (h₁ : Threads env s₁ s₂ t₁ t₂) (h₂ : Threads env s₂ s₃ t₂ t₃) :
    Threads env s₁ s₃ t₁ t₃ := by
  obtain ⟨cs₁, e₁, r₁, k₁⟩ := h₁
  obtain ⟨cs₂, e₂, r₂, k₂⟩ := h₂
  refine ⟨cs₁ ++ cs₂, by simp [e₂, e₁], threaded_append.mpr ⟨t₂, r₁, r₂⟩, fun c hc => ?_⟩
  rcases List.mem_append.mp hc with hc | hc
  exacts [k₁ c hc, k₂ c hc]

theorem calls_eq (h : Threads env s₁ s₂ t₁ t₂) : s₂.calls = s₁.calls ++ s₁.newCalls s₂ := by
  obtain ⟨cs, hcs, -⟩ := h
  rw [DNSSECValidator.newCalls_eq hcs, hcs]

/-- Every sub-lookup a run issued is a DNSKEY or DS question the resolver answered. -/
theorem issued (h : Threads env s₁ s₂ t₁ t₂) : ∀ c ∈ s₁.newCalls s₂, c.Issued env := by
  obtain ⟨cs, hcs, -, hiss⟩ := h
  rw [DNSSECValidator.newCalls_eq hcs]
  exact hiss

section Compose
variable {t₃' t₄ : Trace} (h₁ : Threads env s₁ s₂ t₁ t₂) (h₂ : Threads env s₂ s₃ t₃' t₄)
include h₁ h₂

/-- The sub-lookups of two runs in turn are those of the first, then those of the second. -/
theorem newCalls_trans : s₁.newCalls s₃ = s₁.newCalls s₂ ++ s₂.newCalls s₃ :=
  DNSSECValidator.newCalls_eq (by rw [h₂.calls_eq, h₁.calls_eq, List.append_assoc])

theorem sub_left : ∀ c ∈ s₁.newCalls s₂, c ∈ s₁.newCalls s₃ := fun _ hc => by
  rw [newCalls_trans h₁ h₂]
  exact List.mem_append_left _ hc

theorem sub_right : ∀ c ∈ s₂.newCalls s₃, c ∈ s₁.newCalls s₃ := fun _ hc => by
  rw [newCalls_trans h₁ h₂]
  exact List.mem_append_right _ hc

end Compose

theorem lookup {q : Question} {r : LookupResult}
    (hq : q.rrtype = typeDNSKEY ∨ q.rrtype = typeDS) (h : (lookup env q t₁).run s₁ = some (r, s₂)) :
    Threads env s₁ s₂ t₁ r.trace := by
  simp only [run_lookup, Option.some.injEq, Prod.mk.injEq] at h
  obtain ⟨rfl, rfl⟩ := h
  exact ⟨[_], rfl, ⟨rfl, rfl⟩, by simpa [Call.Issued] using ⟨hq, _, rfl⟩⟩

end Threads

end Zdns
