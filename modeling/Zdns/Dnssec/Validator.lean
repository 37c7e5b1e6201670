import Zdns.Dnssec.Env

/-!
# DNSSEC — The validator

`dnssec.go`, function by function.  Each Go loop is a structurally recursive definition named
after what it does, next to the function it belongs to; a Go function returning a value and an
error returns both, `none` standing for nil, so that the nil checks of the callers are the
code's own.  The `depth` argument feeds only the verbose log, which the model leaves out.

* `splitRRsetsAndSigs` files each record under its `RRsetKey`, an RRSIG under the type it
  covers.
* `parseKSKsFromAnswer` takes the flag-257 keys of a DNSKEY RRset.
* `getDNSKEYs` asks for the signer's DNSKEYs, sorts them into KSKs and ZSKs by flag, and
  keeps the KSKs `validateDSRecords` vouches for.
* `validateDSRecords` matches KSKs against the root anchors or the signer's DS answer, and
  records the matched DS in `v.ds`.  Reading the digest of a DS that `ToDS` did not produce
  panics.
* `validateRRSIG` fetches keys for every RRSIG, then tries the RRSIGs in order.
* `validateSection` classifies every RRset of a section, `validate` all three sections.
-/

namespace Zdns

section
variable (env : Env)

/-! ### Grouping -/

/-- One turn of `splitRRsetsAndSigs`'s loop. -/
def splitStep (acc : GoMap RRsetKey (List RR) × GoMap RRsetKey (List RRSIG)) :
    RR → GoMap RRsetKey (List RR) × GoMap RRsetKey (List RRSIG)
  | .rrsig s => (acc.1, acc.2.push ⟨s.hdr.name, s.hdr.rrclass, s.typeCovered⟩ s)
  | rr => (acc.1.push ⟨rr.header.name, rr.header.rrclass, rr.header.rrtype⟩ rr, acc.2)

/-- `splitRRsetsAndSigs`. -/
def splitRRsetsAndSigs (rrs : List RR) : GoMap RRsetKey (List RR) × GoMap RRsetKey (List RRSIG) :=
  rrs.foldl splitStep (GoMap.empty, GoMap.empty)

/-! ### Keys -/

/-- The loop of `parseKSKsFromAnswer`, with the KSKs found so far. -/
def parseKSKs : List RR → GoMap UInt16 DNSKEY → Option (GoMap UInt16 DNSKEY) × Option Err
  | [], ksks => if ksks.size = 0 then (none, some .noKSKInRRset) else (some ksks, none)
  | rr :: rest, ksks =>
      match rr with
      | .dnskey k =>
          if k.flags = keySigningKeyFlag then parseKSKs rest (ksks.set (env.prims.keyTag k) k)
          else if k.flags = zoneSigningKeyFlag then parseKSKs rest ksks
          else (none, some (.unexpectedFlag k.flags))
      | rr => (none, some (.invalidRRType (env.prims.rrString rr)))

/-- `parseKSKsFromAnswer`. -/
def parseKSKsFromAnswer (rrSet : List RR) : Option (GoMap UInt16 DNSKEY) × Option Err :=
  parseKSKs env rrSet GoMap.empty

/-- The check both sub-lookups make: `status != StatusNoError || err != nil ||
(res.DNSSECResult != nil && res.DNSSECResult.Status != DNSSECSecure)`.  A nil `DNSSECResult`,
as a cache hit carries, passes. -/
def LookupResult.failed (r : LookupResult) : Bool :=
  r.status != .noError || r.err.isSome || r.res.dNSSECResult.any (·.status != .secure)

/-- The loop of `validateDSRecords` reading the DS answer into `dsRecords`, keyed by tag. -/
def collectDS : List RR → GoMap UInt16 DS → GoMap UInt16 DS
  | [], dsRecords => dsRecords
  | rr :: rest, dsRecords =>
      match rr with
      | .ds d => collectDS rest (dsRecords.set d.keyTag d)
      | _ => collectDS rest dsRecords

/-- The loop of `validateDSRecords` over the KSKs: a KSK whose tag has a DS and whose own DS
has that digest, up to case, is kept and its DS recorded.  `ToDS` returning nil panics. -/
def matchKSKs (dsRecords : GoMap UInt16 DS) :
    List (UInt16 × DNSKEY) → GoMap UInt16 DNSKEY → ValidatorM (GoMap UInt16 DNSKEY)
  | [], validatedKSKs => pure validatedKSKs
  | (_, ksk) :: rest, validatedKSKs =>
      match dsRecords.get? (env.prims.keyTag ksk) with
      | none => matchKSKs dsRecords rest validatedKSKs
      | some authenticDS =>
          match env.prims.toDS ksk authenticDS.digestType with
          | none => failure
          | some actualDS =>
              if toUpper actualDS.digest = toUpper authenticDS.digest then do
                recordDS actualDS
                matchKSKs dsRecords rest (validatedKSKs.set (env.prims.keyTag ksk) ksk)
              else matchKSKs dsRecords rest validatedKSKs

/-- The end of `validateDSRecords`, once `dsRecords` is known. -/
def validateKSKs (dsRecords : GoMap UInt16 DS) (dnskeyMap : GoMap UInt16 DNSKEY) (trace : Trace) :
    ValidatorM (Option (GoMap UInt16 DNSKEY) × Trace × Option Err) := do
  let validatedKSKs ← matchKSKs env dsRecords dnskeyMap.entries GoMap.empty
  if validatedKSKs.size = 0 then pure (none, trace, some .noValidKSK)
  else pure (some validatedKSKs, trace, none)

/-- `dsQuestion` of `validateDSRecords`. -/
def dsQuestion (signerDomain : String) : Question :=
  ⟨removeTrailingDotIfNotRoot signerDomain, typeDS, classINET⟩

/-- `validateDSRecords`. -/
def validateDSRecords (signerDomain : String) (dnskeyMap : GoMap UInt16 DNSKEY) (trace : Trace) :
    ValidatorM (Option (GoMap UInt16 DNSKEY) × Trace × Option Err) :=
  if signerDomain = rootZone then validateKSKs env env.rootAnchors dnskeyMap trace
  else do
    let r ← lookup env (dsQuestion signerDomain) trace
    if r.failed then pure (none, r.trace, some (.failedToGetDS signerDomain))
    else validateKSKs env (collectDS r.res.answers GoMap.empty) dnskeyMap r.trace

/-- The loop of `getDNSKEYs` sorting the answer's DNSKEYs by flag. -/
def separateKeys : List RR → GoMap UInt16 DNSKEY → GoMap UInt16 DNSKEY →
    GoMap UInt16 DNSKEY × GoMap UInt16 DNSKEY
  | [], ksks, zsks => (ksks, zsks)
  | rr :: rest, ksks, zsks =>
      match rr with
      | .dnskey k =>
          if k.flags = keySigningKeyFlag then
            separateKeys rest (ksks.set (env.prims.keyTag k) k) zsks
          else if k.flags = zoneSigningKeyFlag then
            separateKeys rest ksks (zsks.set (env.prims.keyTag k) k)
          else separateKeys rest ksks zsks
      | _ => separateKeys rest ksks zsks

/-- `dnskeyQuestion` of `getDNSKEYs`. -/
def dnskeyQuestion (signerDomain : String) : Question :=
  let nameWithoutTrailingDot := removeTrailingDotIfNotRoot signerDomain
  let nameWithoutTrailingDot := if signerDomain = rootZone then rootZone else nameWithoutTrailingDot
  ⟨nameWithoutTrailingDot, typeDNSKEY, classINET⟩

/-- `getDNSKEYs`: the KSKs kept by `validateDSRecords` and the ZSKs of the signer's answer.
`errors.Wrap` of a nil error is nil. -/
def getDNSKEYs (signerDomain : String) (trace : Trace) :
    ValidatorM (Option (GoMap UInt16 DNSKEY) × Option (GoMap UInt16 DNSKEY) × Trace × Option Err) :=
  do
  let r ← lookup env (dnskeyQuestion signerDomain) trace
  if r.failed then pure (none, none, r.trace, some (.cannotGetDNSKEYs signerDomain))
  else
    let keys := separateKeys env r.res.answers GoMap.empty GoMap.empty
    if keys.1.size = 0 ∨ keys.2.size = 0 then pure (none, none, r.trace, some .missingKSKOrZSK)
    else do
      let (ksks, trace, err) ← validateDSRecords env signerDomain keys.1 r.trace
      if err.isSome ∨ ksks.isNone then pure (none, none, trace, err.map .dsValidationFailed)
      else pure (ksks, some keys.2, trace, none)

/-! ### Signatures -/

/-- The first loop of `validateRRSIG`: the keys of every RRSIG's signer, `dnskeyMap` left at
the last signer's ZSKs; an error ends the loop with that signer's error. -/
def fetchSignerKeys : List RRSIG → Option (GoMap UInt16 DNSKEY) → Trace →
    ValidatorM (Option (GoMap UInt16 DNSKEY) × Trace × Option Err)
  | [], dnskeyMap, trace => pure (dnskeyMap, trace, none)
  | rrsig :: rest, _, trace => do
      let (_, zskMap, updatedTrace, err) ← getDNSKEYs env rrsig.signerName trace
      match err with
      | some e => pure (zskMap, updatedTrace, some (.failedToRetrieveDNSKEYs rrsig.signerName e))
      | none => fetchSignerKeys rest zskMap updatedTrace

/-- The second loop of `validateRRSIG`: each RRSIG in its validity period against the key of
`dnskeyMap` under its tag; a missing key ends the loop with an error. -/
def verifyRRSIGs (rrSet : List RR) (dnskeyMap : Option (GoMap UInt16 DNSKEY)) (trace : Trace) :
    List RRSIG → ValidatorM (Option RRSIG × Trace × Option Err)
  | [] => pure (none, trace, some .couldNotVerify)
  | rrsig :: rest =>
      if env.prims.validityPeriod rrsig env.now then
        match dnskeyMap.bind (·.get? rrsig.keyTag) with
        | none => pure (none, trace, some (.noMatchingDNSKEY rrsig.keyTag))
        | some matchingKey =>
            if env.prims.verify rrsig matchingKey rrSet then do
              recordDNSKEY matchingKey
              pure (some rrsig, trace, none)
            else verifyRRSIGs rrSet dnskeyMap trace rest
      else verifyRRSIGs rrSet dnskeyMap trace rest

/-- `validateRRSIG`. -/
def validateRRSIG (rrSetType : UInt16) (rrSet : List RR) (rrsigs : List RRSIG) (trace : Trace) :
    ValidatorM (Option RRSIG × Trace × Option Err) :=
  if rrSetType = typeDNSKEY then
    match parseKSKsFromAnswer env rrSet with
    | (_, some e) => pure (none, trace, some (.failedToParseKSKs e))
    | (dnskeyMap, none) => verifyRRSIGs env rrSet dnskeyMap trace rrsigs
  else do
    let (dnskeyMap, trace, err) ← fetchSignerKeys env rrsigs none trace
    match err with
    | some e => pure (none, trace, some e)
    | none => verifyRRSIGs env rrSet dnskeyMap trace rrsigs

/-! ### Sections -/

/-- The body of `validateSection`'s loop, for the RRset `rrSet` under `rrsKey`.  Reading the
message of a nil error panics. -/
def validateSet (typeToRRSigs : GoMap RRsetKey (List RRSIG)) (rrsKey : RRsetKey) (rrSet : List RR)
    (trace : Trace) : ValidatorM (DNSSECPerSetResult × Trace) :=
  match typeToRRSigs.get? rrsKey with
  | none => pure (⟨rrsKey, .insecure, none, ""⟩, trace)
  | some rrsigs => do
      let (sigUsed, trace, err) ← validateRRSIG env rrsKey.rrtype rrSet rrsigs trace
      match sigUsed, err with
      | some sig, _ => pure (⟨rrsKey, .secure, some sig, ""⟩, trace)
      | none, some e => pure (⟨rrsKey, .bogus, none, e.message⟩, trace)
      | none, none => failure

/-- The loop of `validateSection`, appending to `result`. -/
def validateSets (typeToRRSigs : GoMap RRsetKey (List RRSIG)) :
    List (RRsetKey × List RR) → List DNSSECPerSetResult → Trace →
      ValidatorM (List DNSSECPerSetResult × Trace)
  | [], result, trace => pure (result, trace)
  | (rrsKey, rrSet) :: rest, result, trace => do
      let (setResult, trace) ← validateSet env typeToRRSigs rrsKey rrSet trace
      validateSets typeToRRSigs rest (result ++ [setResult]) trace

/-- `validateSection`: the RRsets visited in the order `range` picks. -/
def validateSection (sectionRRs : List RR) (trace : Trace) :
    ValidatorM (List DNSSECPerSetResult × Trace) :=
  let split := splitRRsetsAndSigs sectionRRs
  validateSets env split.2 (split.1.visit (env.order split.1.keys)) [] trace

/-- Modelled from the spec: `populateStatus` (Step D), the roll-up over the Answer section. -/
def populateStatus (answer : List DNSSECPerSetResult) : DNSSECStatus :=
  if answer.all (·.status = .secure) then .secure
  else if answer.any (·.status = .bogus) then .bogus
  else if answer.any (·.status = .insecure) then .insecure
  else .indeterminate

/-- `validate`: the Answer, Additional and Authority sections in turn, then the DS and DNSKEY
records used. -/
def validate (msg : Msg) (trace : Trace) : ValidatorM (DNSSECResult × Trace) := do
  let (answer, trace) ← validateSection env msg.answer trace
  let (additionals, trace) ← validateSection env msg.extra trace
  let (authoritative, trace) ← validateSection env msg.ns trace
  let v ← get
  pure (⟨answer, additionals, authoritative, v.ds, v.dNSKEY, populateStatus answer⟩, trace)

end

end Zdns
