import Zdns.Support.GoMap

/-!
# DNSSEC — Records

The records the validator reads, as the dns library declares them (`dns.RR_Header`,
`dns.DNSKEY`, `dns.DS`, `dns.RRSIG`), and the types of zdns it reads and builds: the RRset
key, the question, the lookup status, the trace, and the DNSSEC results.

A `dns.RR` is an interface; the validator looks into three of its implementations (type
switches on `*dns.RRSIG` and `*dns.DNSKEY`, type assertions on `DNSKEYAnswer` and `DSAnswer`)
and reads only the header of every other, so `RR` has those three constructors and `other`.
zdns hands the resolver's answers to the validator parsed (`ParseAnswer`) and converts them
back (`ToVanillaType`); the round trip keeps every field read here, and the model keeps the
records themselves.
-/

namespace Zdns

/-- `dns.RR_Header`. -/
structure RRHeader where
  name : String
  rrtype : UInt16
  rrclass : UInt16
  ttl : UInt32
deriving DecidableEq

/-- `dns.DNSKEY`. -/
structure DNSKEY where
  hdr : RRHeader
  flags : UInt16
  protocol : UInt8
  algorithm : UInt8
  publicKey : String
deriving DecidableEq

/-- `dns.DS`. -/
structure DS where
  hdr : RRHeader
  keyTag : UInt16
  algorithm : UInt8
  digestType : UInt8
  digest : String
deriving DecidableEq

/-- `dns.RRSIG`. -/
structure RRSIG where
  hdr : RRHeader
  typeCovered : UInt16
  algorithm : UInt8
  labels : UInt8
  origTtl : UInt32
  expiration : UInt32
  inception : UInt32
  keyTag : UInt16
  signerName : String
  signature : String
deriving DecidableEq

/-- A `dns.RR`: the three record types the validator looks into, and every other one. -/
inductive RR
  | dnskey (k : DNSKEY)
  | ds (d : DS)
  | rrsig (s : RRSIG)
  | other (hdr : RRHeader) (rdata : String)
deriving DecidableEq

/-- `rr.Header()`. -/
def RR.header : RR → RRHeader
  | .dnskey k => k.hdr
  | .ds d => d.hdr
  | .rrsig s => s.hdr
  | .other hdr _ => hdr

/-- `dns.TypeA`. -/
def typeA : UInt16 := 1
/-- `dns.TypeNS`. -/
def typeNS : UInt16 := 2
/-- `dns.TypeAAAA`. -/
def typeAAAA : UInt16 := 28
/-- `dns.TypeDS`. -/
def typeDS : UInt16 := 43
/-- `dns.TypeRRSIG`. -/
def typeRRSIG : UInt16 := 46
/-- `dns.TypeDNSKEY`. -/
def typeDNSKEY : UInt16 := 48
/-- `dns.ClassINET`. -/
def classINET : UInt16 := 1

/-- `rootZone`. -/
def rootZone : String := "."
/-- `zoneSigningKeyFlag`. -/
def zoneSigningKeyFlag : UInt16 := 256
/-- `keySigningKeyFlag`. -/
def keySigningKeyFlag : UInt16 := 257

/-- `RRsetKey{Name, Class, Type}`. -/
structure RRsetKey where
  name : String
  rrclass : UInt16
  rrtype : UInt16
deriving DecidableEq

/-- `Question{Name, Type, Class}`. -/
structure Question where
  name : String
  rrtype : UInt16
  rrclass : UInt16
deriving DecidableEq

/-- Modelled from the spec: the `Status` of a lookup (§3). -/
inductive Status
  | noError | noAnswer | nxDomain | servFail | refused | timeout | tempFailure | truncated
  | iterationTimeout | maxDepthReached | blacklisted | loopDetected | noRecord | error
deriving DecidableEq

/-- Modelled from the spec: the DNSSEC status of an RRset or of a whole response (§3). -/
inductive DNSSECStatus
  | secure | insecure | bogus | indeterminate
deriving DecidableEq

/-- `DNSSECPerSetResult{RRset, Status, Signature, Error}`; `Error` is empty when unset. -/
structure DNSSECPerSetResult where
  rrset : RRsetKey
  status : DNSSECStatus
  signature : Option RRSIG
  error : String
deriving DecidableEq

/-- `DNSSECResult`: one result per RRset of each section, the DS and DNSKEY records used,
and the roll-up status. -/
structure DNSSECResult where
  answer : List DNSSECPerSetResult
  additionals : List DNSSECPerSetResult
  authoritative : List DNSSECPerSetResult
  ds : List DS
  dnskey : List DNSKEY
  status : DNSSECStatus
deriving DecidableEq

/-- `SingleQueryResult`, with the fields the validator reads: the three sections and the
DNSSEC result, nil on a cache hit. -/
structure SingleQueryResult where
  answers : List RR
  authorities : List RR
  additionals : List RR
  dNSSECResult : Option DNSSECResult
deriving DecidableEq

/-- A `TraceStep`: one wire exchange of a lookup. -/
structure TraceStep where
  result : SingleQueryResult
  nameServer : String
  depth : Nat
  layer : String
deriving DecidableEq

/-- A `Trace`: the wire exchanges of one lookup, oldest first. -/
abbrev Trace := List TraceStep

/-- The sections of a `dns.Msg` the validator reads. -/
structure Msg where
  answer : List RR
  ns : List RR
  extra : List RR
deriving DecidableEq

end Zdns
