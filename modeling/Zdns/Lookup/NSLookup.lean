import Zdns.Dnssec.Records
import Zdns.Support.Names

/-!
# Lookup — NS records and their glue

`DoNSLookup` of the refactored resolver asks for the NS records of a name, reads the A and AAAA
entries of the Additional section into two maps keyed by owner with one final dot trimmed
(`glueMaps`), and builds one `NSRecord` per NS entry of the Answers, taking its addresses from
the maps or, when the map has no entry for the target, from a targeted lookup (`nsRecords`).

The resolver's own lookups, `VerifyAddress`, and the types of the answers live outside the
repository's sources: they are the fields of `Resolver`, and every theorem holds for all of
them.  `DoTargetedLookup` may answer differently as the lookups before it change the resolver's
cache, so it is handed the targeted lookups issued so far.

* `glueMaps_get?`: the map's entry for a host is the addresses, in Additional order, of the
  entries of the type whose owner, one final dot trimmed, is the host as a string.
* `doNSLookup_joins`: one record per NS answer, in order, its addresses from that glue when
  there is some, else from the targeted lookup.
* `doNSLookup_trace`: the trace is the NS lookup's, followed by that of each targeted lookup, one
  per NS answer whose target lacks glue of a wanted family, in answer order, each asking for
  exactly the families its target lacks.
* `doNSLookup_case_sensitive`: glue whose owner differs from the target in letter case only is
  missed, and the targeted lookup's addresses are reported instead.
-/

namespace Zdns.Refactored

/-- `Answer`, with the fields `DoNSLookup` reads. -/
structure Answer where
  ttl : UInt32
  type : String
  name : String
  answer : String
deriving DecidableEq

/-- An entry of `Answers` or `Additional`, an `interface{}`: an `Answer`, or a value of another
type, which the type assertion `ans.(Answer)` skips. -/
inductive AnswerEntry
  | answer (a : Answer)
  | other
deriving DecidableEq

/-- `SingleQueryResult`, with the two sections `DoNSLookup` reads. -/
structure SingleQueryResult where
  answers : List AnswerEntry
  additional : List AnswerEntry
deriving DecidableEq

/-- `NSRecord`; a nil address slice is the empty list. -/
structure NSRecord where
  name : String
  type : String
  iPv4Addresses : List String
  iPv6Addresses : List String
  ttl : UInt32
deriving DecidableEq

/-- `NSResult`. -/
structure NSResult where
  servers : List NSRecord
deriving DecidableEq

/-- The result of `DoTargetedLookup`, with the fields `DoNSLookup` reads. -/
structure TargetedResult where
  iPv4Addresses : List String
  iPv6Addresses : List String
deriving DecidableEq

/-- What `DoNSLookup` calls: `r.doSingleNameServerLookup` on the NS question for a name at a
name server, `VerifyAddress`, and `r.DoTargetedLookup`, handed the targeted lookups (target,
IPv4 wanted, IPv6 wanted) issued before it. -/
structure Resolver where
  doSingleNameServerLookup : String → String → SingleQueryResult × Trace × Status × Option String
  verifyAddress : String → String → Bool
  doTargetedLookup : List (String × Bool × Bool) → String → String → Bool → Bool →
    Option TargetedResult × Trace

section
variable (r : Resolver)

/-- The first loop of `DoNSLookup`: the verified addresses of the A and AAAA entries of
`Additional`, appended under their owner with one final dot trimmed. -/
def glueMaps : List AnswerEntry → GoMap String (List String) → GoMap String (List String) →
    GoMap String (List String) × GoMap String (List String)
  | [], ipv4s, ipv6s => (ipv4s, ipv6s)
  | .other :: rest, ipv4s, ipv6s => glueMaps rest ipv4s ipv6s
  | .answer a :: rest, ipv4s, ipv6s =>
      let recName := trimDotSuffix a.name
      if r.verifyAddress a.type a.answer then
        if a.type = "A" then glueMaps rest (ipv4s.push recName a.answer) ipv6s
        else if a.type = "AAAA" then glueMaps rest ipv4s (ipv6s.push recName a.answer)
        else glueMaps rest ipv4s ipv6s
      else glueMaps rest ipv4s ipv6s

/-- The addresses a record takes from a glue map, and whether a targeted lookup must find them:
`if lookup { if ips, ok := m[name]; ok { ... } else { find = true } }`. -/
def fromGlue (lookup : Bool) (m : GoMap String (List String)) (name : String) : List String × Bool :=
  if lookup then
    match m.get? name with
    | some ips => (ips, false)
    | none => ([], true)
  else ([], false)

/-- The record of one NS answer, and the targeted lookup it issued, if any. -/
def nsRecord (nameServer : String) (lookupIpv4 lookupIpv6 : Bool)
    (ipv4s ipv6s : GoMap String (List String)) (calls : List (String × Bool × Bool)) (a : Answer) :
    NSRecord × Option ((String × Bool × Bool) × Trace) :=
  let name := trimDotSuffix a.answer
  let v4 := fromGlue lookupIpv4 ipv4s name
  let v6 := fromGlue lookupIpv6 ipv6s name
  if v4.2 ∨ v6.2 then
    let found := r.doTargetedLookup calls name nameServer v4.2 v6.2
    let ips4 := match found.1 with
      | some res => if v4.2 then res.iPv4Addresses else v4.1
      | none => v4.1
    let ips6 := match found.1 with
      | some res => if v6.2 then res.iPv6Addresses else v6.1
      | none => v6.1
    (⟨name, a.type, ips4, ips6, a.ttl⟩, some ((name, v4.2, v6.2), found.2))
  else (⟨name, a.type, v4.1, v6.1, a.ttl⟩, none)

/-- The second loop of `DoNSLookup`: a record per NS entry of `Answers`, each targeted lookup's
trace appended. -/
def nsRecords (nameServer : String) (lookupIpv4 lookupIpv6 : Bool)
    (ipv4s ipv6s : GoMap String (List String)) :
    List AnswerEntry → List (String × Bool × Bool) → List NSRecord → Trace → List NSRecord × Trace
  | [], _, servers, trace => (servers, trace)
  | .other :: rest, calls, servers, trace =>
      nsRecords nameServer lookupIpv4 lookupIpv6 ipv4s ipv6s rest calls servers trace
  | .answer a :: rest, calls, servers, trace =>
      if a.type = "NS" then
        match nsRecord r nameServer lookupIpv4 lookupIpv6 ipv4s ipv6s calls a with
        | (rec, some (call, nextTrace)) =>
            nsRecords nameServer lookupIpv4 lookupIpv6 ipv4s ipv6s rest (calls ++ [call])
              (servers ++ [rec]) (trace ++ nextTrace)
        | (rec, none) =>
            nsRecords nameServer lookupIpv4 lookupIpv6 ipv4s ipv6s rest calls (servers ++ [rec]) trace
      else nsRecords nameServer lookupIpv4 lookupIpv6 ipv4s ipv6s rest calls servers trace

/-- `DoNSLookup`. -/
def doNSLookup (name : String) (lookupIpv4 lookupIpv6 : Bool) (nameServer : String) :
    NSResult × Trace × Status × Option String :=
  match r.doSingleNameServerLookup name nameServer with
  | (ns, trace, status, err) =>
      if status ≠ .noError ∨ err.isSome then (⟨[]⟩, trace, status, err)
      else
        let maps := glueMaps r ns.additional GoMap.empty GoMap.empty
        let out := nsRecords r nameServer lookupIpv4 lookupIpv6 maps.1 maps.2 ns.answers [] [] trace
        (⟨out.1⟩, out.2, .noError, none)

end

/-! ### The glue maps -/

section
variable (r : Resolver)

/-- The verified address of an `Additional` entry of type `T` owned by `host`, one final dot
of the owner trimmed. -/
def glueOf (T host : String) : AnswerEntry → Option String
  | .answer a =>
      if trimDotSuffix a.name = host ∧ a.type = T ∧ r.verifyAddress a.type a.answer = true then
        some a.answer
      else none
  | .other => none

/-- The glue of `host` of type `T`, in `Additional` order. -/
def glueFor (T host : String) (additional : List AnswerEntry) : List String :=
  additional.filterMap (glueOf r T host)

end

theorem glueMaps_get? {r : Resolver} (additional : List AnswerEntry) {host : String}
    {ipv4s ipv6s : GoMap String (List String)} {X4 X6 : List String}
    (h4 : ipv4s.get? host = nonNil X4) (h6 : ipv6s.get? host = nonNil X6) :
    (glueMaps r additional ipv4s ipv6s).1.get? host = nonNil (X4 ++ glueFor r "A" host additional) ∧
    (glueMaps r additional ipv4s ipv6s).2.get? host = nonNil (X6 ++ glueFor r "AAAA" host additional) := by
  induction additional generalizing ipv4s ipv6s X4 X6 with
  | nil => simpa [glueMaps, glueFor] using ⟨h4, h6⟩
  | cons e rest ih =>
      cases e with
      | other => simpa [glueMaps, glueFor, glueOf] using ih h4 h6
      | answer a =>
          obtain ⟨ttl, type, owner, addr⟩ := a
          simp only [glueFor, List.filterMap_cons, glueOf, glueMaps]
          by_cases hv : r.verifyAddress type addr = true
          · by_cases hA : type = "A"
            · subst hA
              have := ih (GoMap.get?_push_nonNil h4 (trimDotSuffix owner) addr) h6
              by_cases hn : trimDotSuffix owner = host
              · subst hn; simpa [hv] using this
              · simpa [hv, hn, Ne.symm hn] using this
            · by_cases hAAAA : type = "AAAA"
              · subst hAAAA
                have := ih h4 (GoMap.get?_push_nonNil h6 (trimDotSuffix owner) addr)
                by_cases hn : trimDotSuffix owner = host
                · subst hn; simpa [hv] using this
                · simpa [hv, hn, Ne.symm hn] using this
              · simpa [hv, hA, hAAAA, glueFor] using ih h4 h6
          · simpa [hv, glueFor] using ih h4 h6

/-- The glue maps hold, under each host, its glue of each type. -/
theorem glueMaps_empty_get? (r : Resolver) (additional : List AnswerEntry) (host : String) :
    (glueMaps r additional GoMap.empty GoMap.empty).1.get? host = nonNil (glueFor r "A" host additional) ∧
    (glueMaps r additional GoMap.empty GoMap.empty).2.get? host =
      nonNil (glueFor r "AAAA" host additional) := by
  simpa using @glueMaps_get? r additional host GoMap.empty GoMap.empty [] [] rfl rfl

/-! ### The records -/

/-- The addresses a record reports: none unless wanted, else its glue, else what the targeted
lookup found, if it returned a result. -/
def pick (lookup : Bool) (glue : List String) (found : Option (List String)) : List String :=
  if lookup then (if glue.isEmpty then found.getD [] else glue) else []

theorem fromGlue_of_get? {l : Bool} {m : GoMap String (List String)} {name : String}
    {G : List String} (h : m.get? name = nonNil G) :
    fromGlue l m name = (if l then G else [], l && G.isEmpty) := by
  cases l
  · rfl
  · cases G <;> simp [fromGlue, h, nonNil]

/-- The record of one NS answer, given the target's glue `G4` and `G6`: its addresses are
`pick`ed from the glue and from the targeted lookup for the glue it lacks. -/
theorem nsRecord_fst {r : Resolver} {nameServer : String} {l4 l6 : Bool}
    {ipv4s ipv6s : GoMap String (List String)} {calls : List (String × Bool × Bool)} {a : Answer}
    {G4 G6 : List String} (h4 : ipv4s.get? (trimDotSuffix a.answer) = nonNil G4)
    (h6 : ipv6s.get? (trimDotSuffix a.answer) = nonNil G6) :
    (nsRecord r nameServer l4 l6 ipv4s ipv6s calls a).1 =
      ⟨trimDotSuffix a.answer, a.type,
        pick l4 G4 ((r.doTargetedLookup calls (trimDotSuffix a.answer) nameServer (l4 && G4.isEmpty)
          (l6 && G6.isEmpty)).1.map (·.iPv4Addresses)),
        pick l6 G6 ((r.doTargetedLookup calls (trimDotSuffix a.answer) nameServer (l4 && G4.isEmpty)
          (l6 && G6.isEmpty)).1.map (·.iPv6Addresses)), a.ttl⟩ := by
  dsimp only [nsRecord]
  rw [fromGlue_of_get? h4, fromGlue_of_get? h6]
  cases (r.doTargetedLookup calls (trimDotSuffix a.answer) nameServer (l4 && G4.isEmpty)
    (l6 && G6.isEmpty)).1 <;>
  cases l4 <;> cases l6 <;> cases G4 <;> cases G6 <;> rfl

/-- The NS entries of `Answers`, in order. -/
def nsAnswers : List AnswerEntry → List Answer :=
  List.filterMap fun
    | .answer a => if a.type = "NS" then some a else none
    | .other => none

section
variable (r : Resolver)

/-- The record `DoNSLookup` reports for the NS answer `a`: named by its target with one final
dot trimmed, with type NS and `a`'s TTL; its addresses are `pick`ed from the target's glue in
`additional` and from the targeted lookup for the glue it lacks, issued after some `calls`. -/
def Joined (nameServer : String) (lookupIpv4 lookupIpv6 : Bool) (additional : List AnswerEntry)
    (a : Answer) (rec : NSRecord) : Prop :=
  rec.name = trimDotSuffix a.answer ∧ rec.type = "NS" ∧ rec.ttl = a.ttl ∧
  ∃ calls, rec.iPv4Addresses = pick lookupIpv4 (glueFor r "A" rec.name additional)
      ((r.doTargetedLookup calls rec.name nameServer
        (lookupIpv4 && (glueFor r "A" rec.name additional).isEmpty)
        (lookupIpv6 && (glueFor r "AAAA" rec.name additional).isEmpty)).1.map (·.iPv4Addresses)) ∧
    rec.iPv6Addresses = pick lookupIpv6 (glueFor r "AAAA" rec.name additional)
      ((r.doTargetedLookup calls rec.name nameServer
        (lookupIpv4 && (glueFor r "A" rec.name additional).isEmpty)
        (lookupIpv6 && (glueFor r "AAAA" rec.name additional).isEmpty)).1.map (·.iPv6Addresses))

end

section Spec
variable {r : Resolver} {nameServer : String} {l4 l6 : Bool} {ipv4s ipv6s : GoMap String (List String)}
  {additional : List AnswerEntry}

theorem nsRecord_joined
    (h : ∀ host, ipv4s.get? host = nonNil (glueFor r "A" host additional) ∧
      ipv6s.get? host = nonNil (glueFor r "AAAA" host additional))
    (calls : List (String × Bool × Bool)) {a : Answer} (hNS : a.type = "NS") :
    Joined r nameServer l4 l6 additional a (nsRecord r nameServer l4 l6 ipv4s ipv6s calls a).1 := by
  rw [nsRecord_fst (h _).1 (h _).2]
  exact ⟨rfl, hNS, rfl, calls, rfl, rfl⟩

/-- The second loop appends one `Joined` record per NS answer. -/
theorem nsRecords_spec
    (h : ∀ host, ipv4s.get? host = nonNil (glueFor r "A" host additional) ∧
      ipv6s.get? host = nonNil (glueFor r "AAAA" host additional))
    (answers : List AnswerEntry) (calls : List (String × Bool × Bool)) (servers : List NSRecord)
    (trace : Trace) :
    ∃ rs, (nsRecords r nameServer l4 l6 ipv4s ipv6s answers calls servers trace).1 = servers ++ rs ∧
      List.Forall₂ (Joined r nameServer l4 l6 additional) (nsAnswers answers) rs := by
  induction answers generalizing calls servers trace with
  | nil => exact ⟨[], by simp [nsRecords], .nil⟩
  | cons e rest ih =>
      cases e with
      | other => exact ih calls servers trace
      | answer a =>
          by_cases hNS : a.type = "NS"
          · have hj : Joined r nameServer l4 l6 additional a
                (nsRecord r nameServer l4 l6 ipv4s ipv6s calls a).1 := nsRecord_joined h calls hNS
            simp only [nsRecords, hNS, if_true]
            rcases hn : nsRecord r nameServer l4 l6 ipv4s ipv6s calls a with
              ⟨rec, _ | ⟨call, nextTrace⟩⟩ <;> rw [hn] at hj <;>
            · obtain ⟨rs, h1, h2⟩ := ih _ _ _
              exact ⟨rec :: rs, by rw [h1]; simp, by simpa [nsAnswers, hNS] using List.Forall₂.cons hj h2⟩
          · simpa only [nsRecords, nsAnswers, List.filterMap_cons, hNS, if_false] using ih calls servers trace

/-- A failed NS lookup is handed back with no record. -/
theorem doNSLookup_failed {name : String} {ns : SingleQueryResult} {trace : Trace} {status : Status}
    {err : Option String} (h : r.doSingleNameServerLookup name nameServer = (ns, trace, status, err))
    (hf : status ≠ .noError ∨ err.isSome) :
    doNSLookup r name l4 l6 nameServer = (⟨[]⟩, trace, status, err) := by
  simp [doNSLookup, h, hf]

/-- **NS records joined with their glue, as the code joins them.**  For a successful NS lookup,
`DoNSLookup` reports one record per NS entry of `Answers`, in order, `Joined` with the glue of
`Additional`: the owner compared to the target as a string, one final dot trimmed from each. -/
theorem doNSLookup_joins {name : String} {ns : SingleQueryResult} {trace : Trace}
    (h : r.doSingleNameServerLookup name nameServer = (ns, trace, .noError, none)) :
    List.Forall₂ (Joined r nameServer l4 l6 ns.additional) (nsAnswers ns.answers)
      (doNSLookup r name l4 l6 nameServer).1.servers := by
  obtain ⟨rs, h1, h2⟩ := @nsRecords_spec r nameServer l4 l6 _ _ _
    (glueMaps_empty_get? r ns.additional) ns.answers [] [] trace
  simp only [doNSLookup, h, ne_eq, not_true_eq_false, Option.isSome_none, Bool.false_eq_true,
    or_self, if_false]
  rw [h1]
  simpa using h2

end Spec

/-! ### The targeted lookups and the trace -/

section Trace
variable (r : Resolver)

/-- The targeted lookup `DoNSLookup` issues for the NS answer `a`: its target, with the wanted
families for which `additional` holds no glue of the target; none when no wanted family lacks
glue. -/
def targetedFor (lookupIpv4 lookupIpv6 : Bool) (additional : List AnswerEntry) (a : Answer) :
    Option (String × Bool × Bool) :=
  let name := trimDotSuffix a.answer
  let find4 := lookupIpv4 && (glueFor r "A" name additional).isEmpty
  let find6 := lookupIpv6 && (glueFor r "AAAA" name additional).isEmpty
  if find4 || find6 then some (name, find4, find6) else none

/-- The trace the targeted lookups `cs` append, issued in turn after the lookups `calls`. -/
def targetedTraces (nameServer : String) :
    List (String × Bool × Bool) → List (String × Bool × Bool) → Trace
  | _, [] => []
  | calls, c :: cs =>
      (r.doTargetedLookup calls c.1 nameServer c.2.1 c.2.2).2 ++ targetedTraces nameServer (calls ++ [c]) cs

end Trace

section TraceSpec
variable {r : Resolver} {nameServer : String} {l4 l6 : Bool} {ipv4s ipv6s : GoMap String (List String)}
  {additional : List AnswerEntry}

/-- The targeted lookup of one NS answer, and the trace it returns. -/
theorem nsRecord_snd
    (h : ∀ host, ipv4s.get? host = nonNil (glueFor r "A" host additional) ∧
      ipv6s.get? host = nonNil (glueFor r "AAAA" host additional))
    (calls : List (String × Bool × Bool)) (a : Answer) :
    (nsRecord r nameServer l4 l6 ipv4s ipv6s calls a).2 = (targetedFor r l4 l6 additional a).map
      fun c => (c, (r.doTargetedLookup calls c.1 nameServer c.2.1 c.2.2).2) := by
  dsimp only [nsRecord, targetedFor]
  rw [fromGlue_of_get? (h _).1, fromGlue_of_get? (h _).2]
  by_cases hc : ((l4 && (glueFor r "A" (trimDotSuffix a.answer) additional).isEmpty) ||
    (l6 && (glueFor r "AAAA" (trimDotSuffix a.answer) additional).isEmpty)) = true
  · rw [if_pos hc, if_pos (Bool.or_eq_true _ _ ▸ hc)]
    rfl
  · rw [if_neg hc, if_neg (Bool.or_eq_true _ _ ▸ hc)]
    rfl

/-- The second loop appends, after the trace it is handed, the trace of each targeted lookup,
one per NS answer lacking glue of a wanted family, issued in answer order. -/
theorem nsRecords_trace
    (h : ∀ host, ipv4s.get? host = nonNil (glueFor r "A" host additional) ∧
      ipv6s.get? host = nonNil (glueFor r "AAAA" host additional))
    (answers : List AnswerEntry) (calls : List (String × Bool × Bool)) (servers : List NSRecord)
    (trace : Trace) :
    (nsRecords r nameServer l4 l6 ipv4s ipv6s answers calls servers trace).2 =
      trace ++ targetedTraces r nameServer calls
        ((nsAnswers answers).filterMap (targetedFor r l4 l6 additional)) := by
  induction answers generalizing calls servers trace with
  | nil => simp [nsRecords, nsAnswers, targetedTraces]
  | cons e rest ih =>
      cases e with
      | other => exact ih calls servers trace
      | answer a =>
          by_cases hNS : a.type = "NS"
          · have hs := @nsRecord_snd r nameServer l4 l6 ipv4s ipv6s additional h calls a
            simp only [nsRecords, hNS, if_true, nsAnswers, List.filterMap_cons]
            rcases hn : nsRecord r nameServer l4 l6 ipv4s ipv6s calls a with
              ⟨rec, _ | ⟨call, nextTrace⟩⟩ <;> rw [hn] at hs <;>
              rcases ht : targetedFor r l4 l6 additional a with _ | c <;> rw [ht] at hs <;>
              simp only [Option.map_none', Option.map_some', Option.some.injEq, Prod.mk.injEq,
                reduceCtorEq] at hs
            · simpa using ih calls (servers ++ [rec]) trace
            · obtain ⟨rfl, rfl⟩ := hs
              simp [ih, targetedTraces, nsAnswers]
          · simpa only [nsRecords, nsAnswers, List.filterMap_cons, hNS, if_false] using ih calls servers trace

/-- **The trace of `DoNSLookup`.**  After a successful NS lookup, `DoNSLookup` returns NoError with
no error, and the NS lookup's trace followed by the trace of each targeted lookup in turn.  There
is one targeted lookup per NS answer whose target lacks glue of a wanted family, in answer order,
asking for exactly the families it lacks. -/
theorem doNSLookup_trace {name : String} {ns : SingleQueryResult} {trace : Trace}
    (h : r.doSingleNameServerLookup name nameServer = (ns, trace, .noError, none)) :
    (doNSLookup r name l4 l6 nameServer).2 = (trace ++ targetedTraces r nameServer []
      ((nsAnswers ns.answers).filterMap (targetedFor r l4 l6 ns.additional)), .noError, none) := by
  simp only [doNSLookup, h, ne_eq, not_true_eq_false, Option.isSome_none, Bool.false_eq_true,
    or_self, if_false]
  rw [nsRecords_trace (glueMaps_empty_get? r ns.additional)]

end TraceSpec

/-! ### Glue in another letter case -/

/-- A resolver answering `example.com`'s NS question with `ns1.example.com.` and the Additional
section `additional`; `VerifyAddress` accepts a dotted A and a colon AAAA address, and the
targeted lookup finds `198.51.100.7`. -/
def exampleResolver (additional : List AnswerEntry) : Resolver where
  doSingleNameServerLookup _ _ :=
    (⟨[.answer ⟨3600, "NS", "example.com.", "ns1.example.com."⟩], additional⟩, [], .noError, none)
  verifyAddress t a := decide ((t = "A" ∧ '.' ∈ a.data) ∨ (t = "AAAA" ∧ ':' ∈ a.data))
  doTargetedLookup _ _ _ _ _ := (some ⟨["198.51.100.7"], []⟩, [])

theorem doNSLookup_joins_glue :
    ∃ ns trace, (exampleResolver [.answer ⟨3600, "A", "ns1.example.com.", "192.0.2.1"⟩]).doSingleNameServerLookup
      "example.com" "192.0.2.53" = (ns, trace, .noError, none) ∧
    List.Forall₂ (Joined (exampleResolver [.answer ⟨3600, "A", "ns1.example.com.", "192.0.2.1"⟩])
        "192.0.2.53" true false ns.additional) (nsAnswers ns.answers)
      (doNSLookup (exampleResolver [.answer ⟨3600, "A", "ns1.example.com.", "192.0.2.1"⟩])
        "example.com" true false "192.0.2.53").1.servers :=
  ⟨_, _, rfl, doNSLookup_joins rfl⟩

/-- An exchange with the server `nameServer` about `name`, as a trace records it. -/
def exchange (nameServer name : String) : TraceStep := ⟨⟨[], [], [], none⟩, nameServer, 0, name⟩

/-- A resolver answering `example.com`'s NS question with `ns1.example.com.` and
`ns2.example.com.`, with IPv4 glue for `ns2` alone, and recording one exchange per lookup. -/
def tracingResolver : Resolver where
  doSingleNameServerLookup name nameServer :=
    (⟨[.answer ⟨3600, "NS", "example.com.", "ns1.example.com."⟩,
        .answer ⟨3600, "NS", "example.com.", "ns2.example.com."⟩],
      [.answer ⟨3600, "A", "ns2.example.com.", "192.0.2.2"⟩]⟩, [exchange nameServer name], .noError, none)
  verifyAddress := (exampleResolver []).verifyAddress
  doTargetedLookup _ name nameServer _ _ :=
    (some ⟨["198.51.100.7"], ["2001:db8::7"]⟩, [exchange nameServer name])

/-- Asking for both families, `ns1.example.com` gets a targeted lookup for both and
`ns2.example.com` one for IPv6 alone: the trace is the NS lookup's exchange and one per targeted
lookup, in answer order. -/
theorem doNSLookup_trace_two_targets :
    ∃ ns trace, tracingResolver.doSingleNameServerLookup "example.com" "192.0.2.53" =
        (ns, trace, .noError, none) ∧
      (nsAnswers ns.answers).filterMap (targetedFor tracingResolver true true ns.additional) =
        [("ns1.example.com", true, true), ("ns2.example.com", false, true)] ∧
      (doNSLookup tracingResolver "example.com" true true "192.0.2.53").2 =
        (trace ++ targetedTraces tracingResolver "192.0.2.53" []
          ((nsAnswers ns.answers).filterMap (targetedFor tracingResolver true true ns.additional)),
          .noError, none) :=
  ⟨_, _, rfl, by decide, doNSLookup_trace rfl⟩

/-- Glue owned by `NS1.example.com.`, the NS target `ns1.example.com.` up to letter case, passes
`VerifyAddress` and is missed: the record carries the targeted lookup's address. -/
theorem doNSLookup_case_sensitive :
    (exampleResolver []).verifyAddress "A" "192.0.2.1" = true ∧
    toLower (trimDotSuffix "NS1.example.com.") = toLower (trimDotSuffix "ns1.example.com.") ∧
    (doNSLookup (exampleResolver [.answer ⟨3600, "A", "NS1.example.com.", "192.0.2.1"⟩]) "example.com"
      true false "192.0.2.53").1.servers.map (·.iPv4Addresses) = [["198.51.100.7"]] := by
  decide

end Zdns.Refactored
