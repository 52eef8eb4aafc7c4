import DngPreflight.Codec.JsonPortable
import DngPreflight.Generators.DnsRecords

set_option relaxedAutoImplicit false
set_option autoImplicit false

/-!
# Reading the DNS records

`dns-records.json` is for downstream automation. Whatever characters the names of a plan have, the
file is ASCII, and a reader of JSON gets the records of the plan from it.

## Main definitions

* `DngPreflight.DnsRecords.DnsDocument` — what the file is about.
* `DngPreflight.DnsRecords.readDocument` — the document that automation gets from a text.

## Main results

* `DngPreflight.DnsRecords.generateJson_exact` — it is the document of the plan.
-/

namespace DngPreflight.DnsRecords

open Text Codec

/-! ## Documents -/

/-- What the file is about. -/
structure DnsDocument where
  hostname : Str
  wildcard : Bool
  tlsStrategy : Str
  records : List DnsRecord
  deriving DecidableEq

/-- The document of a plan. -/
def document (config : DngConfig) : DnsDocument where
  hostname := config.answers.publicHostname
  wildcard := config.answers.wildcardCert
  tlsStrategy := config.answers.tlsStrategy.kind
  records := records config

/-- A record. -/
def DnsRecord.ofJson (x : Json) : Option DnsRecord := do
  let type ← (Json.field? "type" x).bind Json.asStr
  let name ← (Json.field? "name" x).bind Json.asStr
  let value ← (Json.field? "value" x).bind Json.asStr
  let ttl ← (Json.field? "ttl" x).bind Json.asNat
  pure ⟨type, name, value, ttl⟩

/-- The document that automation gets from a text. -/
def readDocument (text : Str) : Option DnsDocument := do
  let x ← loads text
  let hostname ← (Json.field? "hostname" x).bind Json.asStr
  let wildcard ← (Json.field? "wildcard" x).bind Json.asBool
  let tlsStrategy ← (Json.field? "tls_strategy" x).bind Json.asStr
  let items ← (Json.field? "records" x).bind Json.asArr
  let records ← items.mapM DnsRecord.ofJson
  pure ⟨hostname, wildcard, tlsStrategy, records⟩

/-- A record is read back from its object. -/
lemma DnsRecord.ofJson_json (r : DnsRecord) : DnsRecord.ofJson r.json = some r := by
  have httl : Json.asNat (.int r.ttl) = some r.ttl := by
    rw [Json.asNat, if_pos (Int.natCast_nonneg r.ttl), Int.toNat_natCast]
  show ((Json.asNat (.int r.ttl)).bind fun ttl =>
    some (⟨r.type, r.name, r.value, ttl⟩ : DnsRecord)) = _
  rw [httl]
  rfl

/-- A list of records is read back from its JSON values. -/
lemma mapM_ofJson (rs : List DnsRecord) :
    (rs.map DnsRecord.json).mapM DnsRecord.ofJson = some rs := by
  induction rs with
  | nil => rfl
  | cons r rs ih =>
    rw [List.map_cons, List.mapM_cons, DnsRecord.ofJson_json, ih]
    rfl

/-- The document of a plan is read back from its file. -/
lemma readDocument_generateJson (config : DngConfig) :
    readDocument (generateJson config) = some (document config) := by
  have hread : loads (generateJson config) = some (payload config) := loads_dumps _ rfl
  rw [readDocument, hread]
  show ((records config).map DnsRecord.json).mapM DnsRecord.ofJson >>= _ = _
  rw [mapM_ofJson]
  rfl

/-- Plans with one document have one payload. -/
lemma payload_congr {a b : DngConfig} (h : document a = document b) : payload a = payload b := by
  have hhostname : a.answers.publicHostname = b.answers.publicHostname :=
    congrArg DnsDocument.hostname h
  have hwildcard : a.answers.wildcardCert = b.answers.wildcardCert :=
    congrArg DnsDocument.wildcard h
  have hkind : a.answers.tlsStrategy.kind = b.answers.tlsStrategy.kind :=
    congrArg DnsDocument.tlsStrategy h
  have hrecords : records a = records b := congrArg DnsDocument.records h
  rw [payload, payload, hhostname, hwildcard, hkind, hrecords]

/-- **The file for automation**: it is ASCII, the document of the plan is read back from it, and
two plans have the same file exactly if they have the same document.

**Proof sketch.** The reader inverts `json.dumps`, so that the file determines the document. -/
theorem generateJson_exact (config : DngConfig) :
    IsPortable (generateJson config) ∧
    readDocument (generateJson config) = some (document config) ∧
    ∀ other, generateJson other = generateJson config ↔ document other = document config := by
  refine ⟨(isPortable_dumpsAt _ 0).append (.cons (by decide) isPortable_nil),
    readDocument_generateJson config, fun other => ⟨fun h => ?_, fun h => ?_⟩⟩
  · have hread := readDocument_generateJson other
    rw [h, readDocument_generateJson] at hread
    exact (Option.some.inj hread).symm
  · rw [generateJson, generateJson, payload_congr h]

end DngPreflight.DnsRecords
