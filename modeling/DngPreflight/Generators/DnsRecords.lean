import DngPreflight.Codec.Json
import DngPreflight.Text.Template
import DngPreflight.Generators.Filters
import DngPreflight.Models.Config

set_option relaxedAutoImplicit false
set_option autoImplicit false

/-!
# The DNS records

The texts of `dns-records.md`, table by table, and of `dns-records.json`.

## Main definitions

* `DngPreflight.DnsRecords.DnsRecord` — a record: a row of a table, or an entry of the array.
* `DngPreflight.DnsRecords.generateMd`, `DngPreflight.DnsRecords.generateJson` — the texts.
-/

namespace DngPreflight.DnsRecords

open Text Codec

/-- A DNS record. -/
structure DnsRecord where
  type : Str
  name : Str
  value : Str
  ttl : ℕ
  deriving DecidableEq

/-- The addresses that any resolver returned, each of them once. -/
def resolvedIps (config : DngConfig) : List Str :=
  config.snapshot.dns.aRecords.values.flatten.foldl
    (fun ips ip => if ips.contains ip then ips else ips ++ [ip]) []

/-- The names of the stubs of the three categories. -/
def seedAppHostnames (config : DngConfig) : List Str :=
  let apps := config.answers.seedApps
  (apps.webApps ++ apps.sshRelays ++ apps.rdpRelays).map AppStub.name

/-- The domain of the public hostname. -/
def publicHostnameDomain (config : DngConfig) : Str := domainFromFqdn config.answers.publicHostname

/-- The TLS strategy is Let's Encrypt. -/
def usesAcme (config : DngConfig) : Bool :=
  decide (config.answers.tlsStrategy.kind = "lets_encrypt_dns01")

/-! ## Markdown -/

/-- A row of a table, the type being padded to four characters. -/
def DnsRecord.row (r : DnsRecord) : Template :=
  line ["| ", .value (r.type ++ List.replicate (4 - r.type.length) ' '), " | `", .value r.name,
    "` | `", .value r.value, "` | ", .value (numeral 10 r.ttl), " |"]

/-- A table. -/
def table (rows : List DnsRecord) : Template :=
  lines [
    "",
    "| Type | Name | Value | TTL |",
    "|------|------|-------|-----|"] ++
  rows.flatMap DnsRecord.row

/-- The address records of a name. -/
def addressRows (config : DngConfig) (name : Str) : List DnsRecord :=
  if resolvedIps config = [] then [⟨"A", name, "<set to DNG host public IP>", 300⟩]
  else (resolvedIps config).map fun ip => ⟨"A", name, ip, 300⟩

/-- The rows for the host. -/
def baseRows (config : DngConfig) : List DnsRecord :=
  addressRows config config.answers.publicHostname

/-- The rows for the wildcard. -/
def wildcardRows (config : DngConfig) : List DnsRecord :=
  addressRows config ("*.".toList ++ publicHostnameDomain config)

/-- The rows for the ACME challenge. -/
def acmeRows (config : DngConfig) : List DnsRecord :=
  ⟨"TXT", "_acme-challenge.".toList ++ config.answers.publicHostname,
    "<set by ACME client>", 60⟩ ::
  if config.answers.wildcardCert then
    [⟨"TXT", "_acme-challenge.".toList ++ publicHostnameDomain config,
      "<set by ACME client for wildcard>", 60⟩]
  else []

/-- The rows for the delegation of subdomains. -/
def delegationRows (config : DngConfig) : List DnsRecord :=
  [⟨"NS", "<external_subdomain>", config.answers.publicHostname, 3600⟩]

/-- The rows for the seed applications. -/
def seedRows (config : DngConfig) : List DnsRecord :=
  (seedAppHostnames config).map fun hostname =>
    ⟨"A", hostname ++ '.' :: publicHostnameDomain config, "<DNG host public IP>", 300⟩

/-- A section that is there on a condition. -/
def sectionIf (b : Bool) (body : Template) : Template :=
  if b then lines [""] ++ body ++ lines [""] else []

/-- The provider of the ACME challenge. -/
def acmeProvider (config : DngConfig) : Str :=
  match config.answers.tlsStrategy with
  | .letsEncryptDns01 l => l.dnsProvider
  | _ => ""

/-- The template of the Markdown form. -/
def template (config : DngConfig) : Template :=
  line ["# DNS Records for ", .value config.answers.publicHostname] ++
  lines [
    "",
    "> Auto-generated by dng-preflight.",
    ">",
    "> Publish these records **before** running `install.sh`. Recommended TTL is",
    "> 300 seconds while bringing the system up; raise to 3600 once stable.",
    "",
    "## Base host"] ++
  table (baseRows config) ++
  lines [""] ++
  sectionIf config.answers.wildcardCert
    (lines [
      "## Wildcard",
      "",
      "A wildcard record is required because the deployment uses a wildcard",
      "certificate (typical for RDP/SMB scope or multi-app deployments)."] ++
    table (wildcardRows config)) ++
  sectionIf (usesAcme config)
    (lines [
      "## ACME DNS-01 challenge",
      "",
      "Required for Let's Encrypt issuance via DNS provider"] ++
    line ["`", .value (acmeProvider config), "`. DNG manages these on"] ++
    lines [
      "renewal, but the initial provisioning may need them pre-published."] ++
    table (acmeRows config)) ++
  sectionIf config.requiresExtraDnsContainer
    (lines [
      "## RDP/SMB subdomain delegation",
      "",
      "The RDP/SMB compose variant uses an extra DNS container that resolves",
      "external relay names to internal hosts. Delegate each external subdomain",
      "listed in `subdomains:` of `scripted-config.yaml` to the DNG host via NS."] ++
    table (delegationRows config)) ++
  sectionIf (decide (seedAppHostnames config ≠ []))
    (lines [
      "## Seed application hostnames",
      "",
      "These are pre-populated as stubs in `scripted-config.yaml`; fill in the",
      "real backend addresses there. The DNS records below cover the public-facing",
      "relay hostnames you'll choose:"] ++
    table (seedRows config)) ++
  lines [
    "",
    "## Verification",
    "",
    "After publication, confirm propagation:",
    "",
    "```bash"] ++
  line ["dig @1.1.1.1 +short ", .value config.answers.publicHostname, " A"] ++
  line ["dig @8.8.8.8 +short ", .value config.answers.publicHostname, " A"] ++
  lines [
    "```",
    "",
    "Both should return the public IP of the DNG host within one TTL."]

/-- The text of the Markdown form. -/
def generateMd (config : DngConfig) : Str := render (template config)

/-! ## JSON -/

/-- The first address that a resolver returned, or a marker for it. -/
def targetValue (config : DngConfig) : Str :=
  (resolvedIps config).headD "<set to DNG host public IP>"

/-- The records of the JSON form. -/
def records (config : DngConfig) : List DnsRecord :=
  [⟨"A", config.answers.publicHostname, targetValue config, 300⟩] ++
  (if config.answers.wildcardCert then
    [⟨"A", "*.".toList ++ publicHostnameDomain config, targetValue config, 300⟩]
    else []) ++
  (if usesAcme config then acmeRows config else []) ++
  (seedAppHostnames config).map fun hostname =>
    ⟨"A", hostname ++ '.' :: publicHostnameDomain config, targetValue config, 300⟩

/-- A record as an object. -/
def DnsRecord.json (r : DnsRecord) : Json :=
  .obj [("type", .str r.type), ("name", .str r.name), ("value", .str r.value),
    ("ttl", .int r.ttl)]

/-- The document. -/
def payload (config : DngConfig) : Json :=
  .obj [("hostname", .str config.answers.publicHostname),
    ("wildcard", .bool config.answers.wildcardCert),
    ("tls_strategy", .str config.answers.tlsStrategy.kind),
    ("records", .arr ((records config).map DnsRecord.json))]

/-- The text of the JSON form. -/
def generateJson (config : DngConfig) : Str := (payload config).dumps ++ ['\n']

end DngPreflight.DnsRecords
