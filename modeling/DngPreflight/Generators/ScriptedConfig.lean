import DngPreflight.Text.Template
import DngPreflight.Generators.Filters
import DngPreflight.Models.Config

set_option relaxedAutoImplicit false
set_option autoImplicit false

/-!
# The scripted configuration

The text of `scripted-config.yaml`, section by section.

## Main definitions

* `DngPreflight.ScriptedConfig.generate` — the text of the file.
-/

namespace DngPreflight.ScriptedConfig

open Text Net

/-- The head of the file, and the gateway section up to its certificate. -/
def gateway (config : DngConfig) : Template :=
  lines ["# Auto-generated by dng-preflight. Review before applying."] ++
  line ["# DNG minimum version: ", .value config.dngVersionMinimum] ++
  line ["# Scope: ", .value config.answers.deploymentScope.text] ++
  line ["# IdP: ", .value config.answers.idp.text] ++
  lines [
    "",
    "network_gateway:"] ++
  line ["  hostname: ", .value (yamlStr config.answers.publicHostname)] ++
  lines [
    "  enable_ui: true",
    "  password: '<<SET BEFORE FIRST RUN — min 8 chars, mixed case, digit, symbol>>'"] ++
  line ["  admin_email: ",
    .value (yamlStr ("admin@".toList ++ domainFromFqdn config.answers.publicHostname))] ++
  (match config.answers.loadBalancer with
    | none => []
    | some lb =>
      lines ["  load_balancer_cidrs_ips:"] ++
      lb.trustedProxies.flatMap fun cidr => line ["    - ", .value (yamlStr cidr.str)])

/-- A marker for the contents of a file. -/
def pasteContents (label : String) (path : Str) : Str :=
  pemBlock 6 (label.toList ++ "<<paste contents of ".toList ++ path ++ ">>".toList)

/-- The certificate and the key of the file-based TLS strategies. -/
def ownCert (certPath keyPath : Str) : Template :=
  lines [
    "    source: own",
    "    cert: |"] ++
  line [.value (pasteContents "" certPath)] ++
  lines ["    key: |"] ++
  line [.value (pasteContents "" keyPath)]

/-- The certificate section. -/
def sslCert (config : DngConfig) : Template :=
  lines ["  ssl_cert:"] ++
  match config.answers.tlsStrategy with
  | .letsEncryptDns01 _ => lines ["    source: letsencrypt"]
  | .existingBundle b => ownCert b.certPath b.keyPath
  | .internalCa c =>
    ownCert c.certPath c.keyPath ++
    lines ["    # chain: |"] ++
    line [.value (pasteContents "#   " c.chainPath)]

/-- The section of the identity provider. -/
def primaryAuth : Template :=
  lines [
    "",
    "primary_auth:",
    "  # Filled in at RUNBOOK Step 4 (after IdP returns its metadata).",
    "  entity_id: '<<IdP entity ID — see RUNBOOK Step 4>>'",
    "  single_signon_url: '<<IdP SSO URL — see RUNBOOK Step 4>>'",
    "  signing_cert: |",
    "    <<paste IdP signing certificate PEM>>"]

/-- The key of an entry. -/
def entryKey (name : Str) : Template := line ["  ", .value name, ":"]

/-- The external hostname of an entry. -/
def externalHostname (name domain : Str) : Template :=
  line ["    external_hostname: '<<set: e.g. ", .value name, ".", .value domain, ">>'"]

/-- The certificate of an entry. -/
def externalSslCert : Template :=
  lines [
    "    external_ssl_cert:",
    "      source: own",
    "      cert: |",
    "        <<see network_gateway.ssl_cert.cert>>",
    "      key: |",
    "        <<see network_gateway.ssl_cert.key>>"]

/-- The second factor of an entry. -/
def duo2fa : Template :=
  lines [
    "    duo_2fa:",
    "      ikey: '<<Duo Admin Panel: integration ikey>>'",
    "      skey: '<<Duo Admin Panel: integration skey>>'",
    "      api_host: '<<api-XXXXXXXX.duosecurity.com>>'"]

/-- The entry of a web application. -/
def webApplication (domain : Str) (app : AppStub) : Template :=
  entryKey app.name ++ externalHostname app.name domain ++
  lines [
    "    internal_hostname: '<<set: internal FQDN or IP>>'",
    "    internal_port: 443",
    "    internal_use_ssl: true"] ++
  externalSslCert ++ duo2fa

/-- The entry of an SSH relay. -/
def sshServer (domain : Str) (relay : AppStub) : Template :=
  entryKey relay.name ++ externalHostname relay.name domain ++ externalSslCert ++
  lines [
    "    internal_servers:",
    "      - host_pattern: '<<internal hostname pattern, * supported>>'",
    "        ports: '22'"] ++
  duo2fa

/-- The entry of an RDP relay. -/
def applicationRelay (domain : Str) (relay : AppStub) : Template :=
  entryKey relay.name ++
  lines ["    application_type: 'rdp'"] ++
  externalHostname relay.name domain ++ externalSslCert ++
  lines [
    "    internal_servers:",
    "      - host_pattern: '<<internal hostname pattern, * supported>>'"] ++
  duo2fa

/-- A section of entries, with a comment in place of them if there are none. -/
def entries (key missing : String) (entry : AppStub → Template) (stubs : List AppStub) :
    Template :=
  lines ["", key] ++
  (if stubs = [] then lines [missing, "  \x7b\x7d"] else []) ++
  stubs.flatMap entry

/-- The template of the file. -/
def template (config : DngConfig) : Template :=
  let domain := domainFromFqdn config.answers.publicHostname
  gateway config ++ sslCert config ++ primaryAuth ++
  entries "web_applications:"
    "  # No web applications seeded; add entries here keyed by friendly name."
    (webApplication domain) config.answers.seedApps.webApps ++
  entries "ssh_servers:"
    "  # No SSH relays seeded; add entries here keyed by friendly name."
    (sshServer domain) config.answers.seedApps.sshRelays ++
  if config.requiresExtraDnsContainer then
    entries "application_relays:"
      "  # No RDP relays seeded; add entries here keyed by friendly name."
      (applicationRelay domain) config.answers.seedApps.rdpRelays ++
    lines ["", "subdomains: []"]
  else []

/-- The text of the file. -/
def generate (config : DngConfig) : Str := render (template config)

end DngPreflight.ScriptedConfig
