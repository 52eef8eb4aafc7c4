import DngPreflight.Shell.Lexer
import DngPreflight.Validation.Overrides
import DngPreflight.Interview.Questions

set_option relaxedAutoImplicit false
set_option autoImplicit false

/-!
# The installer

The text of `install.sh`, and what a shell reads in it. The script is fixed but for the scope
and the version in two comment lines, and for two assignments whose values are substituted
between single quotes.

## Main definitions

* `DngPreflight.Installer.generate` — the text of the script.
* `DngPreflight.Installer.Fixed` — the script is the fixed one with data substituted.

## Main results

* `DngPreflight.Installer.fixed_iff` — when the installer of an accepted plan is the fixed
  script.
-/

namespace DngPreflight.Installer

open Text Codec Shell

/-! ## The script -/

/-- The script up to its two assignments. -/
def header (config : DngConfig) : Template :=
  lines ["#!/usr/bin/env bash",
    "# Auto-generated by dng-preflight. Idempotent installer for DNG."] ++
  line ["# Scope: ", .value config.answers.deploymentScope.text] ++
  line ["# DNG minimum version: ", .value config.dngVersionMinimum] ++
  lines ["", "set -euo pipefail", ""] ++
  line ["PUBLIC_HOSTNAME='", .value config.answers.publicHostname, "'"] ++
  line ["DNG_VERSION='", .value config.dngVersionMinimum, "'"]

/-- The lines that define the functions of the script. -/
def functionLines : List String :=
  [ "DNG_IMAGE=\"duosecurity/network-gateway:${DNG_VERSION}\"",
    "CONFIG_DIR='/etc/dng'",
    "",
    "log() \x7b",
    "    printf '[dng-preflight] %s\\n' \"$*\"",
    "\x7d",
    "",
    "die() \x7b",
    "    printf '[dng-preflight] FATAL: %s\\n' \"$*\" >&2",
    "    exit 1",
    "\x7d",
    "",
    "require_root() \x7b",
    "    if [[ \"${EUID}\" -ne 0 ]]; then",
    "        die 'must run as root (use sudo)'",
    "    fi",
    "\x7d",
    "",
    "detect_distro() \x7b",
    "    if [[ -r /etc/os-release ]]; then",
    "        # shellcheck disable=SC1091",
    "        . /etc/os-release",
    "        printf '%s' \"$\x7bID:-unknown\x7d\"",
    "    else",
    "        printf 'unknown'",
    "    fi",
    "\x7d",
    "",
    "install_docker_ubuntu() \x7b",
    "    log 'installing docker via apt'",
    "    apt-get update -y",
    "    apt-get install -y ca-certificates curl gnupg",
    "    install -m 0755 -d /etc/apt/keyrings",
    "    curl -fsSL https://download.docker.com/linux/ubuntu/gpg \\",
    "        | gpg --dearmor -o /etc/apt/keyrings/docker.gpg",
    "    chmod a+r /etc/apt/keyrings/docker.gpg",
    "    codename=$(. /etc/os-release && printf '%s' \"${VERSION_CODENAME}\")",
    "    printf \\",
    "        'deb [arch=%s signed-by=/etc/apt/keyrings/docker.gpg] " ++
      "https://download.docker.com/linux/ubuntu %s stable\\n' \\",
    "        \"$(dpkg --print-architecture)\" \"${codename}\" \\",
    "        > /etc/apt/sources.list.d/docker.list",
    "    apt-get update -y",
    "    apt-get install -y docker-ce docker-ce-cli containerd.io \\",
    "        docker-buildx-plugin docker-compose-plugin",
    "\x7d",
    "",
    "install_docker_rhel() \x7b",
    "    log 'installing docker via dnf'",
    "    dnf install -y dnf-plugins-core",
    "    dnf config-manager --add-repo https://download.docker.com/linux/rhel/docker-ce.repo",
    "    dnf install -y docker-ce docker-ce-cli containerd.io \\",
    "        docker-buildx-plugin docker-compose-plugin",
    "    systemctl enable --now docker",
    "\x7d",
    "",
    "ensure_docker() \x7b",
    "    if command -v docker >/dev/null 2>&1; then",
    "        log 'docker already installed'",
    "        return",
    "    fi",
    "    distro=$(detect_distro)",
    "    case \"${distro}\" in",
    "        ubuntu | debian)",
    "            install_docker_ubuntu",
    "            ;;",
    "        rhel | rocky | almalinux | centos)",
    "            install_docker_rhel",
    "            ;;",
    "        *)",
    "            die \"unsupported distro: ${distro}\"",
    "            ;;",
    "    esac",
    "\x7d",
    "",
    "verify_not_domain_joined() \x7b",
    "    if command -v realm >/dev/null 2>&1; then",
    "        if realm list 2>/dev/null | grep -q '^[^[:space:]]'; then",
    "            die 'host is domain-joined; DNG must run on a non-domain-joined host'",
    "        fi",
    "    fi",
    "    if [[ -r /etc/krb5.conf ]] && grep -Eq '^[[:space:]]*default_realm' " ++
      "/etc/krb5.conf; then",
    "        die '/etc/krb5.conf indicates a Kerberos realm; DNG must run on a " ++
      "non-domain-joined host'",
    "    fi",
    "\x7d",
    "",
    "verify_hostname_resolves() \x7b",
    "    if ! getent hosts \"${PUBLIC_HOSTNAME}\" >/dev/null 2>&1; then",
    "        die \"public hostname ${PUBLIC_HOSTNAME} does not resolve; publish DNS " ++
      "records first (see RUNBOOK Step 0)\"",
    "    fi",
    "\x7d",
    "",
    "prepare_config_dir() \x7b",
    "    log \"preparing ${CONFIG_DIR}\"",
    "    install -m 0750 -d \"${CONFIG_DIR}\"",
    "    if [[ -f scripted-config.yaml ]]; then",
    "        install -m 0640 scripted-config.yaml \"${CONFIG_DIR}/scripted-config.yaml\"",
    "    fi",
    "\x7d",
    "",
    "pull_dng_image() \x7b",
    "    log \"pulling ${DNG_IMAGE}\"",
    "    docker pull \"${DNG_IMAGE}\"",
    "\x7d",
    ""]

/-- The lines that define `main` and call it. -/
def mainLines : List String :=
  [ "main() \x7b",
    "    require_root",
    "    verify_not_domain_joined",
    "    verify_hostname_resolves",
    "    ensure_docker",
    "    prepare_config_dir",
    "    pull_dng_image",
    "    log 'install complete; next steps are in RUNBOOK.md'",
    "\x7d",
    "",
    "main \"$@\""]

/-- The rest of the script. -/
def body : Template := lines (functionLines ++ mainLines)

/-- The template of the script. -/
def template (config : DngConfig) : Template := header config ++ body

/-- The text of the script. -/
def generate (config : DngConfig) : Str := render (template config)

/-! ## What a shell reads -/

/-- The word of one assignment of a literal value. -/
def assignment (name : String) (v : Str) : Word :=
  bareWord (name.toList ++ ['=']) ++ literalWord v

/-- The tokens of the header: the shell options, and one assignment for each of the values. -/
def headerTokens (hostname version : Str) : List Token :=
  [.newline, .newline, .newline, .newline, .newline, .word (bareWord "set"),
    .word (bareWord "-euo"), .word (bareWord "pipefail"), .newline, .newline,
    .word (assignment "PUBLIC_HOSTNAME" hostname), .newline,
    .word (assignment "DNG_VERSION" version), .newline]

/-- The script is the fixed one with data substituted: no character of a substituted value is
shell syntax, the hostname and the version are each assigned by one assignment, and the rest of
the script is read as it is on its own. -/
structure Fixed (config : DngConfig) : Prop where
  inert : Inert .init (template config) = true
  tokens : Shell.run .init (generate config) = ((Shell.run .init (render body)).1,
    headerTokens config.answers.publicHostname config.dngVersionMinimum ++
      (Shell.run .init (render body)).2)

/-- A deployment scope is written without newline. -/
lemma newline_not_mem_scope (s : DeploymentScope) : '\n' ∉ s.text := by
  cases s <;> decide

section Lines

variable {v : Str}

/-- A scope of one line stays inside its comment. -/
lemma reads_scopeLine (hv : '\n' ∉ v) : Reads (line ["# Scope: ", .value v]) [.newline] :=
  reads_commentLine rfl hv

/-- A version of one line stays inside its comment. -/
lemma reads_versionLine (hv : '\n' ∉ v) :
    Reads (line ["# DNG minimum version: ", .value v]) [.newline] :=
  reads_commentLine rfl hv

/-- A hostname without single quotes is assigned as it is. -/
lemma reads_hostnameAssignment (hv : '\'' ∉ v) : Reads (line ["PUBLIC_HOSTNAME='", .value v, "'"])
    [.word (assignment "PUBLIC_HOSTNAME" v), .newline] :=
  reads_quotedLine rfl hv

/-- A version without single quotes is assigned as it is. -/
lemma reads_versionAssignment (hv : '\'' ∉ v) : Reads (line ["DNG_VERSION='", .value v, "'"])
    [.word (assignment "DNG_VERSION" v), .newline] :=
  reads_quotedLine rfl hv

end Lines

set_option maxRecDepth 4000 in
/-- The lines before the first value. -/
lemma reads_opening : Reads (lines ["#!/usr/bin/env bash",
    "# Auto-generated by dng-preflight. Idempotent installer for DNG."]) [.newline, .newline] := by
  simp only [lines_cons, lines_nil]
  repeat rw [toList_eq rfl]
  rfl

/-- The lines between the comments and the assignments. -/
lemma reads_options : Reads (lines ["", "set -euo pipefail", ""])
    [.newline, .word (bareWord "set"), .word (bareWord "-euo"), .word (bareWord "pipefail"),
      .newline, .newline] := by
  simp only [lines_cons, lines_nil]
  repeat rw [toList_eq rfl]
  rfl

variable {config : DngConfig}

/-- The header reads as its assignments, if no value breaks out of its line. -/
lemma reads_header (hhost : '\'' ∉ config.answers.publicHostname)
    (hquote : '\'' ∉ config.dngVersionMinimum) (hline : '\n' ∉ config.dngVersionMinimum) :
    Reads (header config)
      (headerTokens config.answers.publicHostname config.dngVersionMinimum) :=
  ((((reads_opening.append (reads_scopeLine (newline_not_mem_scope _))).append
    (reads_versionLine hline)).append reads_options).append
      (reads_hostnameAssignment hhost)).append (reads_versionAssignment hquote)

/-- The values of the header are data exactly when none of them breaks out of its line.

**Proof sketch.** Line by line: as long as the values before are data, a line begins where a
command may begin, so that its own value is data exactly when it has no newline (in a comment)
or no quote (in an assignment). -/
lemma inert_header_iff :
    Inert .init (header config) = true ↔ '\n' ∉ config.dngVersionMinimum ∧
      '\'' ∉ config.answers.publicHostname ∧ '\'' ∉ config.dngVersionMinimum := by
  have hscope := newline_not_mem_scope config.answers.deploymentScope
  unfold header
  simp only [List.append_assoc]
  rw [reads_opening.inert_append, inert_lines, Bool.true_and,
    (reads_scopeLine hscope).inert_append, (inert_commentLine rfl).mpr hscope, Bool.true_and]
  by_cases hline : '\n' ∈ config.dngVersionMinimum
  · -- the version breaks out of its comment
    have hfalse : ¬ Inert .init
        (line ["# DNG minimum version: ", .value config.dngVersionMinimum]) = true :=
      fun h => (inert_commentLine rfl).mp h hline
    rw [Shell.inert_append, Bool.eq_false_iff.mpr hfalse, Bool.false_and]
    simp [hline]
  rw [(reads_versionLine hline).inert_append, (inert_commentLine rfl).mpr hline, Bool.true_and,
    reads_options.inert_append, inert_lines, Bool.true_and]
  by_cases hhost : '\'' ∈ config.answers.publicHostname
  · -- the hostname closes its quotes
    have hfalse : ¬ Inert .init
        (line ["PUBLIC_HOSTNAME='", .value config.answers.publicHostname, "'"]) = true :=
      fun h => (inert_quotedLine rfl).mp h hhost
    rw [Shell.inert_append, Bool.eq_false_iff.mpr hfalse, Bool.false_and]
    simp [hhost]
  rw [(reads_hostnameAssignment hhost).inert_append, (inert_quotedLine rfl).mpr hhost,
    Bool.true_and, inert_quotedLine rfl]
  simp [hline, hhost]

/-- A version whose parts are integer literals has no quote. -/
lemma quote_not_mem_version {overrides : Finset Str}
    (h : validatePlan config overrides = .ok []) : '\'' ∉ config.dngVersionMinimum := by
  obtain ⟨t, ht⟩ := (returns_iff config).mp (Gate.returns_of_run h)
  intro hmem
  rcases mem_of_versionTuple ht hmem with hchar | hdot
  · exact absurd hchar (by decide)
  · exact absurd hdot (by decide)

/-- **When the installer is the fixed script**: for a plan without surviving hard stop, exactly
when the hostname has no single quote and the version no newline. -/
theorem fixed_iff {overrides : Finset Str} (hplan : validatePlan config overrides = .ok []) :
    Fixed config ↔
      '\'' ∉ config.answers.publicHostname ∧ '\n' ∉ config.dngVersionMinimum := by
  have hquote := quote_not_mem_version hplan
  constructor
  · intro h
    have hinert := h.inert
    rw [template, Shell.inert_append, Bool.and_eq_true] at hinert
    obtain ⟨hline, hhost, -⟩ := inert_header_iff.mp hinert.1
    exact ⟨hhost, hline⟩
  · rintro ⟨hhost, hline⟩
    have hreads := reads_header hhost hquote hline
    refine ⟨?_, ?_⟩
    · rw [template, hreads.inert_append, inert_header_iff.mpr ⟨hline, hhost, hquote⟩,
        Bool.true_and]
      exact inert_lines _ _
    · rw [generate, template, render_append, run_append_of hreads]

/-- The installer of the sample plan is the fixed script. -/
theorem fixed_iff_sample : Fixed (buildConfig (makeSnapshot {}) (makeAnswers {})) :=
  (@fixed_iff _ ∅ validatePlan_sample).mpr ⟨by decide, by decide⟩

/-- A plan whose hostname has a quote, and a command after it. -/
def quotedHostnamePlan : DngConfig :=
  buildConfig (makeSnapshot {}) (makeAnswers { publicHostname := "a';reboot;'.example.com" })

/-- The hostname is accepted and the plan passes, and the installer is not the fixed script. -/
theorem quotedHostname_not_fixed :
    hostnameAccepted quotedHostnamePlan.answers.publicHostname ∧
      validatePlan quotedHostnamePlan ∅ = .ok [] ∧ ¬ Fixed quotedHostnamePlan := by
  refine ⟨by decide, validatePlan_sample_hostname _, fun h => ?_⟩
  have hinert := h.inert
  rw [template, Shell.inert_append, Bool.and_eq_true] at hinert
  exact (inert_header_iff.mp hinert.1).2.1 (by decide)

end DngPreflight.Installer
