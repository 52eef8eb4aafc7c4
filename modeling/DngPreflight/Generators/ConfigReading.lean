import DngPreflight.Generators.ScriptedConfig
import DngPreflight.Yaml.Block

set_option relaxedAutoImplicit false
set_option autoImplicit false

/-!
# Reading the scripted configuration

The scripted configuration read as a document, section by section. The values of the plan have to
stand on lines, and the names of the stubs have to be read as keys, of whatever type.

## Main definitions

* `DngPreflight.ScriptedConfig.Wellformed` — the plans whose file is read.
* `DngPreflight.ScriptedConfig.NamesKept` — names that are read as themselves, and told apart.
* `DngPreflight.ScriptedConfig.document` — the document of a plan.

## Main results

* `DngPreflight.ScriptedConfig.keys_eq_iff` — the keys of a section are the names of its stubs
  exactly when the names are kept.
* `DngPreflight.ScriptedConfig.exists_load_generate` — the document that the file is read as.
-/

namespace DngPreflight.ScriptedConfig

open Text Codec Net Yaml

/-! ## Names -/

/-- The name stands on one line, is read as a key of whatever type, and leaves the quotes around
the external hostname alone. -/
structure Readable (name : Str) : Prop where
  chars : name.all isLineChar = true
  key : (keyOf name).isSome = true
  quotes : (paired name).isSome = true

/-- The names are read as texts, which are told apart. -/
structure NamesKept (stubs : List AppStub) : Prop where
  text : ∀ stub ∈ stubs, keyOf stub.name = some (.str stub.name)
  nodup : (stubs.map AppStub.name).Nodup

/-- The entries have the keys that the names of the stubs are read as. -/
def KeyedBy (stubs : List AppStub) (es : List (Scalar × Tree)) : Prop :=
  es.map (fun e => some e.1) = stubs.map fun stub => keyOf stub.name

/-- **The keys of a section** are the names of its stubs exactly when the names are kept. -/
lemma keys_eq_iff {stubs : List AppStub} {es : List (Scalar × Tree)} (h : KeyedBy stubs es) :
    (Dict.ofList es).entries.map Prod.fst = stubs.map (fun stub => .str stub.name) ↔
      NamesKept stubs := by
  have hsome : (es.map Prod.fst).map some = stubs.map fun stub => keyOf stub.name := by
    rw [← show es.map (fun e => some e.1) = _ from h, List.map_map]
    rfl
  have htexts : stubs.map (fun stub => Scalar.str stub.name) =
      (stubs.map AppStub.name).map Scalar.str := by
    rw [List.map_map]
    rfl
  constructor
  · intro hkeys
    have hlength : (Dict.ofList es).entries.length = es.length := by
      have hl := congrArg List.length hkeys
      have hl' := congrArg List.length h
      simp only [List.length_map] at hl hl'
      rw [hl, hl']
    have hnodup := Dict.nodup_of_length_ofList hlength
    rw [Dict.ofList_of_nodup hnodup] at hkeys
    rw [hkeys, List.map_map] at hsome
    rw [hkeys] at hnodup
    refine ⟨fun stub hstub => (List.map_inj_left.mp hsome stub hstub).symm, ?_⟩
    rw [htexts] at hnodup
    exact hnodup.of_map
  · intro hkept
    have hkeys : es.map Prod.fst = stubs.map fun stub => .str stub.name := by
      refine List.map_injective_iff.mpr (Option.some_injective _) ?_
      rw [hsome, List.map_map]
      exact List.map_congr_left hkept.text
    have hnodup : (es.map Prod.fst).Nodup := by
      rw [hkeys, htexts]
      exact hkept.nodup.map fun _ _ he => Scalar.str.inj he
    rw [Dict.ofList_of_nodup hnodup, hkeys]

/-! ## Entries -/

section Parts

variable (f : ℕ)

set_option maxRecDepth 4000 in
/-- The second factor is one key. -/
lemma exists_reads_duo2fa :
    ∃ t, Reads (readEntry (block (f + 2)) 4) 4 duo2fa [(field "duo_2fa", t)] :=
  ⟨_, _, .cons rfl rfl (.cons rfl rfl (.cons rfl rfl (.cons rfl rfl (.nil 4)))), rfl⟩

set_option maxRecDepth 4000 in
/-- The certificate of an entry is one key. -/
lemma exists_reads_externalSslCert :
    ∃ t, Reads (readEntry (block (f + 2)) 4) 4 externalSslCert [(field "external_ssl_cert", t)] :=
  ⟨_, _, .cons rfl rfl (.cons rfl rfl (.cons rfl rfl (.cons rfl rfl (.cons rfl rfl
    (.cons rfl rfl (.nil 4)))))), rfl⟩

set_option maxRecDepth 4000 in
/-- The section of the identity provider is one key. -/
lemma exists_reads_primaryAuth :
    ∃ t, Reads (readEntry (block (f + 4)) 0) 0 primaryAuth [(field "primary_auth", t)] :=
  ⟨_, _, .cons rfl rfl (.cons rfl rfl (.cons rfl rfl (.cons rfl rfl (.cons rfl rfl
    (.cons rfl rfl (.cons rfl rfl (.nil 0))))))), rfl⟩

set_option maxRecDepth 4000 in
/-- The servers of an SSH relay are one key. -/
lemma exists_reads_sshServers :
    ∃ t, Reads (readEntry (block (f + 2)) 4) 4 (lines [
      "    internal_servers:",
      "      - host_pattern: '<<internal hostname pattern, * supported>>'",
      "        ports: '22'"]) [(field "internal_servers", t)] :=
  ⟨_, _, .cons rfl rfl (.cons rfl rfl (.cons rfl rfl (.nil 4))), rfl⟩

set_option maxRecDepth 4000 in
/-- The servers of an RDP relay are one key. -/
lemma exists_reads_rdpServers :
    ∃ t, Reads (readEntry (block (f + 2)) 4) 4 (lines [
      "    internal_servers:",
      "      - host_pattern: '<<internal hostname pattern, * supported>>'"])
      [(field "internal_servers", t)] :=
  ⟨_, _, .cons rfl rfl (.cons rfl rfl (.nil 4)), rfl⟩

/-- The fixed fields of a web application. -/
lemma exists_reads_internal :
    ∃ es, Reads (readEntry (block (f + 2)) 4) 4 (lines [
      "    internal_hostname: '<<set: internal FQDN or IP>>'",
      "    internal_port: 443",
      "    internal_use_ssl: true"]) es :=
  ⟨_, _, .cons rfl rfl (.cons rfl rfl (.cons rfl rfl (.nil 4))), rfl⟩

/-- The type of an RDP relay. -/
lemma exists_reads_applicationType :
    ∃ e, Reads (readEntry (block (f + 2)) 4) 4 (lines ["    application_type: 'rdp'"]) [e] :=
  ⟨_, _, .cons rfl rfl (.nil 4), rfl⟩

/-- A name whose quotes come in pairs leaves the external hostname one value. -/
lemma exists_reads_externalHostname (nested : List Line → Option Tree) {name domain : Str}
    (hname : name.all isLineChar = true) (hdomain : domain.all isLineChar = true)
    (hpaired : (paired name).isSome = true) (hpaired' : (paired domain).isSome = true) :
    ∃ e, Reads (readEntry nested 4) 4 (externalHostname name domain) [e] := by
  obtain ⟨v, hv⟩ := Option.isSome_iff_exists.mp hpaired
  obtain ⟨w, hw⟩ := Option.isSome_iff_exists.mp hpaired'
  have hlabel : "    external_hostname: '<<set: e.g. ".toList = List.replicate 4 ' ' ++
      ("external_hostname".toList ++ ':' :: ' ' :: '\'' :: "<<set: e.g. ".toList) := by
    repeat rw [toList_eq rfl]
    rfl
  have hend : ">>'".toList = ">>".toList ++ ['\''] := rfl
  have hrender : render ["    external_hostname: '<<set: e.g. ", .value name, ".", .value domain,
      ">>'"] = List.replicate 4 ' ' ++ ("external_hostname".toList ++ ':' :: ' ' :: '\'' ::
        ("<<set: e.g. ".toList ++ (name ++ (".".toList ++ (domain ++ ">>".toList))) ++
          ['\''])) := by
    simp only [render_cons, render_nil, Piece.text, hlabel, hend, List.append_assoc,
      List.cons_append, List.append_nil]
  have hchars : ("<<set: e.g. ".toList ++ (name ++ (".".toList ++ (domain ++
      ">>".toList)))).all isLineChar = true := by
    simp only [List.all_append, hname, hdomain]
    rfl
  have hvalue : paired ("<<set: e.g. ".toList ++ (name ++ (".".toList ++ (domain ++
      ">>".toList)))) = some ("<<set: e.g. ".toList ++ (v ++ (".".toList ++ (w ++
      ">>".toList)))) :=
    paired_append rfl (paired_append hv (paired_append rfl (paired_append hw rfl)))
  exact ⟨_, reads_quoted (by decide) hrender rfl rfl (by decide) rfl hchars hvalue⟩

end Parts

variable {f : ℕ} {domain : Str}

/-- The key of an entry is read together with the fields of the entry. -/
lemma exists_reads_entry {name : Str} (hname : Readable name) {body : Template}
    {e : Scalar × Tree} {es : List (Scalar × Tree)}
    (hbody : Reads (readEntry (block (f + 2)) 4) 4 body (e :: es)) :
    ∃ b : Scalar × Tree, some b.1 = keyOf name ∧
      Reads (readEntry (block (f + 3)) 2) 2 (entryKey name ++ body) [b] := by
  obtain ⟨key, hkey⟩ := Option.isSome_iff_exists.mp hname.key
  obtain ⟨ls, hls, hread⟩ := hbody
  have hrender : render ["  ", .value name, ":"] = List.replicate 2 ' ' ++ (name ++ [':']) := by
    simp [Piece.text]
  exact ⟨(key, _), hkey.symm, reads_nested (hasLines_keyOf (by decide) hrender hname.chars hkey) rfl
    (readKey_of_keyOf hkey) hls (by decide) (block_of_entries hread)⟩

section Stubs

variable (hdomain : domain.all isLineChar = true) (hquotes : (paired domain).isSome = true)

include hdomain hquotes

/-- A web application is an entry. -/
lemma exists_reads_webApplication {app : AppStub} (happ : Readable app.name) :
    ∃ b : Scalar × Tree, some b.1 = keyOf app.name ∧
      Reads (readEntry (block (f + 3)) 2) 2 (webApplication domain app) [b] := by
  obtain ⟨_, hhostname⟩ := exists_reads_externalHostname (block (f + 2)) happ.chars hdomain
    happ.quotes hquotes
  obtain ⟨_, hinternal⟩ := exists_reads_internal f
  obtain ⟨_, hcert⟩ := exists_reads_externalSslCert f
  obtain ⟨_, hfactor⟩ := exists_reads_duo2fa f
  have hbody := ((hhostname.append hinternal).append hcert).append hfactor
  simp only [webApplication, List.append_assoc] at hbody ⊢
  exact exists_reads_entry happ hbody

/-- An SSH relay is an entry. -/
lemma exists_reads_sshServer {relay : AppStub} (hrelay : Readable relay.name) :
    ∃ b : Scalar × Tree, some b.1 = keyOf relay.name ∧
      Reads (readEntry (block (f + 3)) 2) 2 (sshServer domain relay) [b] := by
  obtain ⟨_, hhostname⟩ := exists_reads_externalHostname (block (f + 2)) hrelay.chars
    hdomain hrelay.quotes hquotes
  obtain ⟨_, hcert⟩ := exists_reads_externalSslCert f
  obtain ⟨_, hservers⟩ := exists_reads_sshServers f
  obtain ⟨_, hfactor⟩ := exists_reads_duo2fa f
  have hbody := ((hhostname.append hcert).append hservers).append hfactor
  simp only [sshServer, List.append_assoc] at hbody ⊢
  exact exists_reads_entry hrelay hbody

/-- An RDP relay is an entry. -/
lemma exists_reads_applicationRelay {relay : AppStub} (hrelay : Readable relay.name) :
    ∃ b : Scalar × Tree, some b.1 = keyOf relay.name ∧
      Reads (readEntry (block (f + 3)) 2) 2 (applicationRelay domain relay) [b] := by
  obtain ⟨_, htype⟩ := exists_reads_applicationType f
  obtain ⟨_, hhostname⟩ := exists_reads_externalHostname (block (f + 2)) hrelay.chars
    hdomain hrelay.quotes hquotes
  obtain ⟨_, hcert⟩ := exists_reads_externalSslCert f
  obtain ⟨_, hservers⟩ := exists_reads_rdpServers f
  obtain ⟨_, hfactor⟩ := exists_reads_duo2fa f
  have hbody := (((htype.append hhostname).append hcert).append hservers).append hfactor
  simp only [applicationRelay, List.append_assoc] at hbody ⊢
  exact exists_reads_entry hrelay hbody

end Stubs

/-- **A section** is a key with the entries of its stubs. -/
lemma exists_reads_entries {key missing : String} {s c : Str} {x : Scalar}
    {entry : AppStub → Template} {stubs : List AppStub} (hkey : key.toByteArray = s.utf8Encode)
    (hs : isLine s = true) (hindent : (Line.ofText s).indent = 0)
    (hread : readKey (Line.ofText s).rest = some (x, []))
    (hmissing : missing.toByteArray = c.utf8Encode)
    (hc : (isLine c && decide (2 ≤ (Line.ofText c).indent)) = true)
    (hskipped : (Line.ofText c).isSkipped = true)
    (hentry : ∀ stub ∈ stubs, ∃ b : Scalar × Tree, some b.1 = keyOf stub.name ∧
      Reads (readEntry (block (f + 3)) 2) 2 (entry stub) [b]) :
    ∃ es, KeyedBy stubs es ∧
      Reads (readEntry (block (f + 4)) 0) 0 (entries key missing entry stubs)
        [(x, .map (Dict.ofList es).entries)] := by
  have hempty : HasLines 0 (lines [""]) [Line.ofText []] := .cons rfl rfl (.nil 0)
  have hblank : Reads (readEntry (block (f + 4)) 0) 0 (line [""]) [] := ⟨_, hempty, rfl⟩
  have hkey : HasLines 0 (lines [key]) [Line.ofText s] := .cons hkey (by simp [hs]) (.nil 0)
  rw [entries, lines_cons, List.append_assoc, List.append_assoc]
  by_cases hstubs : stubs = []
  · subst hstubs
    refine ⟨[], rfl, hblank.append ?_⟩
    rw [if_pos rfl, List.flatMap_nil, List.append_nil]
    have hbody : HasLines 2 (lines [missing, "  \x7b\x7d"])
        [Line.ofText c, ⟨2, ['\x7b', '\x7d']⟩] :=
      .cons hmissing hc (.cons (s := [' ', ' ', '\x7b', '\x7d']) rfl rfl (.nil 2))
    have hnone : block (f + 4) [Line.ofText c, ⟨2, ['\x7b', '\x7d']⟩] = some (.map []) := by
      rw [block, List.dropWhile_cons_of_pos hskipped]
      rfl
    exact reads_nested hkey hindent hread hbody (by decide) hnone
  · obtain ⟨es, hes, ls, hls, hall⟩ := Reads.exists_flatMap hentry
    refine ⟨es, hes, hblank.append ?_⟩
    rw [if_neg hstubs, List.nil_append]
    cases es with
    | nil => exact absurd (List.map_eq_nil_iff.mp hes.symm) hstubs
    | cons e es => exact reads_nested hkey hindent hread hls (by decide) (block_of_entries hall)

section Sections

variable {stubs : List AppStub} (hdomain : domain.all isLineChar = true)
  (hstubs : ∀ stub ∈ stubs, Readable stub.name ∧ (paired domain).isSome = true)

include hdomain hstubs

/-- The section of the web applications. -/
lemma exists_reads_webApplications : ∃ es, KeyedBy stubs es ∧
    Reads (readEntry (block (f + 4)) 0) 0 (entries "web_applications:"
      "  # No web applications seeded; add entries here keyed by friendly name."
      (webApplication domain) stubs)
      [(field "web_applications", .map (Dict.ofList es).entries)] :=
  exists_reads_entries rfl rfl rfl rfl rfl rfl rfl fun stub hstub =>
    exists_reads_webApplication hdomain (hstubs stub hstub).2 (hstubs stub hstub).1

/-- The section of the SSH relays. -/
lemma exists_reads_sshSection : ∃ es, KeyedBy stubs es ∧
    Reads (readEntry (block (f + 4)) 0) 0 (entries "ssh_servers:"
      "  # No SSH relays seeded; add entries here keyed by friendly name."
      (sshServer domain) stubs)
      [(field "ssh_servers", .map (Dict.ofList es).entries)] :=
  exists_reads_entries rfl rfl rfl rfl rfl rfl rfl fun stub hstub =>
    exists_reads_sshServer hdomain (hstubs stub hstub).2 (hstubs stub hstub).1

/-- The section of the RDP relays. -/
lemma exists_reads_rdpSection : ∃ es, KeyedBy stubs es ∧
    Reads (readEntry (block (f + 4)) 0) 0 (entries "application_relays:"
      "  # No RDP relays seeded; add entries here keyed by friendly name."
      (applicationRelay domain) stubs)
      [(field "application_relays", .map (Dict.ofList es).entries)] :=
  exists_reads_entries rfl rfl rfl rfl rfl rfl rfl fun stub hstub =>
    exists_reads_applicationRelay hdomain (hstubs stub hstub).2 (hstubs stub hstub).1

end Sections

/-! ## Paths -/

/-- The characters of a path. It may have several lines. -/
def isPathChar (c : Char) : Bool := isLineChar c || c = '\n'

/-- A character of a line is one of a path. -/
lemma isPathChar_of_isLineChar {c : Char} (h : isLineChar c = true) : isPathChar c = true := by
  rw [isPathChar, h, Bool.true_or]

/-- The lines of a path are made of characters of lines. -/
lemma all_of_mem_splitlines {s l : Str} (hs : s.all isPathChar = true) (hl : l ∈ splitlines s) :
    l.all isLineChar = true := by
  refine List.all_eq_true.mpr fun c hc => ?_
  rcases mem_of_mem_splitlinesFrom hl hc with h | ⟨h, hno⟩
  · cases h
  · rcases Bool.or_eq_true_iff.mp (List.all_eq_true.mp hs c h) with h | h
    · exact h
    · rw [of_decide_eq_true h] at hno
      cases hno

/-- The lines of an indented text. -/
lemma hasLines_pemBlock {n : ℕ} (hn : 0 < n) {s : Str}
    (hs : ∀ l ∈ splitlines s, l.all isLineChar = true) (hne : s ≠ []) :
    HasLines n (line [.value (pemBlock n s)])
      ((splitlines s).map fun l => Line.ofText (List.replicate n ' ' ++ l)) := by
  refine ⟨(splitlines s).map (List.replicate n ' ' ++ ·), ?_, ?_, by rw [List.map_map]; rfl⟩
  · rw [flatMap_eq_join (by simpa using splitlines_ne_nil hne)]
    simp [line, pemBlock, Piece.text]
  · intro t ht
    obtain ⟨l, hl, rfl⟩ := List.mem_map.mp ht
    refine ⟨isLine_replicate hn (hs l hl), ?_⟩
    rw [Line.ofText_replicate]
    exact Nat.le_add_right _ _

/-- **An indented text** under a key is read back. -/
lemma readLiteral_pemBlock {c : Char} {s : Str} (hspace : c ≠ ' ') (hc : isLineBreak c = false)
    (hs : (c :: s).all isPathChar = true) (hlast : (c :: s).getLast? ≠ some '\n') (n : ℕ) :
    readLiteral ((splitlines (c :: s)).map fun l => Line.ofText (List.replicate n ' ' ++ l)) =
      some (c :: s ++ "\n".toList) := by
  have hjoin : join "\n" (splitlines (c :: s)) = c :: s := by
    refine join_splitlines (fun d hd hbreak => ?_) hlast
    rcases Bool.or_eq_true_iff.mp (List.all_eq_true.mp hs d hd) with h | h
    · rw [isLineBreak_of_isLineChar h] at hbreak
      cases hbreak
    · exact of_decide_eq_true h
  obtain ⟨x, ls, hls, -, -⟩ := exists_splitlinesFrom (List.cons_ne_nil c []) s
  have hlines : splitlines (c :: s) = (c :: x) :: ls := by
    rw [splitlines, splitlinesFrom_cons_of_not hc]
    exact hls
  rw [hlines] at hjoin ⊢
  rw [readLiteral_map hspace (getLast?_ne_of_join (List.cons_ne_nil c x) (hjoin ▸ hlast)), hjoin]

/-- The marker for the contents of a file. -/
def pasted (path : Str) : Str := "<<paste contents of ".toList ++ path ++ ">>".toList

/-- The characters of the marker. -/
lemma all_pasted {p : Char → Bool} (hp : ∀ c, isLineChar c = true → p c = true) {path : Str}
    (hpath : path.all p = true) : (pasted path).all p = true := by
  have hstart : "<<paste contents of ".toList.all isLineChar = true := by
    rw [toList_eq (s := "<<paste contents of ") rfl]
    rfl
  have hend : ">>".toList.all isLineChar = true := rfl
  unfold pasted
  simp only [List.all_append, Bool.and_eq_true]
  exact ⟨⟨List.all_eq_true.mpr fun c hc => hp c (List.all_eq_true.mp hstart c hc), hpath⟩,
    List.all_eq_true.mpr fun c hc => hp c (List.all_eq_true.mp hend c hc)⟩

/-- The last character of the marker. -/
lemma getLast?_pasted (path : Str) : (pasted path).getLast? = some '>' := by
  have hend : pasted path = "<<paste contents of ".toList ++ path ++ ['>'] ++ ['>'] := by
    unfold pasted
    simp only [List.append_assoc]
    rfl
  rw [hend, List.getLast?_concat]

/-- The value of a key with the marker under it. -/
def pastedEntry (key : String) (path : Str) : Scalar × Tree :=
  (field key, .scalar (.str (pasted path ++ "\n".toList)))

/-- The marker under a key is read back. -/
lemma reads_pasteContents {nested : List Line → Option Tree} {text key : String} {s path : Str}
    (ht : text.toByteArray = s.utf8Encode)
    (hs : (isLine s && decide (4 ≤ (Line.ofText s).indent)) = true)
    (hindent : (Line.ofText s).indent = 4)
    (hkey : readKey (Line.ofText s).rest = some (field key, ['|']))
    (hpath : path.all isPathChar = true) :
    Reads (readEntry nested 4) 4 (lines [text] ++ line [.value (pasteContents "" path)])
      [pastedEntry key path] := by
  have hcons : pasted path = '<' :: ("<paste contents of ".toList ++ path ++ ">>".toList) := rfl
  have hpaste : pasteContents "" path = pemBlock 6 (pasted path) := rfl
  have hchars := all_pasted (fun _ => isPathChar_of_isLineChar) hpath
  have hlast : (pasted path).getLast? ≠ some '\n' := by
    rw [getLast?_pasted]
    decide
  have hne : pasted path ≠ [] := by
    rw [hcons]
    exact List.cons_ne_nil _ _
  have hbody := hasLines_pemBlock (n := 6) (by decide) (fun _ => all_of_mem_splitlines hchars) hne
  rw [hcons] at hchars hlast
  have hread := readLiteral_pemBlock (by decide) rfl hchars hlast 6
  rw [hpaste]
  exact reads_literal (.cons ht hs (.nil 4)) hindent hkey hbody (by decide) hread

/-- The entries of the certificate section of the file-based strategies. -/
def ownEntries (certPath keyPath : Str) : List (Scalar × Tree) :=
  [(field "source", .scalar (field "own")), pastedEntry "cert" certPath, pastedEntry "key" keyPath]

/-- The keys of the certificate section are distinct. -/
lemma nodup_ownEntries (certPath keyPath : Str) :
    ((ownEntries certPath keyPath).map Prod.fst).Nodup :=
  nodup_field (l := ["source", "cert", "key"]) (by decide)

/-- A certificate and a key are read. -/
lemma reads_ownCert (nested : List Line → Option Tree) {certPath keyPath : Str}
    (hcert : certPath.all isPathChar = true) (hkey : keyPath.all isPathChar = true) :
    Reads (readEntry nested 4) 4 (ownCert certPath keyPath) (ownEntries certPath keyPath) := by
  have hsource : HasLines 4 (lines ["    source: own"]) [Line.ofText "    source: own".toList] :=
    .cons rfl rfl (.nil 4)
  have hown : Reads (readEntry nested 4) 4 (lines ["    source: own"])
    [(field "source", .scalar (field "own"))] := .single hsource rfl rfl rfl
  have hcertBlock : Reads (readEntry nested 4) 4
      (lines ["    cert: |"] ++ line [.value (pasteContents "" certPath)])
      [pastedEntry "cert" certPath] := reads_pasteContents rfl rfl rfl rfl hcert
  have hkeyBlock : Reads (readEntry nested 4) 4
      (lines ["    key: |"] ++ line [.value (pasteContents "" keyPath)])
      [pastedEntry "key" keyPath] := reads_pasteContents rfl rfl rfl rfl hkey
  have h := (hown.append hcertBlock).append hkeyBlock
  rw [ownCert]
  simp only [lines_cons, lines_nil, List.append_assoc, List.append_nil] at h ⊢
  exact h

/-- The comment about the chain of an internal CA. -/
def chainNote (path : Str) : Str := "#   ".toList ++ pasted path

/-- The line is blank or a comment, of characters of lines. -/
def isNoteLine (l : Str) : Bool := l.all isLineChar && (Line.ofText l).isSkipped

/-- The comment about the chain of an internal CA is not read, if all of its lines are comments. -/
lemma reads_chain {nested : List Line → Option Tree} {path : Str}
    (hpath : (splitlines (chainNote path)).all isNoteLine = true) :
    Reads (readEntry nested 4) 4
      (lines ["    # chain: |"] ++ line [.value (pasteContents "#   " path)]) [] := by
  have hcons : chainNote path = '#' :: ("   ".toList ++ pasted path) := rfl
  have hpaste : pasteContents "#   " path = pemBlock 6 (chainNote path) := by
    unfold pasteContents chainNote pasted
    simp only [List.append_assoc]
  have hnote : ∀ l ∈ splitlines (chainNote path),
      l.all isLineChar = true ∧ (Line.ofText l).isSkipped = true := fun l hl =>
    Bool.and_eq_true_iff.mp (List.all_eq_true.mp hpath l hl)
  have hne : chainNote path ≠ [] := by
    rw [hcons]
    exact List.cons_ne_nil _ _
  have hbody := hasLines_pemBlock (n := 6) (by decide) (fun l hl => (hnote l hl).1) hne
  have hheader : HasLines 4 (lines ["    # chain: |"]) [Line.ofText "    # chain: |".toList] :=
    .cons rfl rfl (.nil 4)
  rw [hpaste]
  refine .comment hheader rfl rfl hbody (by decide) (List.all_eq_true.mpr fun m hm => ?_)
  obtain ⟨l, hl, rfl⟩ := List.mem_map.mp hm
  rw [Line.ofText_replicate]
  exact (hnote l hl).2

/-- The entries of the certificate section. -/
def sslCertEntries : TlsStrategy → List (Scalar × Tree)
  | .letsEncryptDns01 _ => [(field "source", .scalar (field "letsencrypt"))]
  | .existingBundle b => ownEntries b.certPath b.keyPath
  | .internalCa c => ownEntries c.certPath c.keyPath

/-- The paths of a TLS strategy are made of characters of lines, and that of the chain stays in its
comment. -/
def PathsReadable : TlsStrategy → Prop
  | .letsEncryptDns01 _ => True
  | .existingBundle b => b.certPath.all isPathChar = true ∧ b.keyPath.all isPathChar = true
  | .internalCa c => c.certPath.all isPathChar = true ∧ c.keyPath.all isPathChar = true ∧
      (splitlines (chainNote c.chainPath)).all isNoteLine = true

/-- **The certificate section** is read. -/
lemma reads_sslCert {config : DngConfig} (h : PathsReadable config.answers.tlsStrategy) :
    Reads (readEntry (block (f + 3)) 2) 2 (sslCert config)
      [(field "ssl_cert", .map (sslCertEntries config.answers.tlsStrategy))] := by
  have hheader : HasLines 2 (lines ["  ssl_cert:"]) [Line.ofText "  ssl_cert:".toList] :=
    .cons rfl rfl (.nil 2)
  have hsection : ∀ {body : Template} {e : Scalar × Tree} {es : List (Scalar × Tree)},
      ((e :: es).map Prod.fst).Nodup → Reads (readEntry (block (f + 2)) 4) 4 body (e :: es) →
      Reads (readEntry (block (f + 3)) 2) 2 (lines ["  ssl_cert:"] ++ body)
        [(field "ssl_cert", .map (e :: es))] := by
    rintro body e es hnodup ⟨ls, hls, hread⟩
    refine reads_nested hheader rfl rfl hls (by decide) ?_
    rw [block_of_entries hread, Dict.ofList_of_nodup hnodup]
  unfold sslCert
  cases htls : config.answers.tlsStrategy with
  | letsEncryptDns01 l =>
    have hline : HasLines 4 (lines ["    source: letsencrypt"])
        [Line.ofText "    source: letsencrypt".toList] := .cons rfl rfl (.nil 4)
    exact hsection (nodup_field (l := ["source"]) (by decide)) (.single hline rfl rfl rfl)
  | existingBundle b =>
    rw [htls] at h
    exact hsection (nodup_ownEntries _ _) (reads_ownCert _ h.1 h.2)
  | internalCa c =>
    rw [htls] at h
    have hbody := (reads_ownCert (block (f + 2)) h.1 h.2.1).append (reads_chain h.2.2)
    rw [← List.append_assoc] at hbody
    exact hsection (nodup_ownEntries _ _) hbody

/-! ## The gateway section -/

/-- The addresses of the load balancer. If there are none, the key has no value. -/
def balancerEntries : Option LoadBalancerConfig → List (Scalar × Tree)
  | none => []
  | some lb =>
    [(field "load_balancer_cidrs_ips",
      if lb.trustedProxies = [] then .scalar .null
      else .seq (lb.trustedProxies.map fun cidr => .scalar (.str cidr.str)))]

/-- A quoted text is a text of characters of a line between quotes. -/
lemma yamlStr_eq (s : Str) : yamlStr s = '\'' :: (replaceChar '\'' "''" s ++ ['\'']) := rfl

/-- Doubling the quotes of a text leaves it on one line. -/
lemma all_replaceChar {s : Str} (h : s.all isLineChar = true) :
    (replaceChar '\'' "''" s).all isLineChar = true := by
  refine List.all_eq_true.mpr fun c hc => ?_
  obtain ⟨d, hd, hcd⟩ := List.mem_flatMap.mp hc
  split_ifs at hcd with hquote
  · obtain rfl : c = '\'' := by simpa using hcd
    rfl
  · rw [List.mem_singleton.mp hcd]
    exact List.all_eq_true.mp h d hd

/-- An address of the load balancer is read as an item. -/
lemma reads_cidr {cidr : IpNetwork} (h : cidr.str.all isLineChar = true) :
    Reads (readItem (block (f + 1)) 4) 4 (line ["    - ", .value (yamlStr cidr.str)])
      [.scalar (.str cidr.str)] := by
  refine reads_item (by decide) ?_ (all_replaceChar h) (paired_replaceChar cidr.str)
  simp [Piece.text, yamlStr_eq]

/-- **The addresses of the load balancer** are read in order. -/
lemma reads_balancer {lb : LoadBalancerConfig}
    (h : ∀ cidr ∈ lb.trustedProxies, cidr.str.all isLineChar = true) :
    Reads (readEntry (block (f + 3)) 2) 2 (lines ["  load_balancer_cidrs_ips:"] ++
      lb.trustedProxies.flatMap fun cidr => line ["    - ", .value (yamlStr cidr.str)])
      (balancerEntries (some lb)) := by
  have hheader : HasLines 2 (lines ["  load_balancer_cidrs_ips:"])
      [Line.ofText "  load_balancer_cidrs_ips:".toList] := .cons rfl rfl (.nil 2)
  have hkey : readKey (Line.ofText "  load_balancer_cidrs_ips:".toList).rest =
      some (field "load_balancer_cidrs_ips", []) := rfl
  rw [balancerEntries]
  split_ifs with hnone
  · rw [hnone]
    exact reads_nested hheader rfl hkey (.nil 4) (by decide) rfl
  · have hcidrs : ∀ cidr ∈ lb.trustedProxies, ∃ x, id x = Tree.scalar (.str cidr.str) ∧
        Reads (readItem (block (f + 2)) 4) 4 (line ["    - ", .value (yamlStr cidr.str)]) [x] :=
      fun cidr hcidr => ⟨_, rfl, reads_cidr (h cidr hcidr)⟩
    obtain ⟨xs, hxs, ls, hls, hread⟩ := Reads.exists_flatMap hcidrs
    rw [List.map_id] at hxs
    rw [hxs] at hread
    refine reads_nested hheader rfl hkey hls (by decide) ?_
    cases hproxies : lb.trustedProxies with
    | nil => exact absurd hproxies hnone
    | cons cidr cidrs =>
      rw [hproxies] at hread
      exact block_of_items hread

/-- The characters of a domain are characters of the hostname. -/
lemma all_domainFromFqdn {p : Char → Bool} {fqdn : Str} (h : fqdn.all p = true) :
    (domainFromFqdn fqdn).all p = true := by
  refine List.all_eq_true.mpr fun c hc => List.all_eq_true.mp h c ?_
  rw [domainFromFqdn] at hc
  split_ifs at hc
  · exact (List.dropWhile_sublist _).subset (List.mem_of_mem_drop hc)
  · exact hc

/-- The comments at the head of the file, and the blank line after them. -/
def notes (config : DngConfig) : Template :=
  lines ["# Auto-generated by dng-preflight. Review before applying."] ++
  line ["# DNG minimum version: ", .value config.dngVersionMinimum] ++
  line ["# Scope: ", .value config.answers.deploymentScope.text] ++
  line ["# IdP: ", .value config.answers.idp.text] ++
  lines [""]

/-- The version stays in its comment: further lines of it are blank or comments. -/
structure VersionReadable (version : Str) : Prop where
  chars : (version.all fun c => isLineChar c || isBreak c) = true
  comment : skipFrom ['#'] (version ++ ['\n']) = []

/-- The comments at the head of the file are left out. -/
lemma skipFrom_notes {config : DngConfig} (h : VersionReadable config.dngVersionMinimum)
    (s : Str) : skipFrom [] (render (notes config) ++ s) = skipFrom [] s := by
  have hnote : ∀ {label : String} {l v : Str} (r : Str),
      label.toByteArray = ('#' :: l).utf8Encode → l.all isLineChar = true →
      EndsComment (v ++ ['\n']) →
      skipFrom [] (render (line [label, .value v]) ++ r) = skipFrom [] r := by
    intro label l v r hlabel hl hv
    have hrender : render (line [label, .value v]) ++ r = '#' :: ((l ++ v) ++ '\n' :: r) := by
      simp [line, Piece.text, toList_eq hlabel]
    rw [hrender]
    refine skipFrom_comment ?_ r
    rw [List.append_assoc]
    exact hv.append hl
  have hfirst : ∀ r, skipFrom [] (render (lines
      ["# Auto-generated by dng-preflight. Review before applying."]) ++ r) = skipFrom [] r := by
    intro r
    have htext : render (lines ["# Auto-generated by dng-preflight. Review before applying."]) ++
        r = render (line ["# Auto-generated by dng-preflight. Review before applying.",
          .value []]) ++ r := by
      simp [line, lines_cons, lines_nil, Piece.text]
    rw [htext]
    exact hnote r rfl rfl .feed
  have hscope : config.answers.deploymentScope.text.all isLineChar = true := by
    cases config.answers.deploymentScope <;> rfl
  have hidp : config.answers.idp.text.all isLineChar = true := by
    cases config.answers.idp <;> rfl
  simp only [notes, render_append, List.append_assoc]
  rw [hfirst, hnote _ rfl rfl (endsComment_iff.mpr h.comment),
    hnote _ rfl rfl (EndsComment.feed.append hscope),
    hnote _ rfl rfl (EndsComment.feed.append hidp)]
  rfl

/-- The lines of the gateway section in front of the load balancer. -/
def gatewayFields (config : DngConfig) : Template :=
  line ["  hostname: ", .value (yamlStr config.answers.publicHostname)] ++
  lines [
    "  enable_ui: true",
    "  password: '<<SET BEFORE FIRST RUN — min 8 chars, mixed case, digit, symbol>>'"] ++
  line ["  admin_email: ",
    .value (yamlStr ("admin@".toList ++ domainFromFqdn config.answers.publicHostname))]

/-- The entries of the gateway section, with the given values of the fixed lines. -/
def gatewayEntries (config : DngConfig) (ui password : Tree) : List (Scalar × Tree) :=
  [(field "hostname", .scalar (.str config.answers.publicHostname)), (field "enable_ui", ui),
    (field "password", password),
    (field "admin_email",
      .scalar (.str ("admin@".toList ++ domainFromFqdn config.answers.publicHostname)))] ++
  balancerEntries config.answers.loadBalancer ++
  [(field "ssl_cert", .map (sslCertEntries config.answers.tlsStrategy))]

/-- The keys of the gateway section are distinct. -/
lemma nodup_gatewayEntries (config : DngConfig) (ui password : Tree) :
    ((gatewayEntries config ui password).map Prod.fst).Nodup := by
  unfold gatewayEntries
  cases config.answers.loadBalancer with
  | none =>
    exact nodup_field (l := ["hostname", "enable_ui", "password", "admin_email", "ssl_cert"])
      (by decide)
  | some lb =>
    exact nodup_field (l := ["hostname", "enable_ui", "password", "admin_email",
      "load_balancer_cidrs_ips", "ssl_cert"]) (by decide)

/-- The lines in front of the load balancer are read. -/
lemma exists_reads_gatewayFields {config : DngConfig} (nested : List Line → Option Tree)
    (hhostname : config.answers.publicHostname.all isLineChar = true) :
    ∃ ui password, Reads (readEntry nested 2) 2 (gatewayFields config)
      [(field "hostname", .scalar (.str config.answers.publicHostname)), (field "enable_ui", ui),
        (field "password", password),
        (field "admin_email",
          .scalar (.str ("admin@".toList ++ domainFromFqdn config.answers.publicHostname)))] := by
  have hhost : Reads (readEntry nested 2) 2
      (line ["  hostname: ", .value (yamlStr config.answers.publicHostname)])
      [(field "hostname", .scalar (.str config.answers.publicHostname))] := by
    refine reads_quoted (k := "hostname".toList) (by decide) ?_ rfl rfl (by decide) rfl
      (all_replaceChar hhostname) (paired_replaceChar _)
    simp [Piece.text, yamlStr_eq]
  have hemail : Reads (readEntry nested 2) 2
      (line ["  admin_email: ", .value (yamlStr ("admin@".toList ++
        domainFromFqdn config.answers.publicHostname))])
      [(field "admin_email", .scalar (.str ("admin@".toList ++
        domainFromFqdn config.answers.publicHostname)))] := by
    have hchars : ("admin@".toList ++
        domainFromFqdn config.answers.publicHostname).all isLineChar = true := by
      rw [List.all_append, all_domainFromFqdn hhostname]
      rfl
    refine reads_quoted (k := "admin_email".toList) (by decide) ?_ rfl rfl (by decide) rfl
      (all_replaceChar hchars) (paired_replaceChar _)
    simp [Piece.text, yamlStr_eq]
  obtain ⟨ui, password, hfixed⟩ : ∃ ui password, Reads (readEntry nested 2) 2
      (lines ["  enable_ui: true",
        "  password: '<<SET BEFORE FIRST RUN — min 8 chars, mixed case, digit, symbol>>'"])
      [(field "enable_ui", ui), (field "password", password)] :=
    ⟨_, _, _, .cons rfl rfl (.cons rfl rfl (.nil 2)), rfl⟩
  exact ⟨ui, password, (hhost.append hfixed).append hemail⟩

/-- The parts of the gateway section. -/
lemma exists_gateway_eq {config : DngConfig}
    (hproxies : ∀ lb, config.answers.loadBalancer = some lb →
      ∀ cidr ∈ lb.trustedProxies, cidr.str.all isLineChar = true) :
    ∃ balancer, gateway config =
        notes config ++ (lines ["network_gateway:"] ++ (gatewayFields config ++ balancer)) ∧
      Reads (readEntry (block (f + 3)) 2) 2 balancer
        (balancerEntries config.answers.loadBalancer) := by
  have hsplit : lines ["", "network_gateway:"] = lines [""] ++ lines ["network_gateway:"] := by
    simp only [lines_cons, lines_nil, List.append_nil]
  unfold gateway notes gatewayFields
  rw [hsplit]
  cases hlb : config.answers.loadBalancer with
  | none => exact ⟨[], by simp only [List.append_assoc, List.append_nil], .nil⟩
  | some lb => exact ⟨_, by simp only [List.append_assoc], reads_balancer (hproxies lb hlb)⟩

/-- **The gateway section** is read, with the certificate section in it. -/
lemma exists_reads_gateway {config : DngConfig}
    (hhostname : config.answers.publicHostname.all isLineChar = true)
    (hproxies : ∀ lb, config.answers.loadBalancer = some lb →
      ∀ cidr ∈ lb.trustedProxies, cidr.str.all isLineChar = true)
    (hpaths : PathsReadable config.answers.tlsStrategy) :
    ∃ body ui password, gateway config ++ sslCert config =
        notes config ++ (lines ["network_gateway:"] ++ body) ∧
      Reads (readEntry (block (f + 4)) 0) 0 (lines ["network_gateway:"] ++ body)
        [(field "network_gateway", .map (gatewayEntries config ui password))] := by
  have hheader : HasLines 0 (lines ["network_gateway:"])
      [Line.ofText "network_gateway:".toList] := .cons rfl rfl (.nil 0)
  have hkey : readKey (Line.ofText "network_gateway:".toList).rest =
      some (field "network_gateway", []) := rfl
  obtain ⟨ui, password, hfields⟩ := exists_reads_gatewayFields (block (f + 3)) hhostname
  obtain ⟨balancer, hgateway, hbalancer⟩ := exists_gateway_eq (f := f) hproxies
  obtain ⟨ls, hls, hread⟩ := (hfields.append hbalancer).append (reads_sslCert hpaths)
  have hvalue : block (f + 4) ls = some (.map (gatewayEntries config ui password)) := by
    rw [← Dict.ofList_of_nodup (nodup_gatewayEntries config ui password)]
    exact block_of_entries hread
  refine ⟨_, ui, password, ?_, reads_nested hheader rfl hkey hls (by decide) hvalue⟩
  rw [hgateway]
  simp only [List.append_assoc]

/-! ## The document -/

/-- The stubs that have an entry in the file. -/
def emittedStubs (config : DngConfig) : List AppStub :=
  config.answers.seedApps.webApps ++ config.answers.seedApps.sshRelays ++
    if config.requiresExtraDnsContainer then config.answers.seedApps.rdpRelays else []

/-- The values of the plan stand on one line each, the paths of the certificate and of its key and
comments apart, and the names and the domain leave the quotes around them alone. -/
structure Wellformed (config : DngConfig) : Prop where
  version : VersionReadable config.dngVersionMinimum
  hostname : config.answers.publicHostname.all isLineChar = true
  proxies : ∀ lb, config.answers.loadBalancer = some lb →
    ∀ cidr ∈ lb.trustedProxies, cidr.str.all isLineChar = true
  paths : PathsReadable config.answers.tlsStrategy
  names : ∀ stub ∈ emittedStubs config, Readable stub.name
  quotes : emittedStubs config ≠ [] →
    (paired (domainFromFqdn config.answers.publicHostname)).isSome = true

/-- The entries of the document, with the given values of the fixed lines and of the stubs. -/
def documentEntries (config : DngConfig) (ui password primary : Tree)
    (apps servers relays : List (Scalar × Tree)) : List (Scalar × Tree) :=
  [(field "network_gateway", .map (gatewayEntries config ui password)),
    (field "primary_auth", primary),
    (field "web_applications", .map (Dict.ofList apps).entries),
    (field "ssh_servers", .map (Dict.ofList servers).entries)] ++
  if config.requiresExtraDnsContainer then
    [(field "application_relays", .map (Dict.ofList relays).entries),
      (field "subdomains", .seq [])]
  else []

/-- The document. -/
def document (config : DngConfig) (ui password primary : Tree)
    (apps servers relays : List (Scalar × Tree)) : Tree :=
  .map (documentEntries config ui password primary apps servers relays)

/-- The keys of the document are distinct. -/
lemma nodup_documentEntries (config : DngConfig) (ui password primary : Tree)
    (apps servers relays : List (Scalar × Tree)) :
    ((documentEntries config ui password primary apps servers relays).map Prod.fst).Nodup := by
  unfold documentEntries
  split_ifs
  · exact nodup_field (l := ["network_gateway", "primary_auth", "web_applications", "ssh_servers",
      "application_relays", "subdomains"]) (by decide)
  · exact nodup_field (l := ["network_gateway", "primary_auth", "web_applications",
      "ssh_servers"]) (by decide)

/-- The list of subdomains is read. -/
lemma reads_subdomains (f : ℕ) :
    Reads (readEntry (block (f + 4)) 0) 0 (lines ["", "subdomains: []"])
      [(field "subdomains", .seq [])] := by
  have hlines : HasLines 0 (lines ["", "subdomains: []"])
      [Line.ofText [], Line.ofText "subdomains: []".toList] :=
    .cons rfl rfl (.cons rfl rfl (.nil 0))
  exact ⟨_, hlines, rfl⟩

/-- **The whole file** is read, what follows its comments beginning with the gateway section. -/
lemma exists_reads_template {config : DngConfig} (h : Wellformed config) :
    ∃ body ui password primary apps servers relays,
      KeyedBy config.answers.seedApps.webApps apps ∧
      KeyedBy config.answers.seedApps.sshRelays servers ∧
      (config.requiresExtraDnsContainer = true →
        KeyedBy config.answers.seedApps.rdpRelays relays) ∧
      template config = notes config ++ (lines ["network_gateway:"] ++ body) ∧
      Reads (readEntry (block (f + 4)) 0) 0 (lines ["network_gateway:"] ++ body)
        (documentEntries config ui password primary apps servers relays) := by
  have hdomain := all_domainFromFqdn h.hostname
  have hstubs : ∀ stub ∈ emittedStubs config, Readable stub.name ∧
      (paired (domainFromFqdn config.answers.publicHostname)).isSome = true :=
    fun stub hstub => ⟨h.names stub hstub, h.quotes (List.ne_nil_of_mem hstub)⟩
  obtain ⟨body, ui, password, heq, hgateway⟩ :=
    exists_reads_gateway (f := f) h.hostname h.proxies h.paths
  obtain ⟨primary, hprimary⟩ := exists_reads_primaryAuth f
  have hweb : ∀ stub ∈ config.answers.seedApps.webApps, stub ∈ emittedStubs config := by
    simp +contextual [emittedStubs]
  have hssh : ∀ stub ∈ config.answers.seedApps.sshRelays, stub ∈ emittedStubs config := by
    simp +contextual [emittedStubs]
  obtain ⟨apps, hkeys, happs⟩ := exists_reads_webApplications (f := f) hdomain
    fun stub hstub => hstubs stub (hweb stub hstub)
  obtain ⟨servers, hkeys', hservers⟩ := exists_reads_sshSection (f := f) hdomain
    fun stub hstub => hstubs stub (hssh stub hstub)
  have hhead := ((hgateway.append hprimary).append happs).append hservers
  by_cases hflag : config.requiresExtraDnsContainer = true
  · have hrdp : ∀ stub ∈ config.answers.seedApps.rdpRelays, stub ∈ emittedStubs config := by
      simp +contextual [emittedStubs, hflag]
    obtain ⟨relays, hkeys'', hrelays⟩ := exists_reads_rdpSection (f := f) hdomain
      fun stub hstub => hstubs stub (hrdp stub hstub)
    have hall := hhead.append (hrelays.append (reads_subdomains f))
    simp only [List.append_assoc] at hall
    refine ⟨?body, ui, password, primary, apps, servers, relays, hkeys, hkeys', fun _ => hkeys'',
      ?text, ?value⟩
    case value =>
      rw [documentEntries, if_pos hflag]
      exact hall
    case text => simp only [template, if_pos hflag, heq, List.append_assoc]
  · have hall := hhead.append .nil
    simp only [List.append_assoc] at hall
    refine ⟨?rest, ui, password, primary, apps, servers, [], hkeys, hkeys',
      fun h => absurd h hflag, ?text, ?value⟩
    case value =>
      rw [documentEntries, if_neg hflag]
      exact hall
    case text => simp only [template, if_neg hflag, heq, List.append_assoc]

/-- What the text of the file begins with. -/
lemma exists_generate_eq (config : DngConfig) :
    ∃ u, generate config = '#' :: ' ' :: 'A' :: 'u' :: u := by
  unfold generate template gateway
  simp only [List.append_assoc, lines_cons, line]
  rw [toList_eq (s := "# Auto-generated by dng-preflight. Review before applying.") rfl]
  exact ⟨_, rfl⟩

/-- The characters of the comments at the head of the file. -/
lemma all_notes {config : DngConfig} (h : VersionReadable config.dngVersionMinimum) :
    ((render (notes config)).all fun c => isLineChar c || isBreak c) = true := by
  have hscope : (config.answers.deploymentScope.text.all fun c => isLineChar c || isBreak c) =
      true := by
    cases config.answers.deploymentScope <;> rfl
  have hidp : (config.answers.idp.text.all fun c => isLineChar c || isBreak c) = true := by
    cases config.answers.idp <;> rfl
  simp only [notes, lines_cons, lines_nil, line, render_append, render_cons, render_nil, Piece.text,
    List.all_append, h.chars, hscope, hidp, List.append_nil]
  repeat rw [toList_eq rfl]
  rfl

/-- **The document of a plan** whose values stand on lines. -/
lemma exists_load_generate {config : DngConfig} (h : Wellformed config) :
    ∃ ui password primary apps servers relays,
      KeyedBy config.answers.seedApps.webApps apps ∧
      KeyedBy config.answers.seedApps.sshRelays servers ∧
      (config.requiresExtraDnsContainer = true →
        KeyedBy config.answers.seedApps.rdpRelays relays) ∧
      load (generate config) = some (document config ui password primary apps servers relays) := by
  obtain ⟨u, hu⟩ := exists_generate_eq config
  have hlength : (generate config).length = u.length + 4 := by rw [hu]; rfl
  obtain ⟨body, ui, password, primary, apps, servers, relays, happs, hservers, hrelays, htemplate,
    hread⟩ := exists_reads_template (f := u.length) h
  refine ⟨ui, password, primary, apps, servers, relays, happs, hservers, hrelays, ?_⟩
  have hhead : (generate config).head? ≠ some '\uFEFF' := by
    rw [hu]
    exact fun he => absurd (Option.some.inj he) (by decide)
  have hgenerate : generate config =
      render (notes config) ++ render (lines ["network_gateway:"] ++ body) := by
    rw [generate, htemplate, render_append]
  have hskip : skipFrom [] (render (notes config) ++ render (lines ["network_gateway:"] ++ body)) =
      render (lines ["network_gateway:"] ++ body) := by
    rw [skipFrom_notes h.version]
    rfl
  rw [← hlength, hgenerate] at hread
  rw [hgenerate] at hhead
  rw [hgenerate, document, ← Dict.ofList_of_nodup (nodup_documentEntries config ui password primary
    apps servers relays)]
  exact load_render hread hskip hhead (all_notes h.version)

end DngPreflight.ScriptedConfig
