import DngPreflight.Discovery.Machine
import DngPreflight.Shell.Assignments
import DngPreflight.Text.Trim

set_option relaxedAutoImplicit false
set_option autoImplicit false

/-!
# The release file

`/etc/os-release` is a file of assignments for shells. The system probe reads it line by line and
drops the quotes at both ends of a value; the installer sources it.

## Main definitions

* `DngPreflight.Discovery.environment` — the variables after a shell has sourced a text.
* `DngPreflight.Discovery.unquoted` — what the probe takes for the value.
* `DngPreflight.Discovery.Faithful` — values without escapes, and without single quotes at the ends
  of double quotes.

## Main results

* `DngPreflight.Discovery.unquoted_eq_iff` — which values the probe reads as the shell does.
* `DngPreflight.Discovery.sameVariables_iff` — which files the probe reads as the shell does.
-/

namespace DngPreflight.Discovery

open Text Codec Shell

/-! ## The last assignment -/

/-- What was written at a key last is found there. -/
lemma get?_ofList {κ ν : Type} [DecidableEq κ] (l : List (κ × ν)) (k : κ) :
    (Dict.ofList l).get? k = l.reverse.lookup k := by
  induction l using List.reverseRecOn with
  | nil => rfl
  | append_singleton l e ih =>
    have hlast : Dict.ofList (l ++ [e]) = (Dict.ofList l).insert e.1 e.2 := by
      rw [Dict.ofList, List.foldl_append]
      rfl
    rw [hlast, Dict.get?_insert, ih, List.reverse_append, List.reverse_singleton,
      List.singleton_append]
    by_cases h : k = e.1
    · rw [if_pos h, h, List.lookup_cons_self]
    · rw [if_neg h, List.lookup_cons, beq_false_of_ne h]

/-- What is found at a key was written there. -/
lemma mem_of_get?_ofList {κ ν : Type} [DecidableEq κ] {l : List (κ × ν)} {k : κ} {v : ν}
    (h : (Dict.ofList l).get? k = some v) : (k, v) ∈ l := by
  rw [get?_ofList] at h
  obtain ⟨pre, post, heq, -⟩ := List.lookup_eq_some_iff.mp h
  rw [← List.mem_reverse, heq]
  simp

/-- Looking up values that a function was applied to. -/
lemma get?_ofList_map {κ ν μ : Type} [DecidableEq κ] (f : ν → μ) (l : List (κ × ν)) (k : κ) :
    (Dict.ofList (l.map fun e => (e.1, f e.2))).get? k = ((Dict.ofList l).get? k).map f := by
  rw [get?_ofList, get?_ofList, ← List.map_reverse]
  induction l.reverse with
  | nil => rfl
  | cons e l ih =>
    rw [List.map_cons, List.lookup_cons, List.lookup_cons, ih]
    cases k == e.1 <;> rfl

/-- The variable of a line, and how its value is written. -/
def written : Line → Option (Str × Quotes × Str)
  | .assign name value quotes => some (name, quotes, value)
  | _ => none

/-- How the last value of a variable is written. -/
def lastWritten (ls : List Line) (key : Str) : Option (Quotes × Str) :=
  (Dict.ofList (ls.filterMap written)).get? key

/-- What is written last is written on some line. -/
lemma canWrite_of_lastWritten {ls : List Line} (h : ∀ l ∈ ls, l.Valid) {key v : Str} {q : Quotes}
    (hlast : lastWritten ls key = some (q, v)) : q.CanWrite v := by
  obtain ⟨l, hl, hwritten⟩ := List.mem_filterMap.mp (mem_of_get?_ofList hlast)
  cases l with
  | blank => cases hwritten
  | comment text => cases hwritten
  | assign name value quotes =>
    cases hwritten
    exact (h _ hl).2.1

/-- The variables after a shell has sourced a text; none if it is no file of assignments. -/
def environment (text : Str) : Dict Str Str := Dict.ofList ((sourced text).getD [])

/-- The shell has the last value of each variable. -/
lemma get?_environment {ls : List Line} (h : ∀ l ∈ ls, l.Valid) (key : Str) :
    (environment (writeLines ls)).get? key = (lastWritten ls key).map Prod.snd := by
  have hassigned : ls.filterMap Line.assigned =
      (ls.filterMap written).map fun e => (e.1, e.2.2) := by
    rw [List.map_filterMap]
    exact List.filterMap_congr fun l _ => by cases l <;> rfl
  rw [environment, sourced_writeLines h, Option.getD_some, hassigned, get?_ofList_map Prod.snd,
    lastWritten]

/-! ## What the probe reads -/

/-- What the probe takes for a value. -/
def unquoted (q : Quotes) (v : Str) : Str :=
  trim (fun c => decide (c = '\'')) (trim (fun c => decide (c = '"')) (q.write v))

/-- A plain character is no white space. -/
lemma isSpace_of_isPlainChar {c : Char} (h : isPlainChar c = true) : isSpace c = false := by
  refine decide_eq_false fun hmem => ?_
  rw [← Char.ofNat_toNat c] at h
  revert h
  revert hmem
  generalize c.toNat = n
  revert n
  decide

/-- A character of a name is no white space. -/
lemma isSpace_of_isNameChar {c : Char} (h : isNameChar c = true) : isSpace c = false :=
  isSpace_of_isPlainChar (isPlainChar_of_isNameChar h)

/-- A written value does not begin or end with whitespace. -/
lemma strip_write {q : Quotes} {v : Str} (h : q.CanWrite v) : strip (q.write v) = q.write v := by
  refine trim_eq_self_iff.mpr ?_
  cases q with
  | none =>
    exact ⟨fun c hc => isSpace_of_isPlainChar (h c (List.mem_of_head? hc)),
      fun c hc => isSpace_of_isPlainChar (h c (List.mem_of_getLast? hc))⟩
  | single =>
    refine ⟨fun c hc => ?_, fun c hc => ?_⟩
    · rw [← Option.some.inj hc]
      rfl
    · rw [Quotes.write, ← List.cons_append, List.getLast?_concat] at hc
      rw [← Option.some.inj hc]
      rfl
  | double =>
    refine ⟨fun c hc => ?_, fun c hc => ?_⟩
    · rw [← Option.some.inj hc]
      rfl
    · rw [Quotes.write, ← List.cons_append, List.getLast?_concat] at hc
      rw [← Option.some.inj hc]
      rfl

/-- An assignment is a line without whitespace at its ends. -/
lemma strip_assignment {name : Str} (hname : isName name = true) {q : Quotes} {v : Str}
    (h : q.CanWrite v) : strip (name ++ '=' :: q.write v) = name ++ '=' :: q.write v := by
  refine trim_eq_self_iff.mpr ⟨fun c hc => ?_, fun c hc => ?_⟩
  · obtain ⟨d, ds, hds⟩ := List.exists_cons_of_ne_nil (ne_nil_of_isName hname)
    rw [hds] at hc
    rw [← Option.some.inj hc]
    exact isSpace_of_isNameChar (isNameChar_of_isName hname d (by simp [hds]))
  · have hvalue := (trim_eq_self_iff.mp (strip_write h)).2
    cases hlast : (q.write v).getLast? with
    | none =>
      rw [List.getLast?_eq_none_iff.mp hlast, List.getLast?_concat] at hc
      rw [← Option.some.inj hc]
      rfl
    | some d =>
      refine hvalue c ?_
      have hne : q.write v ≠ [] := by
        intro hnil
        rw [hnil] at hlast
        cases hlast
      rwa [List.append_cons, List.getLast?_append_of_ne_nil _ hne] at hc

/-- **What the probe reads of a line.** -/
lemma osReleaseEntry_write {l : Line} (h : l.Valid) :
    osReleaseEntry l.write = (written l).map fun e => (e.1, unquoted e.2.1 e.2.2) := by
  cases l with
  | blank => rfl
  | comment text =>
    obtain ⟨u, v, hstrip, hu, -⟩ := exists_strip_of_append_cons
      (show '#' :: text = [] ++ '#' :: text from rfl) (by decide)
    have hline : strip ('#' :: text) = '#' :: v := by
      rw [hstrip, List.suffix_nil.mp hu, List.nil_append]
    have hcomment : startsWith ('#' :: v) "#" = true := startsWith_singleton.mpr rfl
    rw [Line.write, osReleaseEntry, hline]
    exact if_pos (.inr (.inl hcomment))
  | assign name value quotes =>
    obtain ⟨hname, hcan, -⟩ := h
    have hchars := isNameChar_of_isName hname
    have hne : ∀ c ∈ name, decide (c ≠ '=') = true := by
      intro c hc
      refine decide_eq_true ?_
      rintro rfl
      exact absurd (hchars _ hc) (by decide)
    have hcode : ¬ (name ++ '=' :: quotes.write value = [] ∨
        startsWith (name ++ '=' :: quotes.write value) "#" = true ∨
        '=' ∉ name ++ '=' :: quotes.write value) := by
      rintro (h | h | h)
      · simp at h
      · obtain ⟨d, ds, rfl⟩ := List.exists_cons_of_ne_nil (ne_nil_of_isName hname)
        obtain rfl : d = '#' := Option.some.inj (startsWith_singleton.mp h)
        exact absurd (hchars '#' List.mem_cons_self) (by decide)
      · simp at h
    have hparts : partition '=' (name ++ '=' :: quotes.write value) =
        (name, quotes.write value) := by
      rw [partition, List.takeWhile_append_of_pos hne, List.dropWhile_append_of_pos hne]
      simp
    have hstrip : strip name = name := by
      refine trim_eq_self_iff.mpr ⟨fun c hc => ?_, fun c hc => ?_⟩
      · exact isSpace_of_isNameChar (hchars c (List.mem_of_head? hc))
      · exact isSpace_of_isNameChar (hchars c (List.mem_of_getLast? hc))
    rw [Line.write, osReleaseEntry, strip_assignment hname hcan]
    simp only [if_neg hcode, hparts, hstrip, strip_write hcan]
    rfl

/-- A line that is written is one line. -/
lemma isLineBreak_write {l : Line} (h : l.Valid) : ∀ c ∈ l.write, isLineBreak c = false := by
  have hspace : ∀ c, isSpace c = false → isLineBreak c = false := by
    intro c hc
    by_contra hbreak
    rw [isSpace_of_isLineBreak (by simpa using hbreak)] at hc
    cases hc
  cases l with
  | blank => exact fun _ hc => (List.not_mem_nil hc).elim
  | comment text =>
    exact List.forall_mem_cons.mpr ⟨by decide, fun c hc => isLineBreak_of_isTextChar (h c hc)⟩
  | assign name value quotes =>
    obtain ⟨hname, hcan, htext⟩ := h
    have hvalue : ∀ c ∈ value, isLineBreak c = false := fun c hc =>
      isLineBreak_of_isTextChar (htext c hc)
    have hwrite : ∀ c ∈ quotes.write value, isLineBreak c = false := by
      cases quotes with
      | none => exact hvalue
      | single =>
        refine List.forall_mem_cons.mpr ⟨by decide, fun c hc => ?_⟩
        rcases List.mem_append.mp hc with hc | hc
        · exact hvalue c hc
        · rw [List.mem_singleton.mp hc]
          rfl
      | double =>
        refine List.forall_mem_cons.mpr ⟨by decide, fun c hc => ?_⟩
        rcases List.mem_append.mp hc with hc | hc
        · obtain ⟨d, hd, hescape⟩ := List.mem_flatMap.mp hc
          unfold escape at hescape
          split_ifs at hescape
          · rcases List.mem_cons.mp hescape with rfl | hescape
            · rfl
            · rw [List.mem_singleton.mp hescape]
              exact hvalue d hd
          · rw [List.mem_singleton.mp hescape]
            exact hvalue d hd
        · rw [List.mem_singleton.mp hc]
          rfl
    intro c hc
    rcases List.mem_append.mp hc with hc | hc
    · exact hspace c (isSpace_of_isNameChar (isNameChar_of_isName hname c hc))
    · rcases List.mem_cons.mp hc with rfl | hc
      · rfl
      · exact hwrite c hc

/-- **What the probe reads of a file.** -/
lemma get?_parseOsRelease {ls : List Line} (h : ∀ l ∈ ls, l.Valid) (key : Str) :
    (parseOsRelease (writeLines ls)).get? key =
      (lastWritten ls key).map fun e => unquoted e.1 e.2 := by
  have hlines : splitlines (writeLines ls) = ls.map Line.write := by
    have hflat : writeLines ls = (ls.map Line.write).flatMap (· ++ ['\n']) := by
      rw [List.flatMap_map]
      rfl
    rw [hflat]
    exact splitlines_flatMap (List.forall_mem_map.mpr fun l hl => isLineBreak_write (h l hl))
  have hentries : (ls.map Line.write).filterMap osReleaseEntry =
      (ls.filterMap written).map fun e => (e.1, unquoted e.2.1 e.2.2) := by
    rw [List.filterMap_map, List.map_filterMap]
    exact List.filterMap_congr fun l hl => osReleaseEntry_write (h l hl)
  rw [parseOsRelease, hlines, hentries,
    get?_ofList_map fun e : Quotes × Str => unquoted e.1 e.2, lastWritten]

/-! ## When the probe reads what the shell does -/

/-- In double quotes, nothing has to be escaped, and there are no single quotes at the ends. -/
def Faithful (q : Quotes) (v : Str) : Prop :=
  q = .double → (∀ c ∈ v, isSpecial c = false) ∧ v.head? ≠ some '\'' ∧ v.getLast? ≠ some '\''

/-- Being read faithfully is decided by the quotes and the value. -/
instance (q : Quotes) (v : Str) : Decidable (Faithful q v) :=
  haveI : Decidable (∀ c ∈ v, isSpecial c = false) := List.decidableBAll _ v
  inferInstanceAs (Decidable (q = .double →
    (∀ c ∈ v, isSpecial c = false) ∧ v.head? ≠ some '\'' ∧ v.getLast? ≠ some '\''))

/-- There is a backslash for each character that is escaped. -/
lemma count_escape (v : Str) :
    (v.flatMap escape).count '\\' = v.count '\\' + v.countP isSpecial := by
  induction v with
  | nil => rfl
  | cons c v ih =>
    rw [List.flatMap_cons, List.count_append, ih, escape, List.countP_cons, List.count_cons]
    split_ifs <;> simp_all <;> omega

/-- The single quotes at the ends are dropped. -/
lemma trim_single_iff {v : Str} : trim (fun c => decide (c = '\'')) v = v ↔
    v.head? ≠ some '\'' ∧ v.getLast? ≠ some '\'' := by
  rw [trim_eq_self_iff]
  refine and_congr ⟨fun h he => ?_, fun h c hc => ?_⟩ ⟨fun h he => ?_, fun h c hc => ?_⟩
  · exact absurd (h _ he) (by decide)
  · exact decide_eq_false fun he => h (he ▸ hc)
  · exact absurd (h _ he) (by decide)
  · exact decide_eq_false fun he => h (he ▸ hc)

/-- **Which values the probe reads** as the shell does.

**Proof sketch.** A value that has to be escaped has more backslashes when it is written, and these
are not dropped. -/
lemma unquoted_eq_iff {q : Quotes} {v : Str} (h : q.CanWrite v) :
    unquoted q v = v ↔ Faithful q v := by
  cases q with
  | none =>
    refine iff_of_true ?_ fun heq => Quotes.noConfusion heq
    have hplain : ∀ d : Char, isPlainChar d = false → d ∉ v := by
      intro d hd hmem
      rw [h d hmem] at hd
      cases hd
    have hdouble : trim (fun c => decide (c = '"')) v = v :=
      trim_eq_self_iff.mpr
        ⟨fun c hc => decide_eq_false fun he =>
            hplain '"' (by decide) (he ▸ List.mem_of_head? hc),
          fun c hc => decide_eq_false fun he =>
            hplain '"' (by decide) (he ▸ List.mem_of_getLast? hc)⟩
    rw [unquoted, Quotes.write, hdouble, trim_single_iff]
    exact ⟨fun he => hplain '\'' (by decide) (List.mem_of_head? he),
      fun he => hplain '\'' (by decide) (List.mem_of_getLast? he)⟩
  | single =>
    refine iff_of_true ?_ fun heq => Quotes.noConfusion heq
    have hdouble : trim (fun c => decide (c = '"')) (Quotes.write .single v) =
        Quotes.write .single v := by
      refine trim_eq_self_iff.mpr ⟨fun c hc => ?_, fun c hc => ?_⟩
      · rw [← Option.some.inj hc]
        rfl
      · rw [Quotes.write, ← List.cons_append, List.getLast?_concat] at hc
        rw [← Option.some.inj hc]
        rfl
    rw [unquoted, hdouble, Quotes.write]
    exact trim_quoted h
  | double =>
    by_cases hspecial : ∀ c ∈ v, isSpecial c = false
    · have hescape : v.flatMap escape = v := by
        rw [List.flatMap_congr fun c hc => show escape c = [c] by simp [escape, hspecial c hc]]
        simp
      have hquote : '"' ∉ v := fun hmem => absurd (hspecial _ hmem) (by decide)
      rw [unquoted, Quotes.write, hescape, trim_quoted hquote, trim_single_iff]
      exact ⟨fun hends _ => ⟨hspecial, hends⟩, fun hfaithful => (hfaithful rfl).2⟩
    · refine iff_of_false (fun heq => hspecial ?_) fun hfaithful => hspecial (hfaithful rfl).1
      have hcount : (unquoted .double v).count '\\' = v.count '\\' + v.countP isSpecial := by
        rw [unquoted, count_trim (by decide), count_trim (by decide), Quotes.write,
          List.count_cons, List.count_append, count_escape]
        simp
      rw [heq, Nat.left_eq_add] at hcount
      simpa using List.countP_eq_zero.mp hcount

/-- **Which files the probe reads** as the shell does: those in which the last value of each
variable is written so that the probe reads it. -/
theorem sameVariables_iff {ls : List Line} (h : ∀ l ∈ ls, l.Valid) :
    (∀ key, (parseOsRelease (writeLines ls)).get? key =
      (environment (writeLines ls)).get? key) ↔
    ∀ key q v, lastWritten ls key = some (q, v) → Faithful q v := by
  refine forall_congr' fun key => ?_
  rw [get?_parseOsRelease h, get?_environment h]
  cases hlast : lastWritten ls key with
  | none => simp
  | some e =>
    obtain ⟨q, v⟩ := e
    rw [Option.map_some, Option.map_some, Option.some_inj,
      unquoted_eq_iff (canWrite_of_lastWritten h hlast)]
    constructor
    · intro hfaithful q' v' he
      cases he
      exact hfaithful
    · exact fun hall => hall q v rfl

/-- A file that quotes a value twice. -/
def quotedTwice : List Line :=
  [.comment " release", .assign "NAME" "Ubuntu Linux" .double, .assign "ID" "'ubuntu'" .double]

/-- The lines of the example are valid. -/
lemma valid_quotedTwice : ∀ l ∈ quotedTwice, l.Valid := by
  refine List.forall_mem_cons.mpr ⟨?_, List.forall_mem_cons.mpr
    ⟨?_, List.forall_mem_cons.mpr ⟨?_, nofun⟩⟩⟩
  · exact forall_eq_of_all (s := " release") (by decide)
  · refine ⟨by decide, trivial, ?_⟩
    exact forall_eq_of_all (s := "Ubuntu Linux") (by decide)
  · refine ⟨by decide, trivial, ?_⟩
    exact forall_eq_of_all (s := "'ubuntu'") (by decide)

/-- The probe drops the quotes that the value has for the shell. -/
theorem sameVariables_iff_quotedTwice :
    ¬ ∀ key, (parseOsRelease (writeLines quotedTwice)).get? key =
      (environment (writeLines quotedTwice)).get? key := by
  intro h
  have hfaithful := (sameVariables_iff valid_quotedTwice).mp h "ID" .double "'ubuntu'" (by decide)
  exact absurd hfaithful (by decide)

end DngPreflight.Discovery
