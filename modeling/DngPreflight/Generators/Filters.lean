import DngPreflight.Text.Basic

set_option relaxedAutoImplicit false
set_option autoImplicit false

/-!
# Filters of the templates

The helper functions that several templates use.

## Main definitions

* `DngPreflight.yamlStr`, `DngPreflight.pemBlock` — the filters.
* `DngPreflight.domainFromFqdn` — the domain of a hostname.
-/

namespace DngPreflight

open Text

/-- Single-quote a value for YAML, escaping embedded single quotes. -/
def yamlStr (value : Str) : Str := "'".toList ++ replaceChar '\'' "''" value ++ "'".toList

/-- Indent each line of a text. -/
def pemBlock (indent : ℕ) (content : Str) : Str :=
  join "\n" ((splitlines content).map fun l => List.replicate indent ' ' ++ l)

/-- Indented texts that have gone on differently in a line are different, whatever follows. -/
lemma pemBlock_append_ne (indent : ℕ) (s : Str) {c c' : Char} (hc : isLineBreak c = false)
    (hc' : isLineBreak c' = false) (hne : c ≠ c') (t t' u u' : Str) :
    pemBlock indent (s ++ c :: t) ++ u ≠ pemBlock indent (s ++ c' :: t') ++ u' := by
  obtain ⟨q, hq⟩ := exists_indented (List.replicate indent ' ') [] s
  obtain ⟨v, hv⟩ := hq c t hc
  obtain ⟨v', hv'⟩ := hq c' t' hc'
  intro h
  rw [pemBlock, splitlines, hv, pemBlock, splitlines, hv', List.append_assoc,
    List.append_assoc] at h
  exact hne (List.cons.inj (List.append_cancel_left h)).1

/-- Strip the leftmost label off `foo.bar.example.com`; a name without a dot is unchanged. -/
def domainFromFqdn (fqdn : Str) : Str :=
  if '.' ∈ fqdn then (fqdn.dropWhile (· ≠ '.')).drop 1 else fqdn

example : domainFromFqdn "foo.bar.example.com" = "bar.example.com".toList := by decide

/-- The leftmost label of a name. -/
def firstLabel (fqdn : Str) : Str := fqdn.takeWhile (· ≠ '.')

/-- A label has no dot. -/
lemma dot_notMem_firstLabel (fqdn : Str) : '.' ∉ firstLabel fqdn := by
  intro hdot
  have hne := List.mem_takeWhile_imp hdot
  simp at hne

/-- A name with a dot is its leftmost label, a dot and its domain. -/
lemma firstLabel_append_domain {fqdn : Str} (h : '.' ∈ fqdn) :
    firstLabel fqdn ++ '.' :: domainFromFqdn fqdn = fqdn := by
  obtain ⟨rest, hrest⟩ : ∃ rest, fqdn.dropWhile (· ≠ '.') = '.' :: rest := by
    induction fqdn with
    | nil => cases h
    | cons c fqdn ih =>
      by_cases hc : c = '.'
      · exact ⟨fqdn, by rw [List.dropWhile_cons_of_neg (by simp [hc]), hc]⟩
      · obtain ⟨rest, hrest⟩ := ih ((List.mem_cons.mp h).resolve_left (Ne.symm hc))
        exact ⟨rest, by rw [List.dropWhile_cons_of_pos (by simp [hc]), hrest]⟩
  rw [domainFromFqdn, if_pos h, hrest, List.drop_one, List.tail_cons, ← hrest, firstLabel]
  exact List.takeWhile_append_dropWhile

/-- A name that is split at a dot after a label without one. -/
lemma domainFromFqdn_append {label : Str} (h : '.' ∉ label) (domain : Str) :
    domainFromFqdn (label ++ '.' :: domain) = domain := by
  have hpos : ∀ c ∈ label, (decide (c ≠ '.')) = true := by
    intro c hc
    exact decide_eq_true fun he => h (he ▸ hc)
  rw [domainFromFqdn, if_pos (by simp), List.dropWhile_append_of_pos hpos]
  rfl

end DngPreflight
