import Mathlib.Data.Nat.Digits.Defs
import DngPreflight.Text.Numeral
import DngPreflight.Net.Network

set_option relaxedAutoImplicit false
set_option autoImplicit false

/-!
# The text of IP networks

Printing and parsing of networks as Python's `ipaddress` does it: dotted quads, and hextets
with the longest run of zeros compressed to `::`.

## Main definitions

* `Net.bigEndian` — the `k` digits of a number in base `b`, most significant first.
* `Net.quad`, `Net.parseQuad` — the text of an IPv4 address.
* `Net.compressHextets`, `Net.colonHex`, `Net.parseColonHex` — the text of an IPv6 address.
* `Net.IpNetwork.str`, `Net.IPv4Network.ofText`, `Net.IPv6Network.ofText` — the text of a
  network. Only the prefix-length form of the netmask is read.

## Main results

* `Net.parseQuad_quad`, `Net.parseColonHex_colonHex` — printed addresses read back.
* `Net.IPv4Network.ofText_str`, `Net.IPv6Network.ofText_str` — printed networks read back.
* `Net.IPv4Network.ofText_str6` — a printed IPv6 network is not an IPv4 network.
* `Net.isCidrChar_of_mem_str`, `Net.str_of_scope` — the characters of a printed network, without
  and with a scope.
-/

namespace Net

open Text

/-! ## Fixed-width digits -/

/-- The last `k` digits of `n` in base `b`, most significant digit first. -/
def bigEndian (b : ℕ) : ℕ → ℕ → List ℕ
  | 0, _ => []
  | k + 1, n => bigEndian b k (n / b) ++ [n % b]

/-- The digits of a number are as many as asked for. -/
@[simp] lemma length_bigEndian (b k n : ℕ) : (bigEndian b k n).length = k := by
  induction k generalizing n with
  | zero => rfl
  | succ k ih => simp [bigEndian, ih]

/-- Every digit is below the base. -/
lemma lt_of_mem_bigEndian {b k n d : ℕ} (hb : 0 < b) (h : d ∈ bigEndian b k n) : d < b := by
  induction k generalizing n with
  | zero => simp [bigEndian] at h
  | succ k ih =>
    rcases List.mem_append.mp h with h | h
    · exact ih h
    · rw [List.mem_singleton] at h
      rw [h]
      exact Nat.mod_lt _ hb

/-- The last `k` digits of a number have its remainder by `b ^ k` as their value.

**Proof sketch.** Induction on `k`: the digits of `n / b` followed by `n % b`. -/
lemma digitsValue_bigEndian_mod (b k n : ℕ) :
    digitsValue b (bigEndian b k n) = n % b ^ k := by
  induction k generalizing n with
  | zero => rw [bigEndian, pow_zero, Nat.mod_one, digitsValue, List.foldl_nil]
  | succ k ih =>
    rw [bigEndian, digitsValue_append_singleton, ih, pow_succ', Nat.mod_mul, Nat.add_comm]

/-- The digits of a number below `b ^ k` have that number as their value. -/
lemma digitsValue_bigEndian (b : ℕ) {k n : ℕ} (h : n < b ^ k) :
    digitsValue b (bigEndian b k n) = n := by
  rw [digitsValue_bigEndian_mod, Nat.mod_eq_of_lt h]

/-! ## Dotted quads -/

/-- The text of an IPv4 address. -/
def quad (a : ℕ) : Str := join "." ((bigEndian 256 4 a).map (numeral 10))

/-- A character is an ASCII decimal digit. -/
def isAsciiDigit (c : Char) : Bool := decide ('0' ≤ c ∧ c ≤ '9')

/-- One octet of a dotted quad: one to three ASCII digits without leading zeros. -/
def parseOctet (s : Str) : Option ℕ :=
  if s ≠ [] ∧ s.all isAsciiDigit ∧ s.length ≤ 3 ∧ (s = "0" ∨ s.head? ≠ some '0') then
    (numeralValue 10 decimalDigit? s).filter (· ≤ 255)
  else none

/-- Read a dotted quad of exactly four octets. -/
def parseQuad (s : Str) : Option ℕ :=
  if (s.splitOn '.').length = 4 then
    ((s.splitOn '.').mapM parseOctet).map (digitsValue 256)
  else none

/-- The numeral of an octet reads back. -/
lemma parseOctet_numeral : ∀ d < 256, parseOctet (numeral 10 d) = some d := by decide +kernel

/-- A separator that is not a digit does not occur in a numeral. -/
lemma not_mem_numeral {b n : ℕ} (hb : 1 < b) {c : Char} (hc : ∀ d < b, Nat.digitChar d ≠ c) :
    c ∉ numeral b n := by
  intro h
  obtain ⟨d, hd, hcd⟩ := exists_digit_of_mem_numeral hb h
  exact hc d hd hcd.symm

/-- Splitting joined parts at the separator gives the parts back. -/
lemma splitOn_join {c : Char} {parts : List Str} (h : ∀ p ∈ parts, c ∉ p) (hne : parts ≠ []) :
    (join [c] parts).splitOn c = parts :=
  List.splitOn_intercalate c h hne

/-- **Dotted quads read back.** -/
lemma parseQuad_quad {a : ℕ} (ha : a < 2 ^ 32) : parseQuad (quad a) = some a := by
  have hsplit : (quad a).splitOn '.' = (bigEndian 256 4 a).map (numeral 10) := by
    apply splitOn_join
    · intro p hp
      obtain ⟨d, -, rfl⟩ := List.mem_map.mp hp
      exact not_mem_numeral (by decide) (by decide)
    · simp [bigEndian]
  have hread : ((bigEndian 256 4 a).map (numeral 10)).mapM parseOctet = some (bigEndian 256 4 a) :=
    mapM_map_eq_some fun d hd => parseOctet_numeral d (lt_of_mem_bigEndian (by decide) hd)
  simp [parseQuad, hsplit, hread, digitsValue_bigEndian 256 (k := 4) (n := a) (by simpa using ha)]

/-! ## Hextets -/

/-- The scan of the hextets for the longest run of zeros. -/
structure ZeroRun where
  index : ℕ
  bestStart : ℕ
  bestLen : ℕ
  start : Option ℕ
  len : ℕ

/-- One hextet of the scan: a zero prolongs the current run, anything else ends it. -/
def ZeroRun.step (r : ZeroRun) (hextet : Str) : ZeroRun :=
  if hextet = "0" then
    if r.bestLen < r.len + 1 then
      ⟨r.index + 1, r.start.getD r.index, r.len + 1, some (r.start.getD r.index), r.len + 1⟩
    else
      ⟨r.index + 1, r.bestStart, r.bestLen, some (r.start.getD r.index), r.len + 1⟩
  else
    ⟨r.index + 1, r.bestStart, r.bestLen, none, 0⟩

/-- The scan of all hextets. -/
def ZeroRun.scan (hextets : List Str) : ZeroRun := hextets.foldl ZeroRun.step ⟨0, 0, 0, none, 0⟩

/-- The empty hextet written at an end of the address where the compressed run touches it. -/
def edge (side : List Str) : List Str := if side = [] then [[]] else []

/-- Replace the longest run of at least two zeros by an empty hextet. -/
def compressHextets (hextets : List Str) : List Str :=
  let r := ZeroRun.scan hextets
  if 1 < r.bestLen then
    let hi := hextets.take r.bestStart
    let lo := hextets.drop (r.bestStart + r.bestLen)
    edge hi ++ hi ++ [[]] ++ lo ++ edge lo
  else hextets

/-- The text of an IPv6 address. -/
def colonHex (a : ℕ) : Str := join ":" (compressHextets ((bigEndian 65536 8 a).map (numeral 16)))

/-- The value of a hexadecimal digit of either case. -/
def hexDigit? (c : Char) : Option ℕ :=
  if '0' ≤ c ∧ c ≤ '9' then some (c.toNat - 48)
  else if 'a' ≤ c ∧ c ≤ 'f' then some (c.toNat - 87)
  else if 'A' ≤ c ∧ c ≤ 'F' then some (c.toNat - 55)
  else none

/-- One hextet: one to four hexadecimal digits. -/
def parseHextet (s : Str) : Option ℕ :=
  if s ≠ [] ∧ s.length ≤ 4 then numeralValue 16 hexDigit? s else none

/-- A dotted quad in the last part stands for two hextets. -/
def expandQuad (parts : List Str) : Option (List Str) :=
  match parts.getLast? with
  | none => none
  | some p =>
    if '.' ∈ p then
      (parseQuad p).map fun a =>
        parts.dropLast ++ [numeral 16 (a / 65536 % 65536), numeral 16 (a % 65536)]
    else some parts

/-- The part of the address before (or after) a `::`: an empty outermost part is allowed only
when it is the only one, so that the `::` is at the end of the address. -/
def sideOfSkip (outer : Str) (inner : List Str) (side : List Str) : Option (List Str) :=
  if outer = [] then (if inner = [] then some [] else none) else some side

/-- The eight hextets of an address, its parts split at the colons. The parts between the first
and the last one have at most one empty part, the `::`. -/
def parseParts (first : Str) (inner : List Str) (last : Str) : Option (List ℕ) :=
  match inner.splitOn [] with
  | [_] =>
    if inner.length + 2 = 8 then ((first :: inner) ++ [last]).mapM parseHextet else none
  | [before, after] => do
    let hi ← sideOfSkip first before (first :: before)
    let lo ← sideOfSkip last after (after ++ [last])
    let hi ← hi.mapM parseHextet
    let lo ← lo.mapM parseHextet
    if hi.length + lo.length < 8 then
      pure (hi ++ List.replicate (8 - (hi.length + lo.length)) 0 ++ lo)
    else none
  | _ => none

/-- Read an IPv6 address: at least three and at most nine parts between colons. -/
def parseColonHex (s : Str) : Option ℕ :=
  if 3 ≤ (s.splitOn ':').length then do
    let parts ← expandQuad (s.splitOn ':')
    if parts.length ≤ 9 then
      match parts with
      | first :: second :: rest =>
        (parseParts first ((second :: rest).dropLast) ((second :: rest).getLast (by simp))).map
          (digitsValue 65536)
      | _ => none
    else none
  else none

/-! ### The compressed run -/

/-- The invariant of the scan after the hextets `l`: the current run reaches the end of `l`,
and the best run lies inside `l`; both consist of zeros. -/
structure ZeroRun.Inv (l : List Str) (r : ZeroRun) : Prop where
  index_eq : r.index = l.length
  start_add_len : r.start.getD r.index + r.len = l.length
  run_zero : l.drop (r.start.getD r.index) = List.replicate r.len "0".toList
  bestLe : r.bestStart + r.bestLen ≤ l.length
  bestZero : (l.drop r.bestStart).take r.bestLen = List.replicate r.bestLen "0".toList

/-- A window inside a list is unchanged when the list is extended. -/
lemma take_drop_append {α : Type} {l l' : List α} {i k : ℕ} (h : i + k ≤ l.length) :
    ((l ++ l').drop i).take k = (l.drop i).take k := by
  rw [List.drop_append_of_le_length (by omega), List.take_append_of_le_length]
  simp only [List.length_drop]
  omega

/-- One step of the scan keeps the invariant. -/
lemma ZeroRun.Inv.step {l : List Str} {r : ZeroRun} (h : r.Inv l) (x : Str) :
    (r.step x).Inv (l ++ [x]) := by
  obtain ⟨hi, hs, hr, hb, hz⟩ := h
  have hlen : (l ++ [x]).length = l.length + 1 := by simp
  unfold ZeroRun.step
  split_ifs with hx hlt
  · -- a zero, and the current run becomes the best one
    have hrun : (l ++ [x]).drop (r.start.getD r.index) =
        List.replicate (r.len + 1) "0".toList := by
      rw [List.drop_append_of_le_length (by omega), hr, hx, ← List.replicate_succ']
    refine ⟨by simp [hi], by simp only [Option.getD_some]; omega, hrun, by simp only; omega, ?_⟩
    simp only
    rw [hrun, List.take_of_length_le (by simp)]
  · -- a zero, and the best run stays
    have hrun : (l ++ [x]).drop (r.start.getD r.index) =
        List.replicate (r.len + 1) "0".toList := by
      rw [List.drop_append_of_le_length (by omega), hr, hx, ← List.replicate_succ']
    refine ⟨by simp [hi], by simp only [Option.getD_some]; omega, hrun, by simp only; omega, ?_⟩
    simp only
    rw [take_drop_append hb, hz]
  · -- not a zero: the current run is empty
    refine ⟨by simp [hi], by simp [hi], ?_, by simp only; omega, ?_⟩
    · simp [hi]
    · simp only
      rw [take_drop_append hb, hz]

/-- The invariant holds after the whole scan. -/
lemma ZeroRun.inv_scan (l : List Str) : (ZeroRun.scan l).Inv l := by
  have key : ∀ (post pre : List Str) (r : ZeroRun), r.Inv pre →
      (post.foldl ZeroRun.step r).Inv (pre ++ post) := by
    intro post
    induction post with
    | nil => intro pre r h; simpa using h
    | cons x post ih =>
      intro pre r h
      have := ih (pre ++ [x]) (r.step x) (h.step x)
      simpa using this
  exact key l [] ⟨0, 0, 0, none, 0⟩ ⟨rfl, rfl, rfl, le_rfl, rfl⟩

/-- **Shape of the compression**: either nothing is compressed, or a run of `k ≥ 2` zeros
between `hi` and `lo` becomes one empty hextet. -/
lemma compressHextets_cases (l : List Str) :
    compressHextets l = l ∨ ∃ hi lo k, 2 ≤ k ∧ l = hi ++ List.replicate k "0".toList ++ lo ∧
      compressHextets l = edge hi ++ hi ++ [[]] ++ lo ++ edge lo := by
  have h := ZeroRun.inv_scan l
  set r := ZeroRun.scan l with hr
  by_cases hlt : 1 < r.bestLen
  · refine Or.inr ⟨l.take r.bestStart, l.drop (r.bestStart + r.bestLen), r.bestLen, hlt, ?_, ?_⟩
    · rw [← h.bestZero, List.append_assoc, ← List.drop_drop, List.take_append_drop,
        List.take_append_drop]
    · simp [compressHextets, ← hr, hlt]
  · exact Or.inl (by simp [compressHextets, ← hr, hlt])

/-! ### Reading back -/

/-- The digit characters of base sixteen are hexadecimal digits. -/
lemma hexDigit?_digitChar : ∀ d < 16, hexDigit? (Nat.digitChar d) = some d := by decide

/-- The numeral of a hextet reads back. -/
lemma parseHextet_numeral {d : ℕ} (hd : d < 65536) : parseHextet (numeral 16 d) = some d := by
  have hlen : (numeral 16 d).length ≤ 4 :=
    Nat.toDigits_length 16 d 4 (by decide) (by simpa using hd)
  simp [parseHextet, hlen, numeralValue_numeral (by decide) hexDigit? hexDigit?_digitChar]

/-- The text of a hextet is nonempty, without colon or dot. -/
lemma hextet_text {ds : List ℕ} {p : Str} (hp : p ∈ ds.map (numeral 16)) :
    p ≠ [] ∧ ':' ∉ p ∧ '.' ∉ p := by
  obtain ⟨d, -, rfl⟩ := List.mem_map.mp hp
  exact ⟨numeral_ne_nil 16 d, not_mem_numeral (by decide) (by decide),
    not_mem_numeral (by decide) (by decide)⟩

/-- The texts of a list of hextets read back. -/
lemma mapM_parseHextet {l : List ℕ} (hl : ∀ d ∈ l, d < 65536) :
    (l.map (numeral 16)).mapM parseHextet = some l :=
  mapM_map_eq_some fun d hd => parseHextet_numeral (hl d hd)

/-- A part of the compressed address is empty or a hextet. -/
lemma mem_compressHextets {l : List Str} {p : Str} (hp : p ∈ compressHextets l) :
    p = [] ∨ p ∈ l := by
  have hedge : ∀ {side : List Str}, p ∈ edge side → p = [] := by
    intro side h
    unfold edge at h
    split at h <;> simp_all
  rcases compressHextets_cases l with h | ⟨hi, lo, k, -, hl, h⟩
  · exact Or.inr (h ▸ hp)
  · rw [h] at hp
    simp only [List.mem_append, List.mem_singleton] at hp
    rw [hl]
    rcases hp with (((hp | hp) | hp) | hp) | hp
    · exact Or.inl (hedge hp)
    · exact Or.inr (by simp [hp])
    · exact Or.inl hp
    · exact Or.inr (by simp [hp])
    · exact Or.inl (hedge hp)

/-- Reading an address whose parts are known: the last part is no dotted quad. -/
lemma parseColonHex_of_splitOn {s : Str} {first last : Str} {inner : List Str}
    (h : s.splitOn ':' = first :: (inner ++ [last])) (hne : inner ≠ []) (hdot : '.' ∉ last)
    (hlen : inner.length + 2 ≤ 9) :
    parseColonHex s = (parseParts first inner last).map (digitsValue 65536) := by
  obtain ⟨second, rest, rfl⟩ := List.exists_cons_of_ne_nil hne
  have hlast : (s.splitOn ':').getLast? = some last := by
    rw [h, ← List.cons_append]
    exact List.getLast?_concat
  have hexp : expandQuad (s.splitOn ':') = some (s.splitOn ':') := by
    simp [expandQuad, hlast, hdot]
  have h3 : 3 ≤ (s.splitOn ':').length := by rw [h]; simp
  have h9 : (s.splitOn ':').length ≤ 9 := by
    rw [h]; simp only [List.length_cons, List.length_append, List.length_nil] at hlen ⊢; omega
  rw [parseColonHex, if_pos h3, hexp]
  simp only [Option.bind_eq_bind, Option.bind_some, if_pos h9]
  rw [h]
  simp only [List.cons_append]
  congr 1
  congr 1
  · rw [← List.cons_append, List.dropLast_concat]
  · simp

/-- Without an empty inner part the address is its eight hextets. -/
lemma parseParts_full {first last : Str} {inner : List Str} (hlen : inner.length = 6)
    (hinner : [] ∉ inner) :
    parseParts first inner last = ((first :: inner) ++ [last]).mapM parseHextet := by
  simp [parseParts, List.splitOn_eq_singleton hinner, hlen]

/-- With one empty inner part the hextets on its two sides are read, and zeros fill up. -/
lemma parseParts_skip {first last : Str} {before after hi lo : List Str} {hv lv : List ℕ}
    (hbefore : [] ∉ before) (hafter : [] ∉ after)
    (hhi : sideOfSkip first before (first :: before) = some hi)
    (hlo : sideOfSkip last after (after ++ [last]) = some lo)
    (hhv : hi.mapM parseHextet = some hv) (hlv : lo.mapM parseHextet = some lv)
    (hlen : hv.length + lv.length < 8) :
    parseParts first (before ++ [] :: after) last =
      some (hv ++ List.replicate (8 - (hv.length + lv.length)) 0 ++ lv) := by
  have hsplit : (before ++ [] :: after).splitOn [] = [before, after] := by
    rw [List.splitOn_append_cons_self_of_not_mem hbefore, List.splitOn_eq_singleton hafter]
  simp [parseParts, hsplit, hhi, hlo, hhv, hlv, hlen]

/-- The side of the `::` before it: `edge hi ++ hi` is never empty and reads as `hi`. -/
lemma sideOfSkip_before {hi : List Str} (h : [] ∉ hi) : ∃ first before,
    edge hi ++ hi = first :: before ∧ [] ∉ before ∧
      sideOfSkip first before (first :: before) = some hi := by
  cases hi with
  | nil => exact ⟨[], [], by simp [edge], by simp, by simp [sideOfSkip]⟩
  | cons x xs =>
    simp only [List.mem_cons, not_or] at h
    exact ⟨x, xs, by simp [edge], h.2, by simp [sideOfSkip, Ne.symm h.1]⟩

/-- The side of the `::` after it: `lo ++ edge lo` is never empty and reads as `lo`. -/
lemma sideOfSkip_after {lo : List Str} (h : [] ∉ lo) : ∃ after last,
    lo ++ edge lo = after ++ [last] ∧ [] ∉ after ∧ (last = [] ∨ last ∈ lo) ∧
      sideOfSkip last after (after ++ [last]) = some lo := by
  rcases List.eq_nil_or_concat lo with rfl | ⟨xs, x, rfl⟩
  · exact ⟨[], [], by simp [edge], by simp, by simp, by simp [sideOfSkip]⟩
  · simp only [List.concat_eq_append, List.mem_append, List.mem_singleton, not_or] at h ⊢
    exact ⟨xs, x, by simp [edge], h.1, by simp, by simp [sideOfSkip, Ne.symm h.2]⟩

/-- Only zero is printed as `0`. -/
lemma eq_zero_of_numeral {d : ℕ} (hd : d < 65536) (h : numeral 16 d = "0".toList) : d = 0 := by
  have h1 := parseHextet_numeral hd
  rw [h] at h1
  have h2 : parseHextet "0".toList = some 0 := by decide
  exact Option.some.inj (h1.symm.trans h2)

/-- The parts of the text between colons are the compressed hextets. -/
lemma splitOn_compressHextets {ds : List ℕ} (hne : ds ≠ []) :
    (join ":" (compressHextets (ds.map (numeral 16)))).splitOn ':' =
      compressHextets (ds.map (numeral 16)) := by
  apply splitOn_join
  · intro p hp
    rcases mem_compressHextets hp with rfl | hp
    · simp
    · exact (hextet_text hp).2.1
  · rcases compressHextets_cases (ds.map (numeral 16)) with h | ⟨hi, lo, k, -, -, h⟩
    · rw [h]; simpa using hne
    · rw [h]; simp

/-- Eight hextets of which none is compressed read back. -/
lemma parseColonHex_full {ds : List ℕ} (hlen : ds.length = 8) (hlt : ∀ d ∈ ds, d < 65536) {s : Str}
    (h : s.splitOn ':' = ds.map (numeral 16)) : parseColonHex s = some (digitsValue 65536 ds) := by
  obtain ⟨d, l, rfl⟩ := List.exists_cons_of_ne_nil (List.ne_nil_of_length_pos (l := ds) (by omega))
  rcases List.eq_nil_or_concat l with rfl | ⟨mid, e, rfl⟩
  · simp at hlen
  · have hmid : mid.length = 6 := by simpa using hlen
    have hs : s.splitOn ':' = numeral 16 d :: (mid.map (numeral 16) ++ [numeral 16 e]) := by
      rw [h]; simp
    have hne : mid.map (numeral 16) ≠ [] := by
      intro h0
      simp [List.map_eq_nil_iff.mp h0] at hmid
    have hread := mapM_parseHextet hlt
    rw [parseColonHex_of_splitOn hs hne (not_mem_numeral (by decide) (by decide)) (by simp [hmid]),
      parseParts_full (by simpa using hmid) fun hm => (hextet_text hm).1 rfl]
    simp only [List.concat_eq_append, List.map_cons, List.map_append, List.map_nil] at hread
    rw [List.cons_append, hread]
    simp

/-- Eight hextets `hv`, `k ≥ 2` zeros, `lv` read back from the text that skips the zeros. -/
lemma parseColonHex_skip {hv lv : List ℕ} {k : ℕ} (hk : 2 ≤ k)
    (hlen : hv.length + k + lv.length = 8) (hhv : ∀ d ∈ hv, d < 65536)
    (hlv : ∀ d ∈ lv, d < 65536) {s : Str}
    (h : s.splitOn ':' = edge (hv.map (numeral 16)) ++ hv.map (numeral 16) ++ [[]] ++
      lv.map (numeral 16) ++ edge (lv.map (numeral 16))) :
    parseColonHex s = some (digitsValue 65536 (hv ++ List.replicate k 0 ++ lv)) := by
  obtain ⟨first, before, hA, hbefore, hfirst⟩ :=
    sideOfSkip_before fun (hm : [] ∈ hv.map (numeral 16)) => (hextet_text hm).1 rfl
  obtain ⟨after, last, hB, hafter, hlast, hside⟩ :=
    sideOfSkip_after fun (hm : [] ∈ lv.map (numeral 16)) => (hextet_text hm).1 rfl
  have hs : s.splitOn ':' = first :: ((before ++ [] :: after) ++ [last]) := by
    rw [h, List.append_assoc _ (lv.map (numeral 16)), hB, hA]
    simp
  have hdot : '.' ∉ last := by
    rcases hlast with rfl | hlast
    · simp
    · exact (hextet_text hlast).2.2
  have hedge : ∀ side : List Str, (edge side).length ≤ 1 := by
    intro side; unfold edge; split <;> simp
  have hlen9 : (before ++ [] :: after).length + 2 ≤ 9 := by
    have hlenA := congrArg List.length hA
    have hlenB := congrArg List.length hB
    have h1 := hedge (hv.map (numeral 16))
    have h2 := hedge (lv.map (numeral 16))
    simp only [List.length_append, List.length_cons, List.length_nil, List.length_map]
      at hlenA hlenB ⊢
    omega
  rw [parseColonHex_of_splitOn hs (by simp) hdot hlen9,
    parseParts_skip hbefore hafter hfirst hside (mapM_parseHextet hhv) (mapM_parseHextet hlv)
      (by omega),
    show 8 - (hv.length + lv.length) = k by omega, Option.map_some]

/-- The text of eight hextets reads back.

**Proof sketch.** The parts between colons are the compressed hextets. If nothing was
compressed, they are the eight hextets. Otherwise the parts before and after the empty one are
the hextets before and after the zeros, with an empty part at an end of the address where there
are none, and the reader fills up with as many zeros as were dropped. -/
lemma parseColonHex_join {ds : List ℕ} (hlen : ds.length = 8) (hlt : ∀ d ∈ ds, d < 65536) :
    parseColonHex (join ":" (compressHextets (ds.map (numeral 16)))) =
      some (digitsValue 65536 ds) := by
  have hsplit := splitOn_compressHextets
    (List.ne_nil_of_length_pos (l := ds) (by omega))
  rcases compressHextets_cases (ds.map (numeral 16)) with h | ⟨hi, lo, k, hk, hl, h⟩
  · rw [h] at hsplit ⊢
    exact parseColonHex_full hlen hlt hsplit
  · obtain ⟨hz, lv, rfl, hhz, rfl⟩ := List.map_eq_append_iff.mp hl
    obtain ⟨hv, zs, rfl, rfl, hzs⟩ := List.map_eq_append_iff.mp hhz
    have hzero : zs = List.replicate k 0 := by
      have hlenz : zs.length = k := by simpa using congrArg List.length hzs
      refine List.eq_replicate_iff.mpr ⟨hlenz, fun z hz => ?_⟩
      have hmem : numeral 16 z ∈ zs.map (numeral 16) := List.mem_map_of_mem hz
      rw [hzs] at hmem
      exact eq_zero_of_numeral (hlt z (by simp [hz])) (List.eq_of_mem_replicate hmem)
    subst hzero
    rw [h] at hsplit ⊢
    exact parseColonHex_skip hk (by simpa [Nat.add_assoc] using hlen)
      (fun d hd => hlt d (by simp [hd])) (fun d hd => hlt d (by simp [hd])) hsplit

/-- **IPv6 addresses read back.** -/
lemma parseColonHex_colonHex {a : ℕ} (ha : a < 2 ^ 128) : parseColonHex (colonHex a) = some a := by
  rw [colonHex, parseColonHex_join (length_bigEndian 65536 8 a)
    fun d hd => lt_of_mem_bigEndian (by decide) hd]
  rw [digitsValue_bigEndian 65536 (lt_of_lt_of_eq ha (by decide))]

/-! ## Networks -/

/-- `str(network)` of an IPv4 network. -/
def IPv4Network.str (n : IPv4Network) : Str := quad n.address ++ '/' :: numeral 10 n.prefixlen

/-- `str(network_address)` of an IPv6 network, with its scope. -/
def IPv6Network.addressText (n : IPv6Network) : Str :=
  match n.scope with
  | none => colonHex n.block.address
  | some t => colonHex n.block.address ++ '%' :: t.text

/-- `str(network)` of an IPv6 network. -/
def IPv6Network.str (n : IPv6Network) : Str :=
  n.addressText ++ '/' :: numeral 10 n.block.prefixlen

/-- `str(network)`. -/
def IpNetwork.str : IpNetwork → Str
  | .v4 n => n.str
  | .v6 n => n.str

/-- A prefix length: ASCII digits, at most the width of the addresses. -/
def parsePrefix (w : ℕ) (s : Str) : Option ℕ :=
  if s ≠ [] ∧ s.all isAsciiDigit then (numeralValue 10 decimalDigit? s).filter (· ≤ w) else none

/-- Split off the prefix length, which is the full width when there is no slash. -/
def splitNetmask (w : ℕ) (s : Str) : Option (Str × ℕ) :=
  match s.splitOn '/' with
  | [a] => some (a, w)
  | [a, p] => (parsePrefix w p).map fun n => (a, n)
  | _ => none

/-- Split off the scope identifier of an IPv6 address. -/
def splitScope (s : Str) : Option (Str × Option Scope) :=
  match s.splitOn '%' with
  | [a] => some (a, none)
  | [a, t] =>
    if h : t ≠ [] ∧ '%' ∉ t ∧ '/' ∉ t then some (a, some ⟨t, h.1, h.2.1, h.2.2⟩) else none
  | _ => none

/-- The block with a given address and prefix length, if no host bits are set. -/
def Block.ofParts (w a p : ℕ) : Option (Block w) :=
  if h : a < 2 ^ w ∧ p ≤ w ∧ a % 2 ^ (w - p) = 0 then some ⟨a, p, h.1, h.2.1, h.2.2⟩ else none

/-- `IPv4Network(s)`. -/
def IPv4Network.ofText (s : Str) : Option IPv4Network := do
  let (addr, p) ← splitNetmask 32 s
  let a ← parseQuad addr
  Block.ofParts 32 a p

/-- `IPv6Network(s)`. -/
def IPv6Network.ofText (s : Str) : Option IPv6Network := do
  let (addr, p) ← splitNetmask 128 s
  let (addr, scope) ← splitScope addr
  let a ← parseColonHex addr
  let block ← Block.ofParts 128 a p
  pure ⟨block, scope⟩

/-- A block is rebuilt from its address and prefix length. -/
@[simp] lemma Block.ofParts_self {w : ℕ} (n : Block w) :
    Block.ofParts w n.address n.prefixlen = some n := by
  simp [Block.ofParts, n.address_lt, n.prefixlen_le, n.host_bits]

/-- The numeral of a prefix length reads back. -/
lemma parsePrefix_numeral {w p : ℕ} (hp : p ≤ w) : parsePrefix w (numeral 10 p) = some p := by
  have hdig : (numeral 10 p).all isAsciiDigit := by
    rw [List.all_eq_true]
    intro c hc
    obtain ⟨d, hd, rfl⟩ := exists_digit_of_mem_numeral (by decide) hc
    exact (show ∀ d < 10, isAsciiDigit (Nat.digitChar d) by decide) d hd
  simp [parsePrefix, hdig, numeralValue_numeral (by decide) decimalDigit? decimalDigit?_digitChar,
    hp]

/-- A text without slash followed by a prefix length splits back. -/
lemma splitNetmask_append {w p : ℕ} {a : Str} (ha : '/' ∉ a) (hp : p ≤ w) :
    splitNetmask w (a ++ '/' :: numeral 10 p) = some (a, p) := by
  have hsplit : (a ++ '/' :: numeral 10 p).splitOn '/' = [a, numeral 10 p] := by
    rw [List.splitOn_append_cons_self_of_not_mem ha,
      List.splitOn_eq_singleton (not_mem_numeral (by decide) (by decide))]
  simp [splitNetmask, hsplit, parsePrefix_numeral hp]

/-! ### The characters of addresses -/

/-- The characters of a printed network without scope. -/
def isCidrChar (c : Char) : Bool :=
  decide (('0' ≤ c ∧ c ≤ '9') ∨ ('a' ≤ c ∧ c ≤ 'f') ∨ c = ':' ∨ c = '.' ∨ c = '/')

/-- The characters of numerals up to base sixteen. -/
lemma isCidrChar_of_mem_numeral {b n : ℕ} (hb : 1 < b) (hb' : b ≤ 16) {c : Char}
    (hc : c ∈ numeral b n) : isCidrChar c ∧ c ≠ '/' := by
  obtain ⟨d, hd, rfl⟩ := exists_digit_of_mem_numeral hb hc
  exact (show ∀ d < 16, isCidrChar (Nat.digitChar d) ∧ Nat.digitChar d ≠ '/' by decide) d
    (by omega)

/-- The characters of a dotted quad. -/
lemma isCidrChar_of_mem_quad {a : ℕ} {c : Char} (hc : c ∈ quad a) : isCidrChar c ∧ c ≠ '/' := by
  rcases mem_join hc with hc | ⟨p, hp, hc⟩
  · have : c = '.' := by simpa using hc
    subst this
    decide
  · obtain ⟨d, -, rfl⟩ := List.mem_map.mp hp
    exact isCidrChar_of_mem_numeral (by decide) (by decide) hc

/-- The characters of an IPv6 address without scope. -/
lemma isCidrChar_of_mem_colonHex {a : ℕ} {c : Char} (hc : c ∈ colonHex a) :
    isCidrChar c ∧ c ≠ '/' := by
  rcases mem_join hc with hc | ⟨p, hp, hc⟩
  · have : c = ':' := by simpa using hc
    subst this
    decide
  · rcases mem_compressHextets hp with rfl | hp
    · simp at hc
    · obtain ⟨d, -, rfl⟩ := List.mem_map.mp hp
      exact isCidrChar_of_mem_numeral (by decide) (by decide) hc

/-- The address of a network is printed without slash. -/
lemma slash_not_mem_addressText (n : IPv6Network) : '/' ∉ n.addressText := by
  unfold IPv6Network.addressText
  have hcolon : '/' ∉ colonHex n.block.address := fun h => (isCidrChar_of_mem_colonHex h).2 rfl
  split
  · exact hcolon
  · rename_i t _
    simp [hcolon, t.no_slash]

/-- **The image of the printer**: a network without scope is printed with hexadecimal digits,
colons, dots and slashes only. -/
lemma isCidrChar_of_mem_str {n : IpNetwork} (hn : n.scope = none) {c : Char} (hc : c ∈ n.str) :
    isCidrChar c := by
  have hslash : ∀ {p : ℕ} {a : Str}, (∀ c ∈ a, isCidrChar c) → c ∈ a ++ '/' :: numeral 10 p →
      isCidrChar c := by
    intro p a ha hc
    simp only [List.mem_append, List.mem_cons] at hc
    rcases hc with hc | rfl | hc
    · exact ha c hc
    · decide
    · exact (isCidrChar_of_mem_numeral (by decide) (by decide) hc).1
  cases n with
  | v4 n => exact hslash (fun c hc => (isCidrChar_of_mem_quad hc).1) hc
  | v6 n =>
    refine hslash (fun c hc => ?_) hc
    have hs : n.scope = none := hn
    rw [IPv6Network.addressText, hs] at hc
    exact (isCidrChar_of_mem_colonHex hc).1

/-! ### Reading networks back -/

/-- **IPv4 networks read back.** -/
theorem IPv4Network.ofText_str (n : IPv4Network) : IPv4Network.ofText n.str = some n := by
  have hslash : '/' ∉ quad n.address := fun h => (isCidrChar_of_mem_quad h).2 rfl
  simp [IPv4Network.ofText, IPv4Network.str, splitNetmask_append hslash n.prefixlen_le,
    parseQuad_quad n.address_lt]

/-- The scope of a printed address is split off again. -/
lemma splitScope_addressText (n : IPv6Network) :
    splitScope n.addressText = some (colonHex n.block.address, n.scope) := by
  have hp : '%' ∉ colonHex n.block.address := by
    intro h
    exact absurd (isCidrChar_of_mem_colonHex h).1 (by decide)
  unfold IPv6Network.addressText
  cases hs : n.scope with
  | none => simp [splitScope, List.splitOn_eq_singleton hp]
  | some t =>
    have hsplit : (colonHex n.block.address ++ '%' :: t.text).splitOn '%' =
        [colonHex n.block.address, t.text] := by
      rw [List.splitOn_append_cons_self_of_not_mem hp, List.splitOn_eq_singleton t.no_percent]
    simp [splitScope, hsplit, t.ne_nil, t.no_percent, t.no_slash]

/-- **IPv6 networks read back**, with their scope. -/
theorem IPv6Network.ofText_str (n : IPv6Network) : IPv6Network.ofText n.str = some n := by
  simp [IPv6Network.ofText, IPv6Network.str,
    splitNetmask_append (slash_not_mem_addressText n) n.block.prefixlen_le,
    splitScope_addressText, parseColonHex_colonHex n.block.address_lt]

/-- A dotted quad has only digits and dots. -/
lemma isAsciiDigit_of_parseQuad {s : Str} {a : ℕ} (h : parseQuad s = some a) {c : Char}
    (hc : c ∈ s) : isAsciiDigit c ∨ c = '.' := by
  unfold parseQuad at h
  split at h
  · obtain ⟨octets, hoct, -⟩ := Option.map_eq_some_iff.mp h
    have hjoin : join ['.'] (s.splitOn '.') = s := List.intercalate_splitOn '.'
    rw [← hjoin] at hc
    rcases mem_join hc with hc | ⟨p, hp, hc⟩
    · exact Or.inr (by simpa using hc)
    · left
      obtain ⟨o, -, ho⟩ := exists_of_mapM hoct hp
      unfold parseOctet at ho
      split at ho
      · rename_i hcond
        exact List.all_eq_true.mp hcond.2.1 c hc
      · cases ho
  · cases h

/-- There is at least one part on each side of the `::`. -/
lemma one_le_length_edge (side : List Str) : 1 ≤ (edge side).length + side.length := by
  unfold edge
  split
  · simp
  · have := List.length_pos_iff.mpr ‹¬ side = []›
    omega

/-- The text of an IPv6 address has a colon. -/
lemma colon_mem_colonHex (a : ℕ) : ':' ∈ colonHex a := by
  by_contra h
  have hsplit := splitOn_compressHextets (show bigEndian 65536 8 a ≠ [] by simp [bigEndian])
  rw [← colonHex, List.splitOn_eq_singleton h] at hsplit
  rcases compressHextets_cases ((bigEndian 65536 8 a).map (numeral 16)) with
    h | ⟨hi, lo, k, -, -, h⟩
  · rw [h] at hsplit
    simpa using congrArg List.length hsplit
  · rw [h] at hsplit
    have hlen := congrArg List.length hsplit
    have hpos := one_le_length_edge hi
    simp only [List.length_append, List.length_cons, List.length_nil] at hlen
    omega

/-- **The families do not overlap**: a printed IPv6 network is not an IPv4 network. -/
theorem IPv4Network.ofText_str6 (n : IPv6Network) : IPv4Network.ofText n.str = none := by
  have hcolon : ':' ∈ n.addressText := by
    unfold IPv6Network.addressText
    split <;> simp [colon_mem_colonHex]
  have hquad : parseQuad n.addressText = none := by
    by_contra h
    obtain ⟨a, ha⟩ := Option.ne_none_iff_exists'.mp h
    exact absurd (isAsciiDigit_of_parseQuad ha hcolon) (by decide)
  by_cases hp : n.block.prefixlen ≤ 32
  · simp [IPv4Network.ofText, IPv6Network.str,
      splitNetmask_append (slash_not_mem_addressText n) hp, hquad]
  · have hsplit : n.str.splitOn '/' = [n.addressText, numeral 10 n.block.prefixlen] := by
      rw [IPv6Network.str, List.splitOn_append_cons_self_of_not_mem (slash_not_mem_addressText n),
        List.splitOn_eq_singleton (not_mem_numeral (by decide) (by decide))]
    cases hq : parsePrefix 32 (numeral 10 n.block.prefixlen) with
    | none => simp [IPv4Network.ofText, splitNetmask, hsplit, hq]
    | some q => simp [IPv4Network.ofText, splitNetmask, hsplit, hq, hquad]

/-! ### Networks without scope -/

/-- Read a network of either family, as packet filters do: scopes are not accepted. -/
def parseNetwork (s : Str) : Option IpNetwork :=
  if s.all isCidrChar then ((IPv4Network.ofText s).map .v4).or ((IPv6Network.ofText s).map .v6)
  else none

/-- A network without scope reads back. -/
lemma parseNetwork_str {n : IpNetwork} (h : n.scope = none) : parseNetwork n.str = some n := by
  have hchars : n.str.all isCidrChar := List.all_eq_true.mpr fun c hc => isCidrChar_of_mem_str h hc
  rw [parseNetwork, if_pos hchars]
  cases n with
  | v4 n => simp [IpNetwork.str, IPv4Network.ofText_str]
  | v6 n => simp [IpNetwork.str, IPv4Network.ofText_str6, IPv6Network.ofText_str]

/-- A text with a character that no network is printed with is not a network. -/
lemma parseNetwork_eq_none {s : Str} {c : Char} (hc : c ∈ s) (hbad : isCidrChar c = false) :
    parseNetwork s = none := by
  refine if_neg fun hall => ?_
  rw [List.all_eq_true.mp hall c hc] at hbad
  cases hbad

/-- The printed text of a network with a scope: an address, a percent sign, and the rest. -/
lemma str_of_scope {n : IpNetwork} (h : n.scope ≠ none) :
    ∃ a rest, n.str = a ++ '%' :: rest ∧ ∀ c ∈ a, isCidrChar c := by
  cases n with
  | v4 n => exact absurd rfl h
  | v6 n =>
    obtain ⟨t, ht⟩ := Option.ne_none_iff_exists'.mp h
    have hscope : n.scope = some t := ht
    refine ⟨colonHex n.block.address, t.text ++ '/' :: numeral 10 n.block.prefixlen, ?_,
      fun c hc => (isCidrChar_of_mem_colonHex hc).1⟩
    simp [IpNetwork.str, IPv6Network.str, IPv6Network.addressText, hscope]

/-- A network is not printed as nothing. -/
lemma str_ne_nil (n : IpNetwork) : n.str ≠ [] := by
  cases n with
  | v4 n => simp [IpNetwork.str, IPv4Network.str]
  | v6 n => simp [IpNetwork.str, IPv6Network.str]

end Net
