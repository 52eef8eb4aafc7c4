import DngPreflight.Net.Notation

set_option relaxedAutoImplicit false
set_option autoImplicit false

/-!
# Networks that are typed in

Reading a network with `strict=False`: the host bits of the address are cleared, and the netmask of
an IPv4 network may be a prefix length, a netmask or a hostmask.

## Main definitions

* `Net.ipNetwork` — `ip_network(s, strict=False)`.
* `Net.typedAddress` — the address that stands before the netmask.

## Main results

* `Net.contains_of_ipNetwork` — the network contains the address that was typed.
* `Net.ipNetwork_str` — printed networks read back, whatever their scope.
* `Net.prefixOfMask_netmask` — a netmask stands for its prefix length.
-/

namespace Net

open Text

/-! ## Netmasks -/

/-- `_count_righthand_zero_bits(number, bits)`. -/
def rightZeroBits : ℕ → ℕ → ℕ
  | 0, _ => 0
  | bits + 1, number => if number % 2 = 0 then rightZeroBits bits (number / 2) + 1 else 0

/-- `_prefix_from_ip_int(number)`: ones, followed by zeros. -/
def prefixOfMask (w number : ℕ) : Option ℕ :=
  if number / 2 ^ rightZeroBits w number = 2 ^ (w - rightZeroBits w number) - 1 then
    some (w - rightZeroBits w number)
  else none

/-- `_prefix_from_ip_string(s)`: a netmask, or else a hostmask, as a dotted quad. -/
def dottedPrefix (s : Str) : Option ℕ :=
  (parseQuad s).bind fun a => (prefixOfMask 32 a).or (prefixOfMask 32 (2 ^ 32 - 1 - a))

/-- `IPv4Network._make_netmask(s)`, as a prefix length. -/
def parseNetmask4 (s : Str) : Option ℕ := (parsePrefix 32 s).or (dottedPrefix s)

/-- The netmask of a prefix length. -/
def netmask (w p : ℕ) : ℕ := 2 ^ w - 2 ^ (w - p)

/-- An odd number of `2 ^ k`s has `k` zeros at its right end. -/
lemma rightZeroBits_mul_pow {m : ℕ} (hm : m % 2 = 1) {k bits : ℕ} (hk : k < bits) :
    rightZeroBits bits (m * 2 ^ k) = k := by
  induction k generalizing bits with
  | zero =>
    obtain ⟨bits, rfl⟩ := Nat.exists_eq_add_of_lt hk
    simp [rightZeroBits, hm]
  | succ k ih =>
    obtain ⟨bits, rfl⟩ := Nat.exists_eq_succ_of_ne_zero (Nat.ne_zero_of_lt hk)
    have hdouble : m * 2 ^ (k + 1) = 2 * (m * 2 ^ k) := by ring
    rw [rightZeroBits, hdouble, if_pos (by omega), Nat.mul_div_cancel_left _ Nat.two_pos,
      ih (by omega)]

/-- Zero has as many zeros as are counted. -/
lemma rightZeroBits_zero (bits : ℕ) : rightZeroBits bits 0 = bits := by
  induction bits with
  | zero => rfl
  | succ bits ih => simp [rightZeroBits, ih]

/-- **A netmask stands for its prefix length.** -/
lemma prefixOfMask_netmask {w p : ℕ} (hp : p ≤ w) : prefixOfMask w (netmask w p) = some p := by
  have hnetmask : netmask w p = (2 ^ p - 1) * 2 ^ (w - p) := by
    rw [netmask, Nat.sub_mul, ← pow_add, Nat.add_sub_cancel' hp, one_mul]
  cases p with
  | zero => simp [hnetmask, prefixOfMask, rightZeroBits_zero]
  | succ p =>
    have hodd : (2 ^ (p + 1) - 1) % 2 = 1 := by
      have hpos : 0 < 2 ^ p := Nat.two_pow_pos p
      rw [pow_succ]
      omega
    have hzeros : rightZeroBits w (netmask w (p + 1)) = w - (p + 1) := by
      rw [hnetmask]
      exact rightZeroBits_mul_pow hodd (by omega)
    have hones : netmask w (p + 1) / 2 ^ (w - (p + 1)) = 2 ^ (p + 1) - 1 := by
      rw [hnetmask, Nat.mul_div_cancel _ (Nat.two_pow_pos _)]
    rw [prefixOfMask, hzeros, hones, Nat.sub_sub_self hp, if_pos rfl]

/-- A dotted quad is no prefix length. -/
lemma parsePrefix_quad (w a : ℕ) : parsePrefix w (quad a) = none := by
  refine if_neg fun h => ?_
  have hdot : '.' ∈ quad a := by
    simp [quad, bigEndian, join, List.intercalate]
  exact absurd (List.all_eq_true.mp h.2 _ hdot) (by decide)

/-- A prefix length that is written as a netmask. -/
lemma parseNetmask4_quad {p : ℕ} (hp : p ≤ 32) :
    parseNetmask4 (quad (netmask 32 p)) = some p := by
  have hlt : netmask 32 p < 2 ^ 32 := Nat.sub_lt (Nat.two_pow_pos _) (Nat.two_pow_pos _)
  rw [parseNetmask4, parsePrefix_quad, dottedPrefix, parseQuad_quad hlt, Option.bind_some,
    prefixOfMask_netmask hp]
  rfl

/-- A prefix length that is written as one. -/
lemma parseNetmask4_numeral {p : ℕ} (hp : p ≤ 32) : parseNetmask4 (numeral 10 p) = some p := by
  rw [parseNetmask4, parsePrefix_numeral hp]
  rfl

/-! ## Networks -/

/-- The block of an address: the host bits are cleared. -/
def Block.masked {w : ℕ} (a : Address w) {p : ℕ} (hp : p ≤ w) : Block w where
  address := a.val / 2 ^ (w - p) * 2 ^ (w - p)
  prefixlen := p
  address_lt := (Nat.div_mul_le_self _ _).trans_lt a.isLt
  prefixlen_le := hp
  host_bits := Nat.mul_mod_left _ _

/-- The block contains the address. -/
lemma Block.contains_masked {w : ℕ} (a : Address w) {p : ℕ} (hp : p ≤ w) :
    (Block.masked a hp).contains a = true := by
  refine decide_eq_true ?_
  show a.val / 2 ^ (w - p) = a.val / 2 ^ (w - p) * 2 ^ (w - p) / 2 ^ (w - p)
  rw [Nat.mul_div_cancel _ (Nat.two_pow_pos _)]

/-- The block of an address without host bits has this address. -/
lemma Block.masked_address {w : ℕ} (n : Block w) :
    Block.masked ⟨n.address, n.address_lt⟩ n.prefixlen_le = n := by
  have haddress : n.address / 2 ^ (w - n.prefixlen) * 2 ^ (w - n.prefixlen) = n.address :=
    Nat.div_mul_cancel (Nat.dvd_of_mod_eq_zero n.host_bits)
  cases n
  simp only [Block.masked, Block.mk.injEq, and_true]
  exact haddress

/-- The address of `w` bits of a number, if it is one. -/
def Address.ofNat (w a : ℕ) : Option (Address w) := if h : a < 2 ^ w then some ⟨a, h⟩ else none

/-- Split off the netmask of an address, none if there is no slash. -/
def splitMask (s : Str) : Option (Str × Option Str) :=
  match s.splitOn '/' with
  | [a] => some (a, none)
  | [a, m] => some (a, some m)
  | _ => none

/-- The prefix length of a netmask, the full width if there is none. -/
def prefixOf (w : ℕ) (read : Str → Option ℕ) : Option Str → Option ℕ
  | none => some w
  | some m => read m

/-- The block of an address and a prefix length, if they are within bounds. -/
def Block.ofAddress (w a p : ℕ) : Option (Block w) :=
  if h : a < 2 ^ w ∧ p ≤ w then some (Block.masked ⟨a, h.1⟩ h.2) else none

/-- `IPv4Network(s, strict=False)`. -/
def ipv4Network (s : Str) : Option IPv4Network := do
  let (addr, m) ← splitMask s
  let a ← parseQuad addr
  let p ← prefixOf 32 parseNetmask4 m
  Block.ofAddress 32 a p

/-- `IPv6Network(s, strict=False)`: the scope is lost if host bits are cleared. -/
def ipv6Network (s : Str) : Option IPv6Network := do
  let (addr, m) ← splitMask s
  let (addr, scope) ← splitScope addr
  let a ← parseColonHex addr
  let p ← prefixOf 128 (parsePrefix 128) m
  let block ← Block.ofAddress 128 a p
  pure ⟨block, if block.address = a then scope else none⟩

/-- `ip_network(s, strict=False)`: the first family that accepts the text. -/
def ipNetwork (s : Str) : Option IpNetwork :=
  ((ipv4Network s).map .v4).or ((ipv6Network s).map .v6)

/-- The address that stands before the netmask. -/
def typedAddress (s : Str) : Option IpAddress := do
  let (addr, _) ← splitMask s
  ((parseQuad addr).bind fun a => (Address.ofNat 32 a).map .v4).or
    ((splitScope addr).bind fun (addr, _) =>
      (parseColonHex addr).bind fun a => (Address.ofNat 128 a).map .v6)

/-! ## What is read -/

/-- The block of an address within bounds. -/
lemma exists_of_ofAddress {w a p : ℕ} {n : Block w} (h : Block.ofAddress w a p = some n) :
    ∃ ha : a < 2 ^ w, Address.ofNat w a = some ⟨a, ha⟩ ∧ n.contains ⟨a, ha⟩ = true ∧
      n.prefixlen = p := by
  unfold Block.ofAddress at h
  split_ifs at h with hbounds
  obtain rfl := Option.some.inj h
  exact ⟨hbounds.1, dif_pos hbounds.1, Block.contains_masked _ _, rfl⟩

/-- An IPv6 address is no dotted quad. -/
lemma parseQuad_eq_none_of_colon {s : Str} (h : ':' ∈ s) : parseQuad s = none := by
  by_contra hquad
  obtain ⟨a, ha⟩ := Option.ne_none_iff_exists'.mp hquad
  exact absurd (isAsciiDigit_of_parseQuad ha h) (by decide)

/-- The text of an IPv6 address has a colon. -/
lemma colon_mem_of_parseColonHex {s : Str} {a : ℕ} (h : parseColonHex s = some a) : ':' ∈ s := by
  unfold parseColonHex at h
  split_ifs at h with hparts
  by_contra hcolon
  rw [List.splitOn_eq_singleton hcolon, List.length_singleton] at hparts
  omega

/-- A single part is joined to itself. -/
lemma join_singleton (sep p : Str) : join sep [p] = p := by simp [join]

/-- Two parts are joined with one separator between them. -/
lemma join_pair (c : Char) (p q : Str) : join [c] [p, q] = p ++ c :: q := by
  simp [join, List.intercalate]

/-- The parts of a network with a netmask. -/
lemma splitMask_cases {s addr : Str} {m : Option Str} (h : splitMask s = some (addr, m)) :
    (m = none ∧ s = addr) ∨ ∃ t, m = some t ∧ s = addr ++ '/' :: t := by
  have hjoin : join ['/'] (s.splitOn '/') = s := List.intercalate_splitOn '/'
  unfold splitMask at h
  split at h
  · rename_i a hsplit
    cases h
    rw [hsplit, join_singleton] at hjoin
    exact Or.inl ⟨rfl, hjoin.symm⟩
  · rename_i a t hsplit
    cases h
    rw [hsplit, join_pair] at hjoin
    exact Or.inr ⟨t, rfl, hjoin.symm⟩
  · cases h

/-- The parts of an address with a scope. -/
lemma splitScope_cases {s addr : Str} {scope : Option Scope}
    (h : splitScope s = some (addr, scope)) :
    (scope = none ∧ s = addr) ∨ ∃ t, scope = some t ∧ s = addr ++ '%' :: t.text := by
  have hjoin : join ['%'] (s.splitOn '%') = s := List.intercalate_splitOn '%'
  unfold splitScope at h
  split at h
  · rename_i a hsplit
    cases h
    rw [hsplit, join_singleton] at hjoin
    exact Or.inl ⟨rfl, hjoin.symm⟩
  · rename_i a t hsplit
    split at h
    · cases h
      rw [hsplit, join_pair] at hjoin
      exact Or.inr ⟨_, rfl, hjoin.symm⟩
    · cases h
  · cases h

/-- **The network contains the address that was typed.** -/
theorem contains_of_ipNetwork {s : Str} {n : IpNetwork} (h : ipNetwork s = some n) :
    ∃ a, typedAddress s = some a ∧ n.contains a = true := by
  unfold ipNetwork at h
  rcases Option.or_eq_some_iff.mp h with h | ⟨-, h⟩
  · obtain ⟨n, hn, rfl⟩ := Option.map_eq_some_iff.mp h
    simp only [ipv4Network, Option.bind_eq_bind, Option.bind_eq_some_iff] at hn
    obtain ⟨⟨addr, m⟩, hsplit, a, ha, p, -, hblock⟩ := hn
    obtain ⟨hlt, haddress, hcontains, -⟩ := exists_of_ofAddress hblock
    refine ⟨.v4 ⟨a, hlt⟩, ?_, hcontains⟩
    simp [typedAddress, hsplit, ha, haddress]
  · obtain ⟨n, hn, rfl⟩ := Option.map_eq_some_iff.mp h
    simp only [ipv6Network, Option.bind_eq_bind, Option.bind_eq_some_iff] at hn
    obtain ⟨⟨full, m⟩, hsplit, ⟨addr, scope⟩, hscope, a, ha, p, -, block, hblock, hn⟩ := hn
    obtain ⟨hlt, haddress, hcontains, -⟩ := exists_of_ofAddress hblock
    obtain rfl := Option.some.inj hn
    refine ⟨.v6 ⟨a, hlt⟩, ?_, hcontains⟩
    have hcolon : ':' ∈ full := by
      have hmem := colon_mem_of_parseColonHex ha
      rcases splitScope_cases hscope with ⟨-, rfl⟩ | ⟨t, -, rfl⟩
      · exact hmem
      · exact List.mem_append_left _ hmem
    simp [typedAddress, hsplit, parseQuad_eq_none_of_colon hcolon, hscope, ha, haddress]

/-- The characters of a scope were typed. -/
lemma mem_of_scope {s : Str} {n : IpNetwork} (h : ipNetwork s = some n) {t : Scope}
    (ht : n.scope = some t) {c : Char} (hc : c ∈ t.text) : c ∈ s := by
  unfold ipNetwork at h
  rcases Option.or_eq_some_iff.mp h with h | ⟨-, h⟩
  · obtain ⟨n, -, rfl⟩ := Option.map_eq_some_iff.mp h
    cases ht
  · obtain ⟨n, hn, rfl⟩ := Option.map_eq_some_iff.mp h
    simp only [ipv6Network, Option.bind_eq_bind, Option.bind_eq_some_iff] at hn
    obtain ⟨⟨full, m⟩, hsplit, ⟨addr, scope⟩, hscope, a, -, p, -, block, -, hn⟩ := hn
    obtain rfl := Option.some.inj hn
    have hkept : scope = some t := by
      simp only [IpNetwork.scope] at ht
      split_ifs at ht
      exact ht
    have hfull : c ∈ full := by
      rcases splitScope_cases hscope with ⟨hnone, -⟩ | ⟨t', hsome, rfl⟩
      · rw [hkept] at hnone
        cases hnone
      · obtain rfl : t = t' := Option.some.inj (hkept.symm.trans hsome)
        exact List.mem_append_right _ (List.mem_cons_of_mem _ hc)
    rcases splitMask_cases hsplit with ⟨-, rfl⟩ | ⟨t', -, rfl⟩
    · exact hfull
    · exact List.mem_append_left _ hfull

/-! ## Printed networks -/

/-- A text without slash, and a netmask without slash. -/
lemma splitMask_append {a m : Str} (ha : '/' ∉ a) (hm : '/' ∉ m) :
    splitMask (a ++ '/' :: m) = some (a, some m) := by
  have hsplit : (a ++ '/' :: m).splitOn '/' = [a, m] := by
    rw [List.splitOn_append_cons_self_of_not_mem ha, List.splitOn_eq_singleton hm]
  rw [splitMask, hsplit]

/-- A block is read back from its address and prefix length. -/
lemma Block.ofAddress_self {w : ℕ} (n : Block w) :
    Block.ofAddress w n.address n.prefixlen = some n := by
  rw [Block.ofAddress, dif_pos ⟨n.address_lt, n.prefixlen_le⟩, Block.masked_address]

/-- A dotted quad has no slash. -/
lemma slash_not_mem_quad (a : ℕ) : '/' ∉ quad a := fun h => (isCidrChar_of_mem_quad h).2 rfl

/-- A numeral has no slash. -/
lemma slash_not_mem_numeral (n : ℕ) : '/' ∉ numeral 10 n :=
  not_mem_numeral (by decide) (by decide)

/-- Printed IPv4 networks read back. -/
lemma ipv4Network_str (n : IPv4Network) : ipv4Network n.str = some n := by
  rw [ipv4Network, IPv4Network.str,
    splitMask_append (slash_not_mem_quad _) (slash_not_mem_numeral _)]
  simp only [Option.bind_eq_bind, Option.bind_some, parseQuad_quad n.address_lt, prefixOf,
    parseNetmask4_numeral n.prefixlen_le, Block.ofAddress_self]

/-- So do those whose prefix length is written as a netmask. -/
lemma ipv4Network_netmask (n : IPv4Network) :
    ipv4Network (quad n.address ++ '/' :: quad (netmask 32 n.prefixlen)) = some n := by
  rw [ipv4Network, splitMask_append (slash_not_mem_quad _) (slash_not_mem_quad _)]
  simp only [Option.bind_eq_bind, Option.bind_some, parseQuad_quad n.address_lt, prefixOf,
    parseNetmask4_quad n.prefixlen_le, Block.ofAddress_self]

/-- Printed IPv6 networks read back, with their scope. -/
lemma ipv6Network_str (n : IPv6Network) : ipv6Network n.str = some n := by
  rw [ipv6Network, IPv6Network.str,
    splitMask_append (slash_not_mem_addressText n) (slash_not_mem_numeral _)]
  simp only [Option.bind_eq_bind, Option.bind_some, splitScope_addressText,
    parseColonHex_colonHex n.block.address_lt, prefixOf, parsePrefix_numeral n.block.prefixlen_le,
    Block.ofAddress_self, if_true]
  rfl

/-- The address of a printed IPv6 network has a colon. -/
lemma colon_mem_addressText (n : IPv6Network) : ':' ∈ n.addressText := by
  unfold IPv6Network.addressText
  split
  · exact colon_mem_colonHex _
  · exact List.mem_append_left _ (colon_mem_colonHex _)

/-- **Printed networks read back**, whatever their scope. -/
theorem ipNetwork_str (n : IpNetwork) : ipNetwork n.str = some n := by
  cases n with
  | v4 n => simp only [ipNetwork, IpNetwork.str, ipv4Network_str, Option.map_some, Option.some_or]
  | v6 n =>
    have hv4 : ipv4Network n.str = none := by
      rw [ipv4Network, IPv6Network.str,
        splitMask_append (slash_not_mem_addressText n) (slash_not_mem_numeral _)]
      simp only [Option.bind_eq_bind, Option.bind_some,
        parseQuad_eq_none_of_colon (colon_mem_addressText n), Option.bind_none]
    simp only [ipNetwork, IpNetwork.str, hv4, ipv6Network_str, Option.map_none, Option.map_some,
      Option.none_or]

/-! ## Lines of networks -/

/-- The separator is in none of the parts. -/
lemma not_mem_of_mem_splitOn {c : Char} {s part : Str} (h : part ∈ s.splitOn c) : c ∉ part := by
  induction s generalizing part with
  | nil =>
    obtain rfl := List.mem_singleton.mp h
    exact List.not_mem_nil
  | cons d s ih =>
    rw [List.splitOn_cons_eq_if_modifyHead] at h
    split_ifs at h with hd
    · rcases List.mem_cons.mp h with rfl | h
      · exact List.not_mem_nil
      · exact ih h
    · obtain ⟨first, rest, hsplit⟩ := List.exists_cons_of_ne_nil (List.splitOn_ne_nil c s)
      rw [hsplit] at h
      rcases List.mem_cons.mp h with rfl | h
      · have hne : c ≠ d := fun heq => hd (beq_iff_eq.mpr heq.symm)
        exact List.not_mem_cons_of_ne_of_not_mem hne (ih (hsplit ▸ List.mem_cons_self))
      · exact ih (hsplit ▸ List.mem_cons_of_mem _ h)

/-- The characters of networks are no whitespace. -/
lemma not_isSpace_of_isCidrChar {c : Char} (h : isCidrChar c = true) : isSpace c = false := by
  have hbounds : 0x2E ≤ c.toNat ∧ c.toNat ≤ 0x66 := by
    have hle : ∀ a b : Char, a ≤ b → a.toNat ≤ b.toNat := fun a b h => h
    rcases of_decide_eq_true h with ⟨h0, h9⟩ | ⟨ha, hf⟩ | rfl | rfl | rfl
    · have h0 : 0x30 ≤ c.toNat := hle _ _ h0
      have h9 : c.toNat ≤ 0x39 := hle _ _ h9
      omega
    · have ha : 0x61 ≤ c.toNat := hle _ _ ha
      have hf : c.toNat ≤ 0x66 := hle _ _ hf
      omega
    all_goals decide
  refine decide_eq_false fun hmem => ?_
  simp only [List.mem_cons, List.not_mem_nil, or_false] at hmem
  omega

/-- The characters of a printed network, with a scope or without. -/
lemma mem_str_cases {n : IpNetwork} {c : Char} (hc : c ∈ n.str) :
    isCidrChar c = true ∨ c = '%' ∨ ∃ t, n.scope = some t ∧ c ∈ t.text := by
  cases n with
  | v4 n => exact Or.inl (isCidrChar_of_mem_str rfl hc)
  | v6 n =>
    rcases List.mem_append.mp hc with hc | hc
    · unfold IPv6Network.addressText at hc
      split at hc
      · exact Or.inl (isCidrChar_of_mem_colonHex hc).1
      · rename_i t ht
        rcases List.mem_append.mp hc with hc | hc
        · exact Or.inl (isCidrChar_of_mem_colonHex hc).1
        · rcases List.mem_cons.mp hc with rfl | hc
          · exact Or.inr (Or.inl rfl)
          · exact Or.inr (Or.inr ⟨t, ht, hc⟩)
    · rcases List.mem_cons.mp hc with rfl | hc
      · exact Or.inl (by decide)
      · exact Or.inl (isCidrChar_of_mem_numeral (by decide) (by decide) hc).1

/-- A text whose first and last characters are kept is not changed by trimming. -/
lemma trim_eq_self_of_ends {p : Char → Bool} {s u v : Str} {c d : Char} (hs : s = c :: u)
    (hs' : s = v ++ [d]) (hc : p c = false) (hd : p d = false) : trim p s = s := by
  have hfirst : s.dropWhile p = s := by
    rw [hs, List.dropWhile_cons_of_neg (by simp [hc])]
  rw [trim, hfirst, hs', List.rdropWhile_concat_neg _ _ _ (by simp [hd])]

/-- A printed network begins with an address. -/
lemma exists_str_eq (n : IpNetwork) :
    ∃ c u p, n.str = c :: u ++ '/' :: numeral 10 p ∧ isCidrChar c = true := by
  have hcons : ∀ {s : Str}, s ≠ [] → (∀ c ∈ s, isCidrChar c = true) →
      ∃ c u, s = c :: u ∧ isCidrChar c = true := by
    intro s hne hall
    obtain ⟨c, u, rfl⟩ := List.exists_cons_of_ne_nil hne
    exact ⟨c, u, rfl, hall c List.mem_cons_self⟩
  cases n with
  | v4 n =>
    obtain ⟨c, u, hquad, hc⟩ := hcons (s := quad n.address)
      (by simp [quad, bigEndian, join, List.intercalate])
      fun c hc => (isCidrChar_of_mem_quad hc).1
    exact ⟨c, u, n.prefixlen, by rw [← hquad]; rfl, hc⟩
  | v6 n =>
    obtain ⟨c, u, hcolon, hc⟩ := hcons (List.ne_nil_of_mem (colon_mem_colonHex n.block.address))
      fun c hc => (isCidrChar_of_mem_colonHex hc).1
    have haddress : ∃ u', n.addressText = c :: u' := by
      unfold IPv6Network.addressText
      split
      · exact ⟨u, hcolon⟩
      · exact ⟨_, by rw [hcolon, List.cons_append]⟩
    obtain ⟨u', haddress⟩ := haddress
    exact ⟨c, u', n.block.prefixlen, by rw [← haddress]; rfl, hc⟩

/-- There is no whitespace around a printed network. -/
lemma strip_str (n : IpNetwork) : strip n.str = n.str := by
  obtain ⟨c, u, p, hstr, hc⟩ := exists_str_eq n
  obtain ⟨v, d, hlast⟩ : ∃ v d, numeral 10 p = v ++ [d] :=
    ⟨_, _, (List.dropLast_append_getLast (numeral_ne_nil 10 p)).symm⟩
  have hd : isCidrChar d = true :=
    (isCidrChar_of_mem_numeral (b := 10) (n := p) (by decide) (by decide) (by simp [hlast])).1
  have hend : n.str = (c :: u ++ '/' :: v) ++ [d] := by
    rw [hstr, hlast, List.append_assoc, List.cons_append (a := '/')]
  exact trim_eq_self_of_ends (hstr.trans List.cons_append) hend
    (not_isSpace_of_isCidrChar hc) (not_isSpace_of_isCidrChar hd)

end Net
