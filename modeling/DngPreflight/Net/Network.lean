import Mathlib.Algebra.Group.Nat.Defs
import DngPreflight.Text.Basic

set_option relaxedAutoImplicit false
set_option autoImplicit false

/-!
# IP networks

Networks in CIDR form over addresses of any width, and the two families built from them.
A network carries the well-formedness that the constructors of Python's `ipaddress` check,
so that a network with host bits set cannot be built.

## Main definitions

* `Net.Block` — a CIDR block of `w`-bit addresses; `Net.Block.contains` is membership.
* `Net.IPv4Network`, `Net.IPv6Network` — the two families; an IPv6 network may have a scope.
* `Net.IpNetwork`, `Net.IpAddress`, `Net.IpNetwork.contains` — their disjoint union.
* `Net.IpAddress.isGlobal` — `is_global`: not in a block that the registries of special
  addresses mark as not globally reachable.
-/

namespace Net

open Text

/-! ## Blocks -/

/-- A CIDR block of `w`-bit addresses: the addresses that agree with `address` on the first
`prefixlen` bits. The remaining bits of `address` are zero. -/
structure Block (w : ℕ) where
  address : ℕ
  prefixlen : ℕ
  address_lt : address < 2 ^ w
  prefixlen_le : prefixlen ≤ w
  host_bits : address % 2 ^ (w - prefixlen) = 0
  deriving DecidableEq

/-- An address of `w` bits. -/
abbrev Address (w : ℕ) := Fin (2 ^ w)

namespace Block

variable {w : ℕ}

/-- `address in network`: agreement on the prefix. -/
def contains (n : Block w) (a : Address w) : Bool :=
  decide (a.val / 2 ^ (w - n.prefixlen) = n.address / 2 ^ (w - n.prefixlen))

/-- The network address is in the network. -/
lemma contains_address (n : Block w) : n.contains ⟨n.address, n.address_lt⟩ = true :=
  decide_eq_true rfl

end Block

/-! ## The two families -/

/-- An IPv4 network. -/
abbrev IPv4Network := Block 32

/-- The scope identifiers that IPv6 addresses accept: nonempty, without `%` or `/`. -/
structure Scope where
  text : Str
  ne_nil : text ≠ []
  no_percent : '%' ∉ text
  no_slash : '/' ∉ text
  deriving DecidableEq

/-- An IPv6 network, with the scope identifier of its network address if there is one. -/
structure IPv6Network where
  block : Block 128
  scope : Option Scope
  deriving DecidableEq

/-- A network of either family. -/
inductive IpNetwork where
  | v4 (n : IPv4Network)
  | v6 (n : IPv6Network)
  deriving DecidableEq

/-- An address of either family. -/
inductive IpAddress where
  | v4 (a : Address 32)
  | v6 (a : Address 128)
  deriving DecidableEq

/-- `address in network`; addresses of the other family are never members. -/
def IpNetwork.contains : IpNetwork → IpAddress → Bool
  | .v4 n, .v4 a => n.contains a
  | .v6 n, .v6 a => n.block.contains a
  | _, _ => false

/-- No network is empty. -/
lemma IpNetwork.exists_contains (n : IpNetwork) : ∃ a, n.contains a = true := by
  cases n with
  | v4 n => exact ⟨.v4 ⟨n.address, n.address_lt⟩, n.contains_address⟩
  | v6 n => exact ⟨.v6 ⟨n.block.address, n.block.address_lt⟩, n.block.contains_address⟩

/-- The scope identifier of a network. -/
def IpNetwork.scope : IpNetwork → Option Scope
  | .v4 _ => none
  | .v6 n => n.scope

/-! ## Globally reachable addresses -/

/-- `100.64.0.0/10`, shared address space: neither private nor global. -/
def sharedNetwork : IPv4Network := ⟨0x64400000, 10, by decide, by decide, by decide⟩

/-- The IPv4 blocks that are not globally reachable. -/
def privateNetworks4 : List IPv4Network :=
  [⟨0x00000000, 8, by decide, by decide, by decide⟩,
   ⟨0x0A000000, 8, by decide, by decide, by decide⟩,
   ⟨0x7F000000, 8, by decide, by decide, by decide⟩,
   ⟨0xA9FE0000, 16, by decide, by decide, by decide⟩,
   ⟨0xAC100000, 12, by decide, by decide, by decide⟩,
   ⟨0xC0000000, 24, by decide, by decide, by decide⟩,
   ⟨0xC00000AA, 31, by decide, by decide, by decide⟩,
   ⟨0xC0000200, 24, by decide, by decide, by decide⟩,
   ⟨0xC0A80000, 16, by decide, by decide, by decide⟩,
   ⟨0xC6120000, 15, by decide, by decide, by decide⟩,
   ⟨0xC6336400, 24, by decide, by decide, by decide⟩,
   ⟨0xCB007100, 24, by decide, by decide, by decide⟩,
   ⟨0xF0000000, 4, by decide, by decide, by decide⟩,
   ⟨0xFFFFFFFF, 32, by decide, by decide, by decide⟩]

/-- The globally reachable exceptions inside the blocks of `privateNetworks4`. -/
def privateExceptions4 : List IPv4Network :=
  [⟨0xC0000009, 32, by decide, by decide, by decide⟩,
   ⟨0xC000000A, 32, by decide, by decide, by decide⟩]

/-- The IPv6 blocks that are not globally reachable. -/
def privateNetworks6 : List (Block 128) :=
  [⟨1, 128, by decide, by decide, by decide⟩,
   ⟨0, 128, by decide, by decide, by decide⟩,
   ⟨0xFFFF * 2 ^ 32, 96, by decide, by decide, by decide⟩,
   ⟨0x0064FF9B0001 * 2 ^ 80, 48, by decide, by decide, by decide⟩,
   ⟨0x0100 * 2 ^ 112, 64, by decide, by decide, by decide⟩,
   ⟨0x2001 * 2 ^ 112, 23, by decide, by decide, by decide⟩,
   ⟨0x20010DB8 * 2 ^ 96, 32, by decide, by decide, by decide⟩,
   ⟨0x2002 * 2 ^ 112, 16, by decide, by decide, by decide⟩,
   ⟨0xFC00 * 2 ^ 112, 7, by decide, by decide, by decide⟩,
   ⟨0xFE80 * 2 ^ 112, 10, by decide, by decide, by decide⟩]

/-- The globally reachable exceptions inside the blocks of `privateNetworks6`. -/
def privateExceptions6 : List (Block 128) :=
  [⟨0x20010001 * 2 ^ 96 + 1, 128, by decide, by decide, by decide⟩,
   ⟨0x20010001 * 2 ^ 96 + 2, 128, by decide, by decide, by decide⟩,
   ⟨0x20010003 * 2 ^ 96, 32, by decide, by decide, by decide⟩,
   ⟨0x200100040112 * 2 ^ 80, 48, by decide, by decide, by decide⟩,
   ⟨0x20010020 * 2 ^ 96, 28, by decide, by decide, by decide⟩,
   ⟨0x20010030 * 2 ^ 96, 28, by decide, by decide, by decide⟩]

/-- `0.0.0.0/0`, every IPv4 address. -/
def everywhere : IPv4Network := ⟨0, 0, by decide, by decide, by decide⟩

/-- `10.0.0.0/8`, the largest private IPv4 block. -/
def tenNetwork : IPv4Network := ⟨0x0A000000, 8, by decide, by decide, by decide⟩

/-- `fe80::/64`, the block of link-local IPv6 addresses in use. -/
def linkLocal : Block 128 := ⟨0xFE80 * 2 ^ 112, 64, by decide, by decide, by decide⟩

/-- `is_private` of an IPv4 address. -/
def isPrivate4 (a : Address 32) : Bool :=
  privateNetworks4.any (·.contains a) && privateExceptions4.all (! ·.contains a)

/-- `is_private` of an IPv6 address; an IPv4-mapped address is judged by its IPv4 part. -/
def isPrivate6 (a : Address 128) : Bool :=
  if a.val / 2 ^ 32 = 0xFFFF then isPrivate4 ⟨a.val % 2 ^ 32, Nat.mod_lt _ (by decide)⟩
  else privateNetworks6.any (·.contains a) && privateExceptions6.all (! ·.contains a)

/-- `is_global`. -/
def IpAddress.isGlobal : IpAddress → Bool
  | .v4 a => ! sharedNetwork.contains a && ! isPrivate4 a
  | .v6 a => ! isPrivate6 a

example : (IpAddress.v4 0x08080808).isGlobal := by decide
example : ¬ (IpAddress.v4 0x0A010203).isGlobal := by decide

end Net
