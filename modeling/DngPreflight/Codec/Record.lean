import DngPreflight.Codec.PyString
import DngPreflight.Codec.Tree

set_option relaxedAutoImplicit false
set_option autoImplicit false

/-!
# Reading and dumping records

Combinators that dump values to trees and read trees back: nullable values, lists,
dictionaries, enumerations, and records whose fields have names. Each pair has a law: what was
dumped reads back, provided its parts do.

## Main definitions

* `Codec.ScalarLeaves` — how scalars are coerced to the basic types, with the laws that
  values of the right type are unchanged and that an integer is read from its decimal text.
* `Codec.readNullable`, `Codec.readList`, `Codec.readDict`, `Codec.readEnum` and the `dump`
  functions beside them.
* `Codec.record`, `Codec.readFields`, `Codec.required`, `Codec.defaulted` — records that
  forbid unknown fields; `Codec.tagOf` is the tag of a record in a union.

## Main results

* `Codec.readNullable_dump`, `Codec.readList_dump`, `Codec.readDict_dump`,
  `Codec.readEnum_dump`, `Codec.readFields_record` — the round trips.
-/

namespace Codec

open Text

variable {α β κ ν : Type}

/-! ## Scalars -/

/-- The coercions of scalars to the basic types, and what is known about them. -/
structure ScalarLeaves where
  str : Scalar → Option Str
  bool : Scalar → Option Bool
  int : Scalar → Option ℤ
  float : Scalar → Option PyFloat
  str_str : ∀ s, str (.str s) = some s
  bool_bool : ∀ b, bool (.bool b) = some b
  int_int : ∀ n, int (.int n) = some n
  int_text : ∀ n, int (.str (intText n)) = some n
  float_fin : ∀ q, float (.float (.fin q)) = some (.fin q)

attribute [simp] ScalarLeaves.str_str ScalarLeaves.bool_bool ScalarLeaves.int_int
  ScalarLeaves.int_text ScalarLeaves.float_fin

/-- The strict coercions, which accept values of the right type only; an integer may also be
written as text. -/
def ScalarLeaves.strict : ScalarLeaves where
  str := fun | .str s => some s | _ => none
  bool := fun | .bool b => some b | _ => none
  int := fun | .int n => some n | .str s => parseInt s | _ => none
  float := fun | .float x => some x | .int n => some (.fin n) | _ => none
  str_str _ := rfl
  bool_bool _ := rfl
  int_int _ := rfl
  int_text := parseInt_intText
  float_fin _ := rfl

/-- Read a scalar. -/
def leaf (f : Scalar → Option α) : Tree → Option α
  | .scalar x => f x
  | _ => none

/-- A leaf is read from the scalar that it is. -/
@[simp] lemma leaf_scalar (f : Scalar → Option α) (x : Scalar) : leaf f (.scalar x) = f x := rfl

/-- Dump a string. -/
def dumpStr (s : Str) : Tree := .scalar (.str s)

/-- Dump a Boolean. -/
def dumpBool (b : Bool) : Tree := .scalar (.bool b)

/-- Dump an integer. -/
def dumpInt (n : ℤ) : Tree := .scalar (.int n)

/-- Dump a float. -/
def dumpFloat (x : PyFloat) : Tree := .scalar (.float x)

section Basic

variable (L : ScalarLeaves)

/-- Strings are read back as leaves. -/
@[simp] lemma leaf_dumpStr (s : Str) : leaf L.str (dumpStr s) = some s := L.str_str s

/-- Booleans are read back as leaves. -/
@[simp] lemma leaf_dumpBool (b : Bool) : leaf L.bool (dumpBool b) = some b := L.bool_bool b

/-- Integers are read back as leaves. -/
@[simp] lemma leaf_dumpInt (n : ℤ) : leaf L.int (dumpInt n) = some n := L.int_int n

/-- A finite float reads back. -/
lemma leaf_dumpFloat {x : PyFloat} (h : x.isFinite) : leaf L.float (dumpFloat x) = some x := by
  cases x with
  | fin q => exact L.float_fin q
  | nan => simp [PyFloat.isFinite] at h
  | inf neg => simp [PyFloat.isFinite] at h

end Basic

/-- Read a constant. -/
def readLiteral (x : Scalar) : Tree → Option Unit
  | .scalar y => if y = x then some () else none
  | _ => none

/-- A string literal is read back. -/
@[simp] lemma readLiteral_dumpStr (s : Str) : readLiteral (.str s) (dumpStr s) = some () := by
  simp [readLiteral, dumpStr]

/-- A boolean literal is read back. -/
@[simp] lemma readLiteral_dumpBool (b : Bool) : readLiteral (.bool b) (dumpBool b) = some () := by
  simp [readLiteral, dumpBool]

/-! ## Nullable values -/

/-- Read a value that may be null. -/
def readNullable (r : Tree → Option α) : Tree → Option (Option α)
  | .scalar .null => some none
  | t => (r t).map some

/-- Dump a value that may be null. -/
def dumpNullable (d : α → Tree) : Option α → Tree
  | none => .scalar .null
  | some a => d a

/-- A nullable value reads back, if no value is dumped as null. -/
lemma readNullable_dump {r : Tree → Option α} {d : α → Tree} {x : Option α}
    (hnull : ∀ a ∈ x, d a ≠ .scalar .null) (h : ∀ a ∈ x, r (d a) = some a) :
    readNullable r (dumpNullable d x) = some x := by
  cases x with
  | none => rfl
  | some a =>
    have hne : ∀ t, t = d a → readNullable r t = (r t).map some := by
      intro t ht
      unfold readNullable
      split
      · exact absurd ht.symm (hnull a rfl)
      · rfl
    rw [dumpNullable, hne _ rfl, h a rfl, Option.map_some]

/-- A string or `None` is read back. -/
@[simp] lemma readNullable_dumpStr (L : ScalarLeaves) (x : Option Str) :
    readNullable (leaf L.str) (dumpNullable dumpStr x) = some x :=
  readNullable_dump (by simp [dumpStr]) (by simp)

/-- A boolean or `None` is read back. -/
@[simp] lemma readNullable_dumpBool (L : ScalarLeaves) (x : Option Bool) :
    readNullable (leaf L.bool) (dumpNullable dumpBool x) = some x :=
  readNullable_dump (by simp [dumpBool]) (by simp)

/-! ## Lists -/

/-- Read a list. -/
def readList (r : Tree → Option α) : Tree → Option (List α)
  | .seq items => items.mapM r
  | _ => none

/-- Dump a list. -/
def dumpList (d : α → Tree) (l : List α) : Tree := .seq (l.map d)

/-- A list reads back, if its items do. -/
lemma readList_dump {r : Tree → Option α} {d : α → Tree} {l : List α}
    (h : ∀ a ∈ l, r (d a) = some a) : readList r (dumpList d l) = some l :=
  mapM_map_eq_some h

/-- A list of strings is read back. -/
@[simp] lemma readList_dumpStr (L : ScalarLeaves) (l : List Str) :
    readList (leaf L.str) (dumpList dumpStr l) = some l :=
  readList_dump fun s _ => leaf_dumpStr L s

/-! ## Dictionaries -/

/-- Read a dictionary: its entries in order, a later value replacing an earlier one. -/
def readDict [DecidableEq κ] (rk : Scalar → Option κ) (rv : Tree → Option ν) :
    Tree → Option (Dict κ ν)
  | .map entries =>
    (entries.mapM fun e => (rk e.1).bind fun k => (rv e.2).map fun v => (k, v)).map Dict.ofList
  | _ => none

/-- Dump a dictionary: of entries whose keys are dumped as one scalar, the last value remains, in
the place of the first. -/
def dumpDict (dk : κ → Scalar) (dv : ν → Tree) (d : Dict κ ν) : Tree :=
  .map (Dict.ofList (d.entries.map fun e => (dk e.1, dv e.2))).entries

/-- **Dictionaries read back**, if their keys and values do. -/
lemma readDict_dump [DecidableEq κ] {rk : Scalar → Option κ} {rv : Tree → Option ν}
    {dk : κ → Scalar} {dv : ν → Tree} {d : Dict κ ν} (hk : ∀ k ∈ d.keys, rk (dk k) = some k)
    (hv : ∀ v, rv (dv v) = some v) : readDict rk rv (dumpDict dk dv d) = some d := by
  have hnodup : ((d.entries.map fun e => (dk e.1, dv e.2)).map Prod.fst).Nodup := by
    have hkeys : (d.entries.map fun e => (dk e.1, dv e.2)).map Prod.fst = d.keys.map dk := by
      rw [Dict.keys, List.map_map, List.map_map]
      rfl
    rw [hkeys]
    refine d.nodup.map_on fun k hmem k' hmem' heq => Option.some.inj ?_
    rw [← hk k hmem, heq, hk k' hmem']
  have h : (d.entries.map fun e => (dk e.1, dv e.2)).mapM
      (fun e => (rk e.1).bind fun k => (rv e.2).map fun v => (k, v)) = some d.entries :=
    mapM_map_eq_some fun e he => by simp [hk e.1 (List.mem_map_of_mem he), hv]
  rw [dumpDict, Dict.ofList_of_nodup hnodup]
  simp only [readDict, h, Option.map_some, Dict.ofList_entries]

/-- The keys of a dictionary that is read have been read. -/
lemma exists_of_mem_keys_readDict [DecidableEq κ] {rk : Scalar → Option κ}
    {rv : Tree → Option ν} {t : Tree} {d : Dict κ ν} (h : readDict rk rv t = some d) {k : κ}
    (hk : k ∈ d.keys) : ∃ x, rk x = some k := by
  cases t with
  | map entries =>
    obtain ⟨es, hes, rfl⟩ := Option.map_eq_some_iff.mp h
    obtain ⟨e, he, rfl⟩ := List.mem_map.mp (Dict.mem_keys_ofList.mp hk)
    obtain ⟨entry, -, hread⟩ := exists_of_mem_mapM hes he
    obtain ⟨key, hkey, hread⟩ := Option.bind_eq_some_iff.mp hread
    obtain ⟨v, -, rfl⟩ := Option.map_eq_some_iff.mp hread
    exact ⟨entry.1, hkey⟩
  | scalar x => cases h
  | seq items => cases h

/-- The key of a dictionary that is read from a scalar. -/
def ScalarLeaves.key (L : ScalarLeaves) (x : Scalar) : Option PyStr := (L.str x).map ofStr

/-- Dump a key; it becomes a text. -/
def dumpKey (k : PyStr) : Scalar := .str (lossy k)

/-- The keys of the dictionary are texts. -/
def Dict.TextKeys (d : Dict PyStr ν) : Prop := ∀ k ∈ d.keys, IsText k

/-- Having texts as keys is decided key by key. -/
instance (d : Dict PyStr ν) : Decidable d.TextKeys := List.decidableBAll _ d.keys

/-- A dictionary whose keys were made of characters has texts as its keys. -/
lemma Dict.textKeys_ofList {l : List (PyStr × ν)} (h : ∀ e ∈ l, ∃ s, e.1 = ofStr s) :
    (Dict.ofList l).TextKeys := by
  intro k hk
  obtain ⟨e, he, rfl⟩ := List.mem_map.mp (Dict.mem_keys_ofList.mp hk)
  obtain ⟨s, hs⟩ := h e he
  rw [hs]
  exact isText_ofStr s

/-- A key reads back if it is a text. -/
lemma ScalarLeaves.key_dumpKey (L : ScalarLeaves) {k : PyStr} (h : IsText k) :
    L.key (dumpKey k) = some k := by
  rw [ScalarLeaves.key, dumpKey, L.str_str, Option.map_some, ofStr_lossy_iff.mpr h]

/-- A dictionary that is read has texts as its keys. -/
lemma textKeys_of_readDict {L : ScalarLeaves} {rv : Tree → Option ν} {t : Tree}
    {d : Dict PyStr ν} (h : readDict L.key rv t = some d) : d.TextKeys := by
  intro k hk
  obtain ⟨x, hx⟩ := exists_of_mem_keys_readDict h hk
  obtain ⟨s, -, rfl⟩ := Option.map_eq_some_iff.mp hx
  exact isText_ofStr s

/-! ## Enumerations -/

/-- Read a member of an enumeration by its text. -/
def readEnum (members : List α) (text : α → Str) : Tree → Option α
  | .scalar (.str s) => members.find? fun a => text a = s
  | _ => none

/-- Dump a member of an enumeration as its text. -/
def dumpEnum (text : α → Str) (a : α) : Tree := .scalar (.str (text a))

/-- Members of an enumeration read back, if their texts differ. -/
lemma readEnum_dump {members : List α} {text : α → Str} {a : α} (ha : a ∈ members)
    (hinj : ∀ b ∈ members, text b = text a → b = a) :
    readEnum members text (dumpEnum text a) = some a := by
  change members.find? (fun b => decide (text b = text a)) = some a
  induction members with
  | nil => simp at ha
  | cons b l ih =>
    by_cases hb : text b = text a
    · simp [hinj b (by simp) hb]
    · rw [List.find?_cons_of_neg (by simpa using hb)]
      refine ih ?_ fun c hc => hinj c (List.mem_cons_of_mem b hc)
      rcases List.mem_cons.mp ha with rfl | ha
      · exact absurd rfl hb
      · exact ha

/-- A member of an enumeration is read from its text only. -/
lemma eq_dumpEnum_of_readEnum {members : List α} {text : α → Str} {t : Tree} {a : α}
    (h : readEnum members text t = some a) : t = dumpEnum text a := by
  unfold readEnum at h
  split at h
  · rename_i s
    have hfind := List.find?_some h
    have htext : text a = s := of_decide_eq_true hfind
    rw [dumpEnum, htext]
  · cases h

/-! ## Records -/

/-- The tree of a record. -/
def record (fields : List (String × Tree)) : Tree :=
  .map (fields.map fun f => (.str f.1.toList, f.2))

/-- The fields of a record whose names are all among `names`; unknown fields are errors. -/
def readFields (names : List String) : Tree → Option (List (String × Tree))
  | .map entries => entries.mapM fun e =>
    match e.1 with
    | .str s => (names.find? fun n => n.toList = s).map fun n => (n, e.2)
    | _ => none
  | _ => none

/-- The fields of a record read back. -/
lemma readFields_record {names : List String} {fields : List (String × Tree)}
    (h : ∀ f ∈ fields, f.1 ∈ names) : readFields names (record fields) = some fields := by
  refine mapM_map_eq_some fun f hf => ?_
  have hfind : readEnum names String.toList (dumpEnum String.toList f.1) = some f.1 :=
    readEnum_dump (h f hf) fun n _ hn => String.toList_inj.mp hn
  change (names.find? fun n => n.toList = f.1.toList) = some f.1 at hfind
  simp only [hfind, Option.map_some]

/-- Read a field that must be there. -/
def required (fields : List (String × β)) (name : String) (r : β → Option α) : Option α :=
  (fields.lookup name).bind r

/-- Read a field that has a default. -/
def defaulted (fields : List (String × β)) (name : String) (default : α) (r : β → Option α) :
    Option α :=
  match fields.lookup name with
  | none => some default
  | some b => r b

/-- Reading a field from the list of fields. -/
@[simp] lemma required_cons (n name : String) (b : β) (fields : List (String × β))
    (r : β → Option α) :
    required ((n, b) :: fields) name r = if name = n then r b else required fields name r := by
  by_cases h : name = n
  · simp [required, h]
  · simp [required, List.lookup_cons, h, beq_false_of_ne h]

/-- Reading a field with a default from the list of fields. -/
@[simp] lemma defaulted_cons (n name : String) (b : β) (fields : List (String × β))
    (default : α) (r : β → Option α) :
    defaulted ((n, b) :: fields) name default r =
      if name = n then r b else defaulted fields name default r := by
  by_cases h : name = n
  · simp [defaulted, h]
  · simp [defaulted, List.lookup_cons, h, beq_false_of_ne h]

/-- The tag of a record: the scalar under a name. -/
def tagOf (name : String) : Tree → Option Scalar
  | .map entries =>
    match entries.lookup (.str name.toList) with
    | some (.scalar x) => some x
    | _ => none
  | _ => none

/-- The tag of a record that begins with it. -/
@[simp] lemma tagOf_record (name : String) (x : Scalar) (fields : List (String × Tree)) :
    tagOf name (record ((name, .scalar x) :: fields)) = some x := by
  simp [tagOf, record]

end Codec
