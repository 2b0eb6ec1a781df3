import Shoes.VmessHeader

/-!
# The hash objects behind the VMess key derivation

`sha2.rs` builds the VMess AEAD KDF from boxed hash objects: a `Sha256Hash` holds a SHA-256
context, and a `RecursiveHash` holds an inner and an outer hash object with the two 64-byte
HMAC pads. `setup_new` clones a hash object, `update` feeds the inner object, and `finalize`
feeds the outer object the outer pad and the inner digest before finishing it. `kdf` nests one
`RecursiveHash` per item of the path around an HMAC keyed by `VMess AEAD KDF`.

The header model (`Shoes.Vmess.kdf`) uses the closed form: HMAC layered over HMAC. Here the
objects are modelled as values, with SHA-256 as a function of the bytes a context has absorbed,
and `kdf_nested_hmac` shows that the objects compute that closed form whenever every item of
the path fits in one block, which is what `RecursiveHash::create` asserts.
-/

namespace Shoes.Vmess.Sha2

open Wire

/-- A `Box<dyn VmessHash>`: a SHA-256 context with the bytes it has absorbed, or a
`RecursiveHash`. -/
inductive VmessHash where
  | sha256 (absorbed : List UInt8)
  | recursive (inner outer : VmessHash) (defaultInner defaultOuter : List UInt8)
  deriving Repr, DecidableEq

namespace VmessHash

/-- `setup_new`: a clone, the clone of a `RecursiveHash` cloning both of its objects. -/
def setupNew : VmessHash → VmessHash
  | sha256 absorbed => sha256 absorbed
  | recursive inner outer defaultInner defaultOuter =>
    recursive inner.setupNew outer.setupNew defaultInner defaultOuter

/-- `update`: a `RecursiveHash` passes the data to its inner object. -/
def update : VmessHash → List UInt8 → VmessHash
  | sha256 absorbed, data => sha256 (absorbed ++ data)
  | recursive inner outer defaultInner defaultOuter, data =>
    recursive (inner.update data) outer defaultInner defaultOuter

/-- How deep `RecursiveHash` objects nest; `update` keeps it, so `finalize` terminates. -/
def depth : VmessHash → Nat
  | sha256 _ => 0
  | recursive inner outer _ _ => max inner.depth outer.depth + 1

@[simp] theorem depth_update (hash : VmessHash) (data : List UInt8) :
    (hash.update data).depth = hash.depth := by
  induction hash with
  | sha256 absorbed => rfl
  | recursive inner outer defaultInner defaultOuter innerDepth _ =>
    simp only [update, depth, innerDepth]

section Finalize

variable (digest : List UInt8 → List UInt8)

/-- `finalize`, with the object it leaves behind. A `Sha256Hash` finishes a clone of its context
and is unchanged; a `RecursiveHash` feeds its outer object the outer pad and the inner digest,
so both of its objects change. -/
def finalize : VmessHash → List UInt8 × VmessHash
  | sha256 absorbed => (digest absorbed, sha256 absorbed)
  | recursive inner outer defaultInner defaultOuter =>
    let outer := outer.update defaultOuter
    let (innerDigest, inner) := finalize inner
    let (result, outer) := finalize (outer.update innerDigest)
    (result, recursive inner outer defaultInner defaultOuter)
termination_by hash => hash.depth
decreasing_by all_goals simp only [depth, depth_update]; omega

/-- What a hash object finalizes to once it has absorbed `message` more: the inner digest is
computed first and handed to the outer object after its pad. -/
def value : VmessHash → List UInt8 → List UInt8
  | sha256 absorbed, message => digest (absorbed ++ message)
  | recursive inner outer _ defaultOuter, message =>
    value outer (defaultOuter ++ value inner message)

end Finalize

end VmessHash

/-- `Sha256Hash::create`: a fresh context. -/
def Sha256Hash.create : VmessHash :=
  .sha256 []

/-- `RecursiveHash::create(key, hash)`: asserts that the key fits in one block, builds the two
pads, and primes a clone of `hash` with the inner pad; `hash` itself becomes the outer
object. -/
def RecursiveHash.create (key : List UInt8) (hash : VmessHash) : Result VmessHash :=
  if 64 < key.length then abort
  else
    let defaultOuter := padKey 0x5c key
    let defaultInner := padKey 0x36 key
    let inner := hash.setupNew.update defaultInner
    .ok (.recursive inner hash defaultInner defaultOuter)

/-- `kdf`: the object keyed by `VMess AEAD KDF`, wrapped once per path item, absorbs the key and
is finalized. -/
def kdf (digest : List UInt8 → List UInt8) (key : List UInt8) (path : List (List UInt8)) :
    Result (List UInt8) := do
  let current ← RecursiveHash.create (strBytes "VMess AEAD KDF") Sha256Hash.create
  let current ← path.foldlM (fun current item => RecursiveHash.create item current) current
  .ok ((current.update key).finalize digest).1

namespace VmessHash

variable (digest : List UInt8 → List UInt8)

@[simp] theorem setupNew_eq (hash : VmessHash) : hash.setupNew = hash := by
  induction hash with
  | sha256 absorbed => rfl
  | recursive inner outer defaultInner defaultOuter innerClone outerClone =>
    simp only [setupNew, innerClone, outerClone]

@[simp] theorem value_update (hash : VmessHash) (data message : List UInt8) :
    (hash.update data).value digest message = hash.value digest (data ++ message) := by
  induction hash generalizing message with
  | sha256 absorbed => simp only [update, value, List.append_assoc]
  | recursive inner outer defaultInner defaultOuter innerUpdate _ =>
    simp only [update, value, innerUpdate]

@[simp] theorem update_update (hash : VmessHash) (first second : List UInt8) :
    (hash.update first).update second = hash.update (first ++ second) := by
  induction hash with
  | sha256 absorbed => simp only [update, List.append_assoc]
  | recursive inner outer defaultInner defaultOuter innerUpdate _ =>
    simp only [update, innerUpdate]

@[simp] theorem update_nil (hash : VmessHash) : hash.update [] = hash := by
  induction hash with
  | sha256 absorbed => simp only [update, List.append_nil]
  | recursive inner outer defaultInner defaultOuter innerUpdate _ =>
    simp only [update, innerUpdate]

/-- Finalizing after `update(data)` gives the value of the object on `data`. The induction is
on the object; the outer object of a `RecursiveHash` is finalized after two updates, which
`update_update` merges into one so that its hypothesis applies. -/
theorem finalize_update_fst (hash : VmessHash) (data : List UInt8) :
    ((hash.update data).finalize digest).1 = hash.value digest data := by
  induction hash generalizing data with
  | sha256 absorbed => simp only [update, finalize, value]
  | recursive inner outer defaultInner defaultOuter innerFinal outerFinal =>
    simp only [update, finalize, update_update, innerFinal, outerFinal, value]

end VmessHash

variable (digest : List UInt8 → List UInt8)

@[simp] theorem Sha256Hash.create_value : Sha256Hash.create.value digest = digest := by
  funext message
  simp only [Sha256Hash.create, VmessHash.value, List.nil_append]

theorem RecursiveHash.create_value (key : List UInt8) (fits : key.length ≤ 64)
    (hash : VmessHash) :
    ∃ created, RecursiveHash.create key hash = .ok created ∧
      created.value digest = recursiveHash key (hash.value digest) := by
  refine ⟨_, if_neg (Nat.not_lt.mpr fits), ?_⟩
  funext message
  simp only [VmessHash.value, VmessHash.setupNew_eq, VmessHash.value_update, recursiveHash]

theorem foldlM_create_value (path : List (List UInt8)) (short : ∀ item ∈ path, item.length ≤ 64)
    (current : VmessHash) :
    ∃ final, path.foldlM (fun current item => RecursiveHash.create item current) current =
        .ok final ∧
      final.value digest = path.foldl (fun hash item => recursiveHash item hash)
        (current.value digest) := by
  induction path generalizing current with
  | nil => exact ⟨current, rfl, rfl⟩
  | cons item rest wrapRest =>
    obtain ⟨created, made, createdValue⟩ :=
      RecursiveHash.create_value digest item (short item List.mem_cons_self) current
    obtain ⟨final, run, finalValue⟩ :=
      wrapRest (fun later mem => short later (List.mem_cons_of_mem item mem)) created
    refine ⟨final, ?_, ?_⟩
    · simp only [List.foldlM_cons, made, ok_bind, run]
    · rw [finalValue, createdValue, List.foldl_cons]

/-- `kdf` computes the nested HMAC of the header model: HMAC-SHA-256 keyed by `VMess AEAD KDF`,
wrapped in one HMAC layer per path item, applied to the key. -/
theorem kdf_nested_hmac (key : List UInt8) (path : List (List UInt8))
    (short : ∀ item ∈ path, item.length ≤ 64) :
    kdf digest key path = .ok (Vmess.kdf digest key path) := by
  obtain ⟨first, made, firstValue⟩ :=
    RecursiveHash.create_value digest (strBytes "VMess AEAD KDF") (by decide) Sha256Hash.create
  obtain ⟨final, run, finalValue⟩ := foldlM_create_value digest path short first
  simp only [kdf, made, ok_bind, run]
  rw [VmessHash.finalize_update_fst, finalValue, firstValue, Sha256Hash.create_value]
  rfl

theorem kdf_nested_hmac_auth_id :
    (∀ item ∈ [strBytes "AES Auth ID Encryption"], item.length ≤ 64) ∧
      kdf List.reverse [1, 2] [strBytes "AES Auth ID Encryption"] =
        .ok (Vmess.kdf List.reverse [1, 2] [strBytes "AES Auth ID Encryption"]) :=
  ⟨by decide, kdf_nested_hmac List.reverse [1, 2] _ (by decide)⟩

end Shoes.Vmess.Sha2
