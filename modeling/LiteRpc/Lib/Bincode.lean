import Mathlib.Data.Vector.Defs
import Mathlib.Order.Lattice
import Mathlib.Algebra.GroupWithZero.Nat

/-!
The wire format of `bincode` 1 with its default options, as `bincode::serialize` and
`bincode::deserialize` use them: integers in fixed width and little-endian, a sequence as its
length in a `u64` followed by its elements, a struct or tuple as its fields one after the other,
an enum as its variant index in a `u32` followed by the variant's fields, and trailing bytes left
unread. A decoder reads a prefix of the bytes and returns the rest. A decoder reads an encoder
when, from the encoding of a value followed by any bytes, it reads a given image of the value and
leaves those bytes; a codec round-trips when the image is the value itself. The decoder may be
written for another type than the encoder, as a peer that declares the same format does, and
each combinator comes with its rule.
-/

namespace Bincode

variable {α β : Type}

abbrev Encoder (α : Type) := α → List UInt8

abbrev Decoder (α : Type) := List UInt8 → Option (α × List UInt8)

/-- From what `enc` wrote of a value satisfying `valid`, `dec` reads `f` of the value and leaves
the bytes after it. -/
def Reads (enc : Encoder α) (dec : Decoder β) (valid : α → Prop) (f : α → β) : Prop :=
  ∀ a, valid a → ∀ rest, dec (enc a ++ rest) = some (f a, rest)

/-- `dec` reads back what `enc` wrote. -/
abbrev RoundTrip (enc : Encoder α) (dec : Decoder α) (valid : α → Prop) : Prop :=
  Reads enc dec valid id

/-- `bincode::deserialize`: the value read from the front, whatever follows it. -/
def deserialize (dec : Decoder α) (bytes : List UInt8) : Option α :=
  (dec bytes).map (·.1)

theorem deserialize_of_reads {enc : Encoder α} {dec : Decoder β} {valid : α → Prop} {f : α → β}
    (h : Reads enc dec valid f) {a : α} (ha : valid a) : deserialize dec (enc a) = some (f a) := by
  have hread := h a ha []
  rw [List.append_nil] at hread
  simp [deserialize, hread]

/-- The `width` bytes of `n`, least significant first. -/
def leBytes : Nat → Nat → List UInt8
  | 0, _ => []
  | width + 1, n => UInt8.ofNat (n % 256) :: leBytes width (n / 256)

/-- The number in the first `width` bytes, least significant first. -/
def leNat : Nat → Decoder Nat
  | 0, bytes => some (0, bytes)
  | _ + 1, [] => none
  | width + 1, b :: rest => (leNat width rest).map fun (m, rest) => (b.toNat + 256 * m, rest)

theorem roundTrip_leNat (width : Nat) : RoundTrip (leBytes width) (leNat width) (· < 256 ^ width) := by
  induction width with
  | zero =>
    intro n hn rest
    have hzero : n = 0 := by simpa using hn
    simp [leBytes, leNat, hzero]
  | succ width ih =>
    intro n hn rest
    -- the low byte is `n % 256`, and the rest of the number fits in one byte fewer
    have hhigh : n / 256 < 256 ^ width := by
      rw [Nat.pow_succ] at hn
      omega
    have hlow : (UInt8.ofNat (n % 256)).toNat = n % 256 := by
      rw [UInt8.toNat_ofNat']
      omega
    simp only [leBytes, List.cons_append, leNat, ih _ hhigh, Option.map_some, hlow, id]
    congr
    omega

def u16 : Encoder UInt16 := fun n => leBytes 2 n.toNat

def decU16 : Decoder UInt16 := fun bytes =>
  (leNat 2 bytes).map fun (n, rest) => (UInt16.ofNat n, rest)

theorem roundTrip_u16 : RoundTrip u16 decU16 fun _ => True := by
  intro n _ rest
  have hn : n.toNat < 256 ^ 2 := n.toNat_lt
  simp [u16, decU16, roundTrip_leNat 2 _ hn]

def u8 : Encoder UInt8 := fun b => [b]

def decU8 : Decoder UInt8
  | b :: rest => some (b, rest)
  | [] => none

theorem roundTrip_u8 : RoundTrip u8 decU8 fun _ => True := by
  intro b _ rest
  rfl

def u32 : Encoder UInt32 := fun n => leBytes 4 n.toNat

def decU32 : Decoder UInt32 := fun bytes =>
  (leNat 4 bytes).map fun (n, rest) => (UInt32.ofNat n, rest)

theorem roundTrip_u32 : RoundTrip u32 decU32 fun _ => True := by
  intro n _ rest
  have hn : n.toNat < 256 ^ 4 := n.toNat_lt
  simp [u32, decU32, roundTrip_leNat 4 _ hn]

/-- `[u8; n]`: the bytes as they are. -/
def bytesN (n : Nat) : Encoder (List.Vector UInt8 n) := fun v => v.toList

def decBytesN (n : Nat) : Decoder (List.Vector UInt8 n) := fun bytes =>
  if h : n ≤ bytes.length then some (⟨bytes.take n, by simp [h]⟩, bytes.drop n) else none

theorem roundTrip_bytesN (n : Nat) : RoundTrip (bytesN n) (decBytesN n) fun _ => True := by
  intro v _ rest
  obtain ⟨l, hl⟩ := v
  have hle : n ≤ (l ++ rest).length := by simp [hl]
  simp only [bytesN, decBytesN, List.Vector.toList_mk, hle]
  subst hl
  simp [id]

/-- A pair, or a struct of two fields: the first, then the second. -/
def pair (ea : Encoder α) (eb : Encoder β) : Encoder (α × β) := fun p => ea p.1 ++ eb p.2

def decPair (da : Decoder α) (db : Decoder β) : Decoder (α × β) := fun bytes =>
  match da bytes with
  | some (a, rest) => (db rest).map fun (b, rest) => ((a, b), rest)
  | none => none

theorem reads_pair {α' β' : Type} {ea : Encoder α} {da : Decoder α'} {va : α → Prop} {fa : α → α'}
    {eb : Encoder β} {db : Decoder β'} {vb : β → Prop} {fb : β → β'} (ha : Reads ea da va fa)
    (hb : Reads eb db vb fb) :
    Reads (pair ea eb) (decPair da db) (fun p => va p.1 ∧ vb p.2) fun p => (fa p.1, fb p.2) := by
  intro p hp rest
  simp [pair, decPair, List.append_assoc, ha _ hp.1, hb _ hp.2]

/-- A value written as another: a struct as the tuple of its fields, a newtype as its field. -/
def decMap (f : α → β) (dec : Decoder α) : Decoder β := fun bytes =>
  (dec bytes).map fun (a, rest) => (f a, rest)

theorem reads_map {γ δ : Type} {enc : Encoder α} {dec : Decoder β} {valid : α → Prop} {f : α → β}
    (h : Reads enc dec valid f) (g : γ → α) (k : β → δ) :
    Reads (fun c => enc (g c)) (decMap k dec) (fun c => valid (g c)) fun c => k (f (g c)) := by
  intro c hc rest
  simp [decMap, h _ hc]

/-- `n` values one after the other. -/
def decN (dec : Decoder α) : Nat → Decoder (List α)
  | 0, bytes => some ([], bytes)
  | n + 1, bytes =>
    match dec bytes with
    | some (a, rest) => (decN dec n rest).map fun (as, rest) => (a :: as, rest)
    | none => none

/-- A `Vec`: its length in a `u64`, then its elements. -/
def seq (enc : Encoder α) : Encoder (List α) := fun as => leBytes 8 as.length ++ as.flatMap enc

def decSeq (dec : Decoder α) : Decoder (List α) := fun bytes =>
  match leNat 8 bytes with
  | some (len, rest) => decN dec len rest
  | none => none

theorem decN_flatMap {enc : Encoder α} {dec : Decoder β} {valid : α → Prop} {f : α → β}
    (h : Reads enc dec valid f) {as : List α} (has : ∀ a ∈ as, valid a) (rest : List UInt8) :
    decN dec as.length (as.flatMap enc ++ rest) = some (as.map f, rest) := by
  induction as with
  | nil => rfl
  | cons a as ih =>
    have hrest := ih fun b hb => has b (List.mem_cons_of_mem a hb)
    simp [decN, List.append_assoc, h a (has a List.mem_cons_self), hrest]

theorem reads_seq {enc : Encoder α} {dec : Decoder β} {valid : α → Prop} {f : α → β}
    (h : Reads enc dec valid f) :
    Reads (seq enc) (decSeq dec) (fun as => as.length < 256 ^ 8 ∧ ∀ a ∈ as, valid a)
      (List.map f) := by
  intro as has rest
  simp [seq, decSeq, List.append_assoc, roundTrip_leNat 8 _ has.1, decN_flatMap h has.2]

end Bincode
