import Mathlib.Data.List.Basic
import Mathlib.Data.Nat.Digits.Defs

/-! # Memory layout of C structures

Where the fields of a C `struct` lie, and what a pointer of one structure type reads from memory
that was written as another.

* **`Struct`** — the declared fields in order, with their sizes and natural alignments; a packed
  structure aligns every field to one byte. `offsetOf` and `sizeOf` follow the usual rule: each
  field at the next multiple of its alignment, the whole rounded up to the largest alignment.
* **`Struct.image`** — the bytes of a value, padding included; `length_image`: the image takes
  `sizeOf` bytes.
* **`Struct.load`** — the bytes of a field of a structure laid over a memory, with `load_image`:
  every field is read back from the image of a value.
* **`readAt_readAt`** — a read inside a read, which is how two structures laid over one memory from
  different starts see each other's bytes. -/

namespace Layout

variable {κ β : Type*}

/-! ## Reading memory -/

/-- The `n` bytes of `mem` from offset `off` on. -/
def readAt (mem : List β) (off n : ℕ) : List β := (mem.drop off).take n

/-- Reading behind a first part of the memory ignores that part. -/
theorem readAt_append_right (l₁ l₂ : List β) (off n : ℕ) (h : l₁.length ≤ off) :
    readAt (l₁ ++ l₂) off n = readAt l₂ (off - l₁.length) n := by
  rw [readAt, readAt, List.drop_append, List.drop_eq_nil_of_le h, List.nil_append]

/-- Reading inside a first part of the memory ignores the rest. -/
theorem readAt_append_left (l₁ l₂ : List β) (off n : ℕ) (h : off + n ≤ l₁.length) :
    readAt (l₁ ++ l₂) off n = readAt l₁ off n := by
  have hoff : off ≤ l₁.length := by omega
  have hn : n ≤ (l₁.drop off).length := by rw [List.length_drop]; omega
  rw [readAt, readAt, List.drop_append_of_le_length hoff, List.take_append_of_le_length hn]

/-- Two adjacent reads make one longer read. -/
theorem readAt_add (mem : List β) (off n m : ℕ) :
    readAt mem off (n + m) = readAt mem off n ++ readAt mem (off + n) m := by
  rw [readAt, readAt, readAt, List.take_add, List.drop_drop]

/-- A read inside a read is a read of the memory. -/
theorem readAt_readAt (mem : List β) {off n i m : ℕ} (h : i + m ≤ n) :
    readAt (readAt mem off n) i m = readAt mem (off + i) m := by
  rw [readAt, readAt, readAt, List.drop_take, List.take_take, List.drop_drop,
    Nat.min_eq_left (by omega)]

/-- A read inside the memory gets all its bytes. -/
theorem length_readAt {mem : List β} {off n : ℕ} (h : off + n ≤ mem.length) :
    (readAt mem off n).length = n := by
  rw [readAt, List.length_take, List.length_drop]
  omega

/-- Reading everything. -/
@[simp] theorem readAt_length (mem : List β) : readAt mem 0 mem.length = mem := List.take_length

/-! ## Little-endian integers -/

/-- The unsigned value of bytes stored with the least significant one first. -/
def littleEndian (bytes : List UInt8) : ℕ := Nat.ofDigits 256 (bytes.map UInt8.toNat)

/-- Byte strings of one length with the same value are equal. -/
theorem littleEndian_inj {l l' : List UInt8} (hlen : l.length = l'.length) :
    littleEndian l = littleEndian l' ↔ l = l' := by
  have hlt (m : List UInt8) : ∀ d ∈ m.map UInt8.toNat, d < 256 := by
    intro d hd
    obtain ⟨b, -, rfl⟩ := List.mem_map.mp hd
    exact b.toNat_lt
  constructor
  · intro h
    have hdigits : l.map UInt8.toNat = l'.map UInt8.toNat :=
      Nat.ofDigits_inj_of_len_eq (by decide) (by simpa using hlen) (hlt l) (hlt l') h
    exact List.map_injective_iff.mpr (fun _ _ => UInt8.toNat_inj.mp) hdigits
  · rintro rfl
    rfl

/-- The lowest `n` bytes of `v`, the least significant one first. -/
def toLittleEndian : ℕ → ℕ → List UInt8
  | 0, _ => []
  | n + 1, v => UInt8.ofNat v :: toLittleEndian n (v / 256)

@[simp] theorem length_toLittleEndian (n v : ℕ) : (toLittleEndian n v).length = n := by
  induction n generalizing v with
  | zero => rfl
  | succ n ih => rw [toLittleEndian, List.length_cons, ih]

/-- A value that fits in `n` bytes is read back from them. -/
theorem littleEndian_toLittleEndian {n v : ℕ} (hv : v < 256 ^ n) :
    littleEndian (toLittleEndian n v) = v := by
  induction n generalizing v with
  | zero =>
      have hzero : v = 0 := by simpa using hv
      rw [hzero]
      rfl
  | succ n ih =>
      have hdiv : v / 256 < 256 ^ n := by
        rw [Nat.pow_succ] at hv
        omega
      have hrest := ih hdiv
      rw [littleEndian] at hrest
      rw [littleEndian, toLittleEndian, List.map_cons, Nat.ofDigits_cons, hrest,
        UInt8.toNat_ofNat']
      exact Nat.mod_add_div v 256

/-- The value of a byte string fits in its bytes. -/
theorem littleEndian_lt (l : List UInt8) : littleEndian l < 256 ^ l.length := by
  have hdigits : ∀ d ∈ l.map UInt8.toNat, d < 256 := by
    intro d hd
    obtain ⟨b, -, rfl⟩ := List.mem_map.mp hd
    exact b.toNat_lt
  have hlt := Nat.ofDigits_lt_base_pow_length (by decide) hdigits
  rwa [List.length_map] at hlt

/-- A byte string is written back from its value. -/
theorem toLittleEndian_littleEndian (l : List UInt8) :
    toLittleEndian l.length (littleEndian l) = l := by
  have hlen := length_toLittleEndian l.length (littleEndian l)
  exact (littleEndian_inj hlen).mp (littleEndian_toLittleEndian (littleEndian_lt l))

/-! ## Fields and structures -/

/-- A declared field: its name, size and natural alignment in bytes. -/
structure FieldDecl (κ : Type*) where
  name : κ
  size : ℕ
  align : ℕ
  /-- No type has alignment zero. -/
  align_pos : 0 < align := by decide

/-- A structure declaration: its fields in order, and whether it is packed. -/
structure Struct (κ : Type*) where
  packed : Bool
  fields : List (FieldDecl κ)

/-- The next multiple of `a` at or after `n`. -/
def alignUp (n a : ℕ) : ℕ := (n + (a - 1)) / a * a

/-- Rounding up does not go back. -/
theorem le_alignUp (n : ℕ) {a : ℕ} (ha : 0 < a) : n ≤ alignUp n a := by
  have hdiv := Nat.div_add_mod (n + (a - 1)) a
  have hmod := Nat.mod_lt (n + (a - 1)) ha
  rw [alignUp, Nat.mul_comm]
  omega

/-- Rounding up keeps the order. -/
theorem alignUp_le_alignUp {m n : ℕ} (h : m ≤ n) (a : ℕ) : alignUp m a ≤ alignUp n a :=
  Nat.mul_le_mul_right a (Nat.div_le_div_right (Nat.add_le_add_right h _))

namespace Struct

/-- The alignment a field gets inside the structure. -/
def alignIn (s : Struct κ) (f : FieldDecl κ) : ℕ := if s.packed then 1 else f.align

theorem alignIn_pos (s : Struct κ) (f : FieldDecl κ) : 0 < s.alignIn f := by
  rw [alignIn]
  split
  · exact Nat.one_pos
  · exact f.align_pos

/-- The offset of the field `k` when the fields `fs` are placed from `pos` on. -/
def offsetFrom [DecidableEq κ] (s : Struct κ) (k : κ) : ℕ → List (FieldDecl κ) → ℕ
  | pos, [] => pos
  | pos, f :: fs =>
      if f.name = k then alignUp pos (s.alignIn f)
      else offsetFrom s k (alignUp pos (s.alignIn f) + f.size) fs

/-- The position behind the fields `fs` placed from `pos` on. -/
def endFrom (s : Struct κ) : ℕ → List (FieldDecl κ) → ℕ
  | pos, [] => pos
  | pos, f :: fs => endFrom s (alignUp pos (s.alignIn f) + f.size) fs

/-- `offsetof(s, k)`. -/
def offsetOf [DecidableEq κ] (s : Struct κ) (k : κ) : ℕ := s.offsetFrom k 0 s.fields

/-- The alignment of the structure: the largest alignment of its fields. -/
def align (s : Struct κ) : ℕ := s.fields.foldr (fun f m => max (s.alignIn f) m) 1

/-- `sizeof(s)`. -/
def sizeOf (s : Struct κ) : ℕ := alignUp (s.endFrom 0 s.fields) s.align

theorem align_pos (s : Struct κ) : 0 < s.align := by
  rw [align]
  induction s.fields with
  | nil => exact Nat.one_pos
  | cons f fs ih => exact lt_of_lt_of_le ih (Nat.le_max_right _ _)

/-- Placing fields does not go back. -/
theorem le_endFrom (s : Struct κ) (pos : ℕ) (fs : List (FieldDecl κ)) : pos ≤ s.endFrom pos fs := by
  induction fs generalizing pos with
  | nil => exact le_rfl
  | cons f fs ih =>
      have hup := le_alignUp pos (s.alignIn_pos f)
      have hrest := ih (alignUp pos (s.alignIn f) + f.size)
      rw [endFrom]
      omega

/-! ## Images of values -/

/-- The bytes of the fields `fs` placed from `pos` on, with `pad` in the gaps. -/
def imageFrom (s : Struct κ) (pad : β) (value : κ → List β) : ℕ → List (FieldDecl κ) → List β
  | _, [] => []
  | pos, f :: fs =>
      List.replicate (alignUp pos (s.alignIn f) - pos) pad ++ value f.name
        ++ imageFrom s pad value (alignUp pos (s.alignIn f) + f.size) fs

/-- The memory image of a value of the structure. -/
def image (s : Struct κ) (pad : β) (value : κ → List β) : List β :=
  s.imageFrom pad value 0 s.fields
    ++ List.replicate (s.sizeOf - s.endFrom 0 s.fields) pad

variable {s : Struct κ} {pad : β} {value : κ → List β}

variable (s pad) in
/-- The placed fields fill exactly the space up to their end. -/
theorem length_imageFrom {fs : List (FieldDecl κ)}
    (hsize : ∀ f ∈ fs, (value f.name).length = f.size) (pos : ℕ) :
    pos + (s.imageFrom pad value pos fs).length = s.endFrom pos fs := by
  induction fs generalizing pos with
  | nil => rfl
  | cons f fs ih =>
      have hup := le_alignUp pos (s.alignIn_pos f)
      have hf := hsize f List.mem_cons_self
      have hrest := ih (fun g hg => hsize g (List.mem_cons_of_mem f hg))
        (alignUp pos (s.alignIn f) + f.size)
      rw [imageFrom, endFrom, List.length_append, List.length_append, List.length_replicate]
      omega

/-- **The image of a value takes `sizeOf` bytes.** -/
theorem length_image (hsize : ∀ f ∈ s.fields, (value f.name).length = f.size) :
    (s.image pad value).length = s.sizeOf := by
  have hfields := length_imageFrom s pad hsize 0
  have hle : s.endFrom 0 s.fields ≤ s.sizeOf := le_alignUp _ s.align_pos
  rw [image, List.length_append, List.length_replicate]
  omega

variable [DecidableEq κ]

variable (s) in
/-- A declared field is placed at or after the start and ends before the end. -/
theorem offsetFrom_bounds {fs : List (FieldDecl κ)} {f : FieldDecl κ} (hf : f ∈ fs)
    (hnames : (fs.map FieldDecl.name).Nodup) (pos : ℕ) :
    pos ≤ s.offsetFrom f.name pos fs ∧
      s.offsetFrom f.name pos fs + f.size ≤ s.endFrom pos fs := by
  induction fs generalizing pos with
  | nil => exact absurd hf List.not_mem_nil
  | cons g fs ih =>
      have hup := le_alignUp pos (s.alignIn_pos g)
      rw [offsetFrom, endFrom]
      rcases List.mem_cons.mp hf with rfl | hf
      · rw [if_pos rfl]
        exact ⟨hup, s.le_endFrom _ fs⟩
      · obtain ⟨hg, hnames⟩ := List.nodup_cons.mp hnames
        have hne : g.name ≠ f.name := fun h => hg (h ▸ List.mem_map_of_mem hf)
        obtain ⟨hlo, hhi⟩ := ih hf hnames (alignUp pos (s.alignIn g) + g.size)
        rw [if_neg hne]
        exact ⟨by omega, hhi⟩

/-- Every placed field is read back from its offset. -/
theorem readAt_imageFrom {fs : List (FieldDecl κ)}
    (hsize : ∀ f ∈ fs, (value f.name).length = f.size) (hnames : (fs.map FieldDecl.name).Nodup)
    {f : FieldDecl κ} (hf : f ∈ fs) (pos : ℕ) :
    readAt (s.imageFrom pad value pos fs) (s.offsetFrom f.name pos fs - pos) f.size
      = value f.name := by
  induction fs generalizing pos with
  | nil => exact absurd hf List.not_mem_nil
  | cons g fs ih =>
      have hup := le_alignUp pos (s.alignIn_pos g)
      have hg := hsize g List.mem_cons_self
      rw [offsetFrom, imageFrom]
      rcases List.mem_cons.mp hf with rfl | hf
      · -- the field itself: skip the gap before it, and stop at its end
        rw [if_pos rfl, List.append_assoc, readAt_append_right _ _ _ _ List.length_replicate.le,
          List.length_replicate, Nat.sub_self, readAt_append_left _ _ _ _ (by omega), ← hg]
        exact List.take_length
      · obtain ⟨hnotin, hnames⟩ := List.nodup_cons.mp hnames
        have hne : g.name ≠ f.name := fun h => hnotin (h ▸ List.mem_map_of_mem hf)
        obtain ⟨hlo, -⟩ :=
          offsetFrom_bounds s hf hnames (alignUp pos (s.alignIn g) + g.size)
        -- a later field: skip the gap and the first field, and go on behind them
        have hlen : (List.replicate (alignUp pos (s.alignIn g) - pos) pad
              ++ value g.name).length = alignUp pos (s.alignIn g) + g.size - pos := by
          rw [List.length_append, List.length_replicate]
          omega
        rw [if_neg hne, readAt_append_right _ _ _ _ (by omega), hlen,
          show s.offsetFrom f.name (alignUp pos (s.alignIn g) + g.size) fs - pos
              - (alignUp pos (s.alignIn g) + g.size - pos)
            = s.offsetFrom f.name (alignUp pos (s.alignIn g) + g.size) fs
              - (alignUp pos (s.alignIn g) + g.size) by omega]
        exact ih (fun g hg => hsize g (List.mem_cons_of_mem _ hg)) hnames hf _

/-- The declared size of the field `k`. -/
def sizeOfField (s : Struct κ) (k : κ) : ℕ :=
  ((s.fields.find? fun f => f.name = k).map FieldDecl.size).getD 0

/-- Looking a declared field up by its name finds it. -/
theorem find?_name {fs : List (FieldDecl κ)} {f : FieldDecl κ} (hf : f ∈ fs)
    (hnames : (fs.map FieldDecl.name).Nodup) : (fs.find? fun g => g.name = f.name) = some f := by
  induction fs with
  | nil => exact absurd hf List.not_mem_nil
  | cons g fs ih =>
      obtain ⟨hnotin, hnames⟩ := List.nodup_cons.mp hnames
      rcases List.mem_cons.mp hf with rfl | hf
      · rw [List.find?_cons_of_pos (by simp)]
      · have hne : g.name ≠ f.name := fun h => hnotin (h ▸ List.mem_map_of_mem hf)
        rw [List.find?_cons_of_neg (by simpa using hne)]
        exact ih hf hnames

/-- The bytes of the field `k` of a structure `s` at the start of `mem`. -/
def load (s : Struct κ) (mem : List β) (k : κ) : List β :=
  readAt mem (s.offsetOf k) (s.sizeOfField k)

/-- **Every field is read back** from the image of a value. -/
theorem load_image (hsize : ∀ f ∈ s.fields, (value f.name).length = f.size)
    (hnames : (s.fields.map FieldDecl.name).Nodup) {k : κ} (hk : k ∈ s.fields.map FieldDecl.name) :
    s.load (s.image pad value) k = value k := by
  obtain ⟨f, hf, rfl⟩ := List.mem_map.mp hk
  have hlen := length_imageFrom s pad hsize 0
  have hend := (offsetFrom_bounds s hf hnames 0).2
  have hfield : s.sizeOfField f.name = f.size := by
    rw [sizeOfField, find?_name hf hnames]
    rfl
  rw [load, hfield, image, readAt_append_left _ _ _ _ (by rw [offsetOf]; omega)]
  exact readAt_imageFrom hsize hnames hf 0

end Struct

end Layout
