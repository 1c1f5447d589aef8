import Mathlib.Algebra.Group.Nat.Defs
import MediaIndex.GroupKey

/-!
# Texts and their bytes

Texts are compared character by character. In UTF-8 this is the order of their bytes: the first byte of a
character has the highest bits of its code point and grows with the number of bytes, and the bytes behind
it have six bits each, the highest first.

* `bytesOf` -- the bytes of a text;
* `firstByte`, `laterBytes`, `utf8EncodeChar_eq` -- the bytes of a character, by its code point;
* `utf8EncodeChar_append_lt` -- an earlier character has earlier bytes, whatever follows;
* `bytesOf_lt` -- an earlier text has earlier bytes;
* `bytesOf_lt_of_compare` -- so keys are listed in the order of their bytes;
* `sliceBytes?`, `sliceBytes?_eq_some_iff` -- a stretch of a text between two of its bytes, if both cuts fall
  between characters.
-/

namespace MediaIndex

/-! ## 1. One character -/

/-- The number of bytes behind the first. -/
def laterCount (n : Nat) : Nat :=
  if n ≤ 0x7f then 0 else if n ≤ 0x7ff then 1 else if n ≤ 0xffff then 2 else 3

/-- The first byte. -/
def firstByte (n : Nat) : Nat :=
  if n ≤ 0x7f then n
  else if n ≤ 0x7ff then n / 0x40 + 0xc0
  else if n ≤ 0xffff then n / 0x1000 + 0xe0
  else n / 0x40000 + 0xf0

/-- The last bytes, with six bits of the code point in each. -/
def laterBytes (n : Nat) : Nat → List UInt8
  | 0 => []
  | k + 1 => UInt8.ofNat (n / 64 ^ k % 64 + 0x80) :: laterBytes n k

/-- Code points end below this number. -/
theorem toNat_lt (c : Char) : c.val.toNat < 0x110000 := by
  have h := c.valid
  simp only [UInt32.isValidChar, Nat.isValidChar] at h
  omega

theorem utf8EncodeChar_eq (c : Char) : String.utf8EncodeChar c =
    UInt8.ofNat (firstByte c.val.toNat) :: laterBytes c.val.toNat (laterCount c.val.toNat) := by
  have hc := toNat_lt c
  unfold String.utf8EncodeChar firstByte laterCount
  generalize c.val.toNat = n at hc
  dsimp only
  split
  · rfl
  · split
    · have h : n / 0x40 % 0x20 = n / 0x40 := by omega
      simp only [h, laterBytes, Nat.pow_zero, Nat.div_one]
    · split
      · have h : n / 0x1000 % 0x10 = n / 0x1000 := by omega
        simp only [h, laterBytes, Nat.pow_zero, Nat.pow_one, Nat.div_one]
      · have h : n / 0x40000 % 0x08 = n / 0x40000 := by omega
        simp only [h, laterBytes, Nat.pow_zero, Nat.pow_one, Nat.reducePow, Nat.div_one]

theorem firstByte_lt {n : Nat} (h : n < 0x110000) : firstByte n < 0x100 := by
  unfold firstByte
  repeat' split
  all_goals omega

/-- Of two code points the lesser has the lesser first byte, or else as many bytes and less in those
    behind the first. -/
theorem firstByte_lt_or {m n : Nat} (h : m < n) : firstByte m < firstByte n ∨
    firstByte m = firstByte n ∧ laterCount m = laterCount n ∧
      m % 64 ^ laterCount n < n % 64 ^ laterCount n := by
  unfold firstByte laterCount
  repeat' split
  all_goals simp only [Nat.pow_zero, Nat.pow_one, Nat.reducePow, true_and]
  all_goals omega

theorem laterBytes_append_lt {m n k : Nat} (h : m % 64 ^ k < n % 64 ^ k) (u v : List UInt8) :
    laterBytes m k ++ u < laterBytes n k ++ v := by
  induction k with
  | zero => simp only [Nat.pow_zero, Nat.mod_one] at h; omega
  | succ k ih =>
    rw [Nat.pow_succ, Nat.mod_mul, Nat.mod_mul] at h
    have hm : m % 64 ^ k < 64 ^ k := Nat.mod_lt _ (Nat.pow_pos (by decide))
    have hn : n % 64 ^ k < 64 ^ k := Nat.mod_lt _ (Nat.pow_pos (by decide))
    rw [laterBytes, laterBytes, List.cons_append, List.cons_append, List.cons_lt_cons_iff,
      UInt8.lt_iff_toNat_lt, UInt8.toNat_ofNat', UInt8.toNat_ofNat']
    rcases Nat.lt_trichotomy (m / 64 ^ k % 64) (n / 64 ^ k % 64) with hd | hd | hd
    · exact Or.inl (by omega)
    · refine Or.inr ⟨by rw [hd], ih ?_⟩
      rw [hd] at h
      omega
    · -- a greater digit outweighs all that follow it
      have := Nat.mul_le_mul_left (64 ^ k) hd
      rw [Nat.succ_eq_add_one, Nat.mul_add, Nat.mul_one] at this
      omega

/-- **An earlier character has earlier bytes**, whatever follows the two. -/
theorem utf8EncodeChar_append_lt {c d : Char} (h : c < d) (u v : List UInt8) :
    String.utf8EncodeChar c ++ u < String.utf8EncodeChar d ++ v := by
  have hc := firstByte_lt (toNat_lt c)
  have hd := firstByte_lt (toNat_lt d)
  rw [utf8EncodeChar_eq, utf8EncodeChar_eq, List.cons_append, List.cons_append, List.cons_lt_cons_iff,
    UInt8.lt_iff_toNat_lt, UInt8.toNat_ofNat', UInt8.toNat_ofNat']
  rcases firstByte_lt_or (show c.val.toNat < d.val.toNat from h) with hf | ⟨hf, hk, hl⟩
  · exact Or.inl (by omega)
  · refine Or.inr ⟨by rw [hf], ?_⟩
    rw [hk]
    exact laterBytes_append_lt hl u v

/-! ## 2. Texts -/

/-- The bytes of a text in UTF-8. -/
def bytesOf (s : String) : List UInt8 := s.toUTF8.data.toList

theorem bytesOf_eq (s : String) : bytesOf s = s.toList.flatMap String.utf8EncodeChar := by
  rw [bytesOf, String.toUTF8_eq_toByteArray, ← String.utf8Encode_toList, List.utf8Encode]
  simp

theorem flatMap_utf8EncodeChar_lt {cs ds : List Char} (h : cs < ds) :
    cs.flatMap String.utf8EncodeChar < ds.flatMap String.utf8EncodeChar := by
  induction cs generalizing ds with
  | nil =>
    cases ds with
    | nil => exact absurd h (List.lt_irrefl _)
    | cons d ds =>
      rw [List.flatMap_nil, List.flatMap_cons, utf8EncodeChar_eq, List.cons_append]
      exact List.nil_lt_cons _ _
  | cons c cs ih =>
    cases ds with
    | nil => exact absurd h (List.not_lt_nil _)
    | cons d ds =>
      rw [List.flatMap_cons, List.flatMap_cons]
      rcases List.cons_lt_cons_iff.mp h with hlt | ⟨rfl, hlt⟩
      · exact utf8EncodeChar_append_lt hlt _ _
      · exact List.append_left_lt (ih hlt)

/-- **An earlier text has earlier bytes.** -/
theorem bytesOf_lt {s t : String} (h : s < t) : bytesOf s < bytesOf t := by
  rw [bytesOf_eq, bytesOf_eq]
  exact flatMap_utf8EncodeChar_lt h

/-- Keys are listed in the order of their bytes. -/
theorem bytesOf_lt_of_compare {a b : GroupKey} (h : compare a b = .lt) :
    bytesOf a.text < bytesOf b.text := by
  refine bytesOf_lt ?_
  exact compareOfLessAndEq_eq_lt.mp h

/-! ## 3. Cuts -/

variable {cs u v body : List Char} {i j n : Nat}

/-- The number of bytes of a text. -/
def byteLength (cs : List Char) : Nat := (cs.flatMap String.utf8EncodeChar).length

theorem byteLength_cons (c : Char) (cs : List Char) : byteLength (c :: cs) = c.utf8Size + byteLength cs := by
  simp [byteLength, String.length_utf8EncodeChar]

theorem byteLength_append (u v : List Char) : byteLength (u ++ v) = byteLength u + byteLength v := by
  simp [byteLength]

/-- What stands before a byte of a text and what stands from it on. A cut inside a character or behind the
    end cannot be made. -/
def splitAtByte? : Nat → List Char → Option (List Char × List Char)
  | 0, cs => some ([], cs)
  | _ + 1, [] => none
  | n + 1, c :: cs =>
    if c.utf8Size ≤ n + 1 then (splitAtByte? (n + 1 - c.utf8Size) cs).map fun p => (c :: p.1, p.2) else none

theorem byteLength_eq_zero_iff : byteLength u = 0 ↔ u = [] := by
  cases u with
  | nil => exact iff_of_true rfl rfl
  | cons c u =>
    have := c.utf8Size_pos
    rw [byteLength_cons]
    exact iff_of_false (by omega) (List.cons_ne_nil c u)

theorem splitAtByte?_zero_iff : splitAtByte? 0 cs = some (u, v) ↔ cs = u ++ v ∧ byteLength u = 0 := by
  have h : splitAtByte? 0 cs = some ([], cs) := by cases cs <;> rfl
  rw [h, byteLength_eq_zero_iff, Option.some_inj, Prod.mk.injEq]
  constructor
  · intro hx
    obtain ⟨rfl, rfl⟩ := hx
    exact ⟨rfl, rfl⟩
  · intro hx
    obtain ⟨rfl, rfl⟩ := hx
    exact ⟨rfl, rfl⟩

/-- **A cut can be made where the bytes of a first part of the text end.** -/
theorem splitAtByte?_eq_some_iff :
    splitAtByte? n cs = some (u, v) ↔ cs = u ++ v ∧ byteLength u = n := by
  induction cs generalizing n u v with
  | nil =>
    cases n with
    | zero => exact splitAtByte?_zero_iff
    | succ n =>
      refine iff_of_false (fun h => by cases h) fun h => ?_
      rw [byteLength_eq_zero_iff.mpr (List.append_eq_nil_iff.mp h.1.symm).1] at h
      cases h.2
  | cons c cs ih =>
    cases n with
    | zero => exact splitAtByte?_zero_iff
    | succ n =>
      have hpos := c.utf8Size_pos
      rw [splitAtByte?]
      cases u with
      | nil =>
        -- the first character is before the cut
        refine iff_of_false (fun h => ?_) fun h => by cases h.2
        split at h
        · simp at h
        · cases h
      | cons a u =>
        rw [byteLength_cons, List.cons_append, List.cons.injEq]
        split
        next hle =>
          simp only [Option.map_eq_some_iff, Prod.exists, ih, Prod.mk.injEq, List.cons.injEq]
          constructor
          · intro hx
            obtain ⟨u', v', ⟨rfl, hlength⟩, ⟨rfl, rfl⟩, rfl⟩ := hx
            exact ⟨⟨rfl, rfl⟩, by omega⟩
          · intro hx
            obtain ⟨⟨rfl, rfl⟩, hlength⟩ := hx
            exact ⟨u, v, ⟨rfl, by omega⟩, ⟨rfl, rfl⟩, rfl⟩
        next hlt =>
          refine iff_of_false (fun h => by cases h) fun h => ?_
          rw [h.1.1] at hlt
          omega

/-- The stretch of a text from one byte up to another one. -/
def sliceBytes? (i j : Nat) (cs : List Char) : Option (List Char) :=
  if i ≤ j then do
    let (_, rest) ← splitAtByte? i cs
    let (body, _) ← splitAtByte? (j - i) rest
    pure body
  else none

/-- **A stretch can be cut out when there is a character boundary at both of its ends.** -/
theorem sliceBytes?_eq_some_iff : sliceBytes? i j cs = some body ↔
    ∃ u v, cs = u ++ body ++ v ∧ byteLength u = i ∧ byteLength (u ++ body) = j := by
  unfold sliceBytes?
  split
  next hle =>
    simp only [Option.bind_eq_bind, Option.bind_eq_some_iff, Prod.exists, splitAtByte?_eq_some_iff]
    constructor
    · intro hx
      obtain ⟨u, rest, ⟨rfl, rfl⟩, b, v, ⟨rfl, hlength⟩, e⟩ := hx
      cases e
      refine ⟨u, v, (List.append_assoc u body v).symm, rfl, ?_⟩
      rw [byteLength_append]
      omega
    · intro hx
      obtain ⟨u, v, rfl, rfl, rfl⟩ := hx
      refine ⟨u, body ++ v, ⟨List.append_assoc u body v, rfl⟩, body, v, ⟨rfl, ?_⟩, rfl⟩
      rw [byteLength_append]
      omega
  next hlt =>
    refine iff_of_false (fun h => by cases h) fun hx => ?_
    obtain ⟨u, v, -, rfl, rfl⟩ := hx
    rw [byteLength_append] at hlt
    omega

end MediaIndex
