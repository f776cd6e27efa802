import Mathlib.Algebra.Group.Nat.Defs
import MiniScheme.Text.Bytes

/- The order of texts by their bytes in UTF-8. A character is written as its
   number in base 64, the most significant digit first (`utf8EncodeChar_eq`).
   Codes of one length are ordered as the numbers are, since their digits are
   (`digits_append_lt`), and those of different lengths by their leading bytes,
   whose ranges do not overlap (`leading_lt`). The bytes that differ come before
   whatever follows in the text, so a text before another one, character by
   character, is also before it byte by byte (`bytes_lt_bytes`). Things that are
   sorted by texts, no two of which are the same, go up strictly
   (`pairwise_lt_mergeSort`). -/
namespace MiniScheme.Text

/-- The bytes of a text in UTF-8. -/
def bytes (text : String) : List UInt8 := text.toUTF8.data.toList

namespace Utf8

/-- How many bytes follow the leading one in the code of a character. -/
def following (v : Nat) : Nat :=
  if v ≤ 0x7f then 0 else if v ≤ 0x7ff then 1 else if v ≤ 0xffff then 2 else 3

/-- The least leading byte that so many others follow. -/
def mark : Nat → Nat
  | 0 => 0
  | 1 => 0xc0
  | 2 => 0xe0
  | 3 => 0xf0
  | _ => 0xf8

/-- The digits of a number in base 64: the leading one on top of a mark, and `k` others on top of
    the mark of a byte that follows. -/
def digits (mark : Nat) : (k v : Nat) → List UInt8
  | 0, v => [UInt8.ofNat (mark + v)]
  | k + 1, v => digits mark k (v / 64) ++ [UInt8.ofNat (0x80 + v % 64)]

theorem ofNat_lt_ofNat {m n : Nat} (lt : m < n) (small : n < 256) :
    UInt8.ofNat m < UInt8.ofNat n := by
  rw [UInt8.lt_iff_toNat_lt, UInt8.toNat_ofNat_of_lt' (Nat.lt_trans lt small),
    UInt8.toNat_ofNat_of_lt' small]
  exact lt

/-- The greater number has the greater digits, whatever follows them. -/
theorem digits_append_lt {mark : Nat} : ∀ {k v w : Nat}, v < w → mark + w / 64 ^ k < 256 →
    ∀ rest rest', digits mark k v ++ rest < digits mark k w ++ rest'
  | 0, v, w, lt, small, _, _ => by
    rw [Nat.pow_zero, Nat.div_one] at small
    exact List.cons_lt_cons_iff.mpr (.inl (ofNat_lt_ofNat (by omega) small))
  | k + 1, v, w, lt, small, rest, rest' => by
    rw [Nat.pow_succ', ← Nat.div_div_eq_div_mul] at small
    rw [digits, digits, List.append_assoc, List.append_assoc]
    by_cases same : v / 64 = w / 64
    · have last : v % 64 < w % 64 := by omega
      rw [same]
      exact List.append_left_lt
        (List.cons_lt_cons_iff.mpr (.inl (ofNat_lt_ofNat (by omega) (by omega))))
    · exact digits_append_lt (by omega) small _ _

theorem digits_eq_cons (mark : Nat) :
    ∀ k v : Nat, ∃ others, digits mark k v = UInt8.ofNat (mark + v / 64 ^ k) :: others
  | 0, v => ⟨[], by rw [Nat.pow_zero, Nat.div_one]; rfl⟩
  | k + 1, v => by
    obtain ⟨others, first⟩ := digits_eq_cons mark k (v / 64)
    refine ⟨others ++ [UInt8.ofNat (0x80 + v % 64)], ?_⟩
    rw [digits, first, Nat.pow_succ', Nat.div_div_eq_div_mul]
    rfl

theorem toNat_lt (c : Char) : c.val.toNat < 0x110000 := by
  rcases c.valid with low | high
  · exact Nat.lt_trans low (by decide)
  · exact high.2

/-- The code of a character is its number in base 64. -/
theorem utf8EncodeChar_eq (c : Char) :
    String.utf8EncodeChar c =
      digits (mark (following c.val.toNat)) (following c.val.toNat) c.val.toNat := by
  have valid := toNat_lt c
  unfold String.utf8EncodeChar following
  generalize c.val.toNat = v at valid
  simp only
  -- the remainders of the leading digits cut nothing off
  split
  · simp only [digits, mark, Nat.zero_add]
  split
  · have leading : v / 64 % 32 + 192 = 192 + v / 64 := by omega
    simp only [digits, mark, leading, Nat.add_comm (_ % 64)]
    rfl
  split
  · have leading : v / 4096 % 16 + 224 = 224 + v / 64 / 64 := by omega
    simp only [digits, mark, leading, Nat.add_comm (_ % 64)]
    rfl
  · have leading : v / 262144 % 8 + 240 = 240 + v / 64 / 64 / 64 := by omega
    have second : v / 4096 % 64 = v / 64 / 64 % 64 := by omega
    simp only [digits, mark, leading, second, Nat.add_comm (_ % 64)]
    rfl

theorem following_lt_four (v : Nat) : following v < 4 := by
  unfold following
  repeat' split
  all_goals decide

theorem following_mono {v w : Nat} (le : v ≤ w) : following v ≤ following w := by
  unfold following
  repeat' split
  all_goals omega

theorem mark_mono {j k : Nat} (le : j ≤ k) : mark j ≤ mark k := by
  induction le with
  | refl => exact Nat.le_refl _
  | @step k _ ih =>
    refine Nat.le_trans ih ?_
    match k with
    | 0 | 1 | 2 | 3 => decide
    | _ + 4 => exact Nat.le_refl _

/-- The leading byte of a code is below those of longer ones. -/
theorem leading_lt {v k : Nat} (valid : v < 0x110000) (longer : following v < k) :
    mark (following v) + v / 64 ^ following v < mark k := by
  have next : mark (following v) + v / 64 ^ following v < mark (following v + 1) := by
    unfold following
    repeat' split
    all_goals simp only [mark]; omega
  exact Nat.lt_of_lt_of_le next (mark_mono longer)

/-- The code of a character is before that of a later one, whatever follows them. -/
theorem utf8EncodeChar_append_lt {c d : Char} (before : c < d) (rest rest' : List UInt8) :
    String.utf8EncodeChar c ++ rest < String.utf8EncodeChar d ++ rest' := by
  have lt : c.val.toNat < d.val.toNat := before
  have valid := toNat_lt d
  rw [utf8EncodeChar_eq, utf8EncodeChar_eq]
  generalize c.val.toNat = v at lt
  generalize d.val.toNat = w at lt valid
  have small : mark (following w) + w / 64 ^ following w < 256 :=
    Nat.lt_trans (leading_lt valid (following_lt_four w)) (by decide)
  rcases Nat.lt_or_eq_of_le (following_mono (Nat.le_of_lt lt)) with shorter | same
  · obtain ⟨others, first⟩ := digits_eq_cons (mark (following v)) (following v) v
    obtain ⟨others', first'⟩ := digits_eq_cons (mark (following w)) (following w) w
    have leading := Nat.lt_of_lt_of_le (leading_lt (Nat.lt_trans lt valid) shorter)
      (Nat.le_add_right _ (w / 64 ^ following w))
    rw [first, first']
    exact List.cons_lt_cons_iff.mpr (.inl (ofNat_lt_ofNat leading small))
  · rw [same]
    exact digits_append_lt lt small _ _

theorem flatMap_utf8EncodeChar_lt :
    ∀ {l l' : List Char}, l < l' →
      l.flatMap String.utf8EncodeChar < l'.flatMap String.utf8EncodeChar
  | [], d :: l', _ => by
    have some? : (d :: l').flatMap String.utf8EncodeChar ≠ [] := by
      simp [String.utf8EncodeChar_ne_nil]
    obtain ⟨b, bs, same⟩ := List.exists_cons_of_ne_nil some?
    rw [same]
    exact List.nil_lt_cons b bs
  | c :: l, d :: l', lt => by
    rw [List.flatMap_cons, List.flatMap_cons]
    rcases List.cons_lt_cons_iff.mp lt with before | ⟨rfl, later⟩
    · exact utf8EncodeChar_append_lt before _ _
    · exact List.append_left_lt (flatMap_utf8EncodeChar_lt later)

end Utf8

theorem bytes_eq (text : String) : bytes text = text.toList.flatMap String.utf8EncodeChar := by
  have encoded : text.toUTF8 = text.toList.utf8Encode := by
    rw [String.toUTF8_eq_toByteArray, ← String.toByteArray_ofList, String.ofList_toList]
  rw [bytes, encoded, List.utf8Encode, List.data_toByteArray]

/-- A text before another one is before it byte by byte. -/
theorem bytes_lt_bytes {a b : String} (lt : a < b) : bytes a < bytes b := by
  rw [bytes_eq, bytes_eq]
  exact Utf8.flatMap_utf8EncodeChar_lt lt

/-- What is sorted by distinct texts goes up strictly. -/
theorem pairwise_lt_mergeSort {α : Type} {key : α → String} {l : List α}
    (distinct : (l.map key).Nodup) :
    (l.mergeSort fun a b => key a ≤ key b).Pairwise fun a b => key a < key b := by
  have sorted : (l.mergeSort fun a b => key a ≤ key b).Pairwise
      fun a b => decide (key a ≤ key b) = true := by
    refine List.pairwise_mergeSort (fun a b c ab bc => ?_) (fun a b => ?_) _
    · exact decide_eq_true (String.le_trans (of_decide_eq_true ab) (of_decide_eq_true bc))
    · simpa using String.le_total (key a) (key b)
  have different : ((l.mergeSort fun a b => key a ≤ key b).map key).Nodup :=
    ((List.mergeSort_perm _ _).map key).nodup_iff.mpr distinct
  refine (List.pairwise_map.mp different).imp₂ (fun a b differs le => ?_) sorted
  exact String.not_le.mp fun ge => differs (String.le_antisymm (of_decide_eq_true le) ge)

end MiniScheme.Text
