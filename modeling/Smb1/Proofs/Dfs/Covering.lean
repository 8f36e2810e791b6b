import Mathlib.Data.List.Induction
import Smb1.Dfs.Resolver

/-! Keys and the paths that they cover. The keys that cover a path are prefixes of it, so that they
lie in a row and no two of them are equally long. -/
namespace Smb1.Dfs

open Lookup (covers longest)

/-- A key is a path itself or one of the directories above it. -/
def Covers (key path : String) : Prop := path = key ∨ ∃ rest, path = key ++ "\\" ++ rest

variable {key other path : String}

theorem covers_iff : covers key path = true ↔ Covers key path := by
  have behind : ∀ rest, (key ++ "\\" ++ rest).toList = key.toList ++ '\\' :: rest.toList := by
    intro rest
    simp only [String.toList_append, List.append_assoc]
    rfl
  unfold covers
  rw [Bool.and_eq_true, List.isPrefixOf_iff_prefix]
  constructor
  · rintro ⟨⟨tail, whole⟩, ends⟩
    rw [← whole, ← String.length_toList, List.drop_left] at ends
    cases tail with
    | nil =>
      rw [List.append_nil] at whole
      exact .inl (String.toList_inj.mp whole).symm
    | cons next rest =>
      obtain rfl : next = '\\' := by simpa [separator] using ends
      exact .inr ⟨String.ofList rest, by
        rw [← String.toList_inj, behind, String.toList_ofList, whole]⟩
  · rintro (rfl | ⟨rest, rfl⟩)
    · exact ⟨List.prefix_refl _, by rw [← String.length_toList, List.drop_length]; rfl⟩
    · rw [behind, ← String.length_toList, List.drop_left]
      exact ⟨List.prefix_append _ _, rfl⟩

theorem Covers.append (covered : Covers key path) : ∃ rest, path = key ++ rest := by
  obtain rfl | ⟨rest, rfl⟩ := covered
  · exact ⟨"", String.append_empty.symm⟩
  · exact ⟨"\\" ++ rest, String.append_assoc⟩

/-- Of two keys that cover a path one is a prefix of the other. -/
theorem Covers.append_or_append (covered : Covers key path) (same : Covers other path) :
    (∃ rest, other = key ++ rest) ∨ ∃ rest, key = other ++ rest := by
  have inOrder : ∀ {a b : String}, a.toList <+: b.toList → ∃ rest, b = a ++ rest := by
    rintro a b ⟨rest, whole⟩
    exact ⟨String.ofList rest, by
      rw [← String.toList_inj, String.toList_append, String.toList_ofList, whole]⟩
  obtain ⟨tail, whole⟩ := covered.append
  obtain ⟨tail', whole'⟩ := same.append
  have first : key.toList <+: path.toList := ⟨tail.toList, by rw [whole, String.toList_append]⟩
  have second : other.toList <+: path.toList := ⟨tail'.toList, by rw [whole', String.toList_append]⟩
  exact (List.prefix_or_prefix_of_prefix first second).imp inOrder inOrder

theorem Covers.length_le (covered : Covers key path) (same : Covers other path)
    (size : key.utf8ByteSize ≤ other.utf8ByteSize) : key.length ≤ other.length := by
  obtain ⟨rest, rfl⟩ | ⟨rest, rfl⟩ := covered.append_or_append same
  · rw [String.length_append]
    exact Nat.le_add_right ..
  · rw [String.utf8ByteSize_append] at size
    obtain rfl : rest = "" := String.utf8ByteSize_eq_zero_iff.mp (by omega)
    exact Nat.le_of_eq (by rw [String.append_empty])

theorem Covers.eq_of_length_eq (covered : Covers key path) (same : Covers other path)
    (length : key.length = other.length) : key = other := by
  obtain ⟨rest, rfl⟩ | ⟨rest, rfl⟩ := covered.append_or_append same <;>
  · rw [String.length_append] at length
    obtain rfl : rest = "" := String.length_eq_zero_iff.mp (by omega)
    rw [String.append_empty]

theorem longest_concat (keys : List String) (key : String) :
    longest (keys ++ [key]) =
      match longest keys with
      | some other => if other.utf8ByteSize ≤ key.utf8ByteSize then some key else some other
      | none => some key := by
  simp only [longest, List.foldl_append, List.foldl_cons, List.foldl_nil]
  split <;> simp_all

theorem longest_spec (keys : List String) :
    match longest keys with
    | none => keys = []
    | some key => key ∈ keys ∧ ∀ other ∈ keys, other.utf8ByteSize ≤ key.utf8ByteSize := by
  induction keys using List.reverseRecOn with
  | nil => rfl
  | append_singleton keys key ih =>
    rw [longest_concat]
    cases best : longest keys with
    | none =>
      rw [best] at ih
      simp [ih]
    | some other =>
      rw [best] at ih
      obtain ⟨member, most⟩ := ih
      dsimp only
      by_cases more : other.utf8ByteSize ≤ key.utf8ByteSize
      · rw [if_pos more]
        refine ⟨by simp, fun k among => ?_⟩
        rcases List.mem_append.mp among with earlier | last
        · exact Nat.le_trans (most k earlier) more
        · exact Nat.le_of_eq (by rw [List.mem_singleton.mp last])
      · rw [if_neg more]
        refine ⟨List.mem_append_left _ member, fun k among => ?_⟩
        rcases List.mem_append.mp among with earlier | last
        · exact most k earlier
        · rw [List.mem_singleton.mp last]
          omega

end Smb1.Dfs
