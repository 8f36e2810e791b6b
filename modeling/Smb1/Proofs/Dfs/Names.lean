import Mathlib.Data.List.TakeWhile
import Smb1.Proofs.Dfs.Covering
import Smb1.Proofs.Text.Case

/-! The server and the share that a path names. They are named by every longer path, by the path cut
off anywhere behind the share, and in lower case by the path in lower case. -/
namespace Smb1.Dfs

open Lookup (serverAndShare? trimKey)
open Text.Case (lowerFrom)

variable {chars front rest path server share : List Char}

theorem ne_separator (whole : '\\' ∉ chars) : ∀ c ∈ chars, (c != separator) = true := by
  intro c among
  refine bne_iff_ne.mpr ?_
  rintro rfl
  exact whole among

theorem cut_of_not_mem (whole : '\\' ∉ chars) : cut chars = (chars, []) := by
  have before := ne_separator whole
  rw [cut, List.takeWhile_eq_self_iff.mpr before, List.dropWhile_eq_nil_iff.mpr before]
  rfl

theorem cut_append (rest : List Char) (whole : '\\' ∉ front) :
    cut (front ++ '\\' :: rest) = (front, rest) := by
  have before := ne_separator whole
  have here : ('\\' != separator) = false := rfl
  rw [cut, List.takeWhile_append_of_pos before, List.dropWhile_append_of_pos before,
    List.takeWhile_cons, List.dropWhile_cons, here]
  simp

theorem cut_cases (chars : List Char) :
    ('\\' ∉ chars ∧ cut chars = (chars, [])) ∨
      ∃ front rest, chars = front ++ '\\' :: rest ∧ '\\' ∉ front ∧ cut chars = (front, rest) := by
  by_cases among : '\\' ∈ chars
  · obtain ⟨front, rest, rfl, whole⟩ := List.eq_append_cons_of_mem among
    exact .inr ⟨front, rest, rfl, whole, cut_append rest whole⟩
  · exact .inl ⟨among, cut_of_not_mem among⟩

theorem cut_fst_append (chars rest : List Char) :
    (cut (chars ++ '\\' :: rest)).1 = (cut chars).1 := by
  obtain ⟨whole, same⟩ | ⟨front, more, rfl, whole, same⟩ := cut_cases chars
  · rw [same, cut_append rest whole]
  · rw [same, List.append_assoc, List.cons_append, cut_append _ whole]

theorem cut_lowerFrom (chars : List Char) :
    cut (lowerFrom [] chars) = (lowerFrom [] (cut chars).1, lowerFrom [] (cut chars).2) := by
  obtain ⟨whole, same⟩ | ⟨front, rest, rfl, whole, same⟩ := cut_cases chars
  · rw [same, cut_of_not_mem (Text.Case.not_mem_lowerFrom [] whole)]
    rfl
  · rw [same, Text.Case.lowerFrom_separator, cut_append _ (Text.Case.not_mem_lowerFrom [] whole)]

/-- A path names a server and a share. -/
def Names (path server share : List Char) : Prop :=
  ∃ rest, path = '\\' :: (server ++ '\\' :: rest) ∧ '\\' ∉ server ∧ server ≠ [] ∧
    (cut rest).1 = share ∧ share ≠ []

theorem serverAndShare?_eq_some {path server share : String} :
    serverAndShare? path = some (server, share) ↔
      Names path.toList server.toList share.toList := by
  unfold serverAndShare?
  cases path.toList with
  | nil => exact iff_of_false nofun fun ⟨_, same, _⟩ => nomatch same
  | cons first chars =>
    obtain ⟨whole, same⟩ | ⟨front, rest, rfl, whole, same⟩ := cut_cases chars
    · simp only [same]
      constructor
      · intro named
        split at named
        next ends => exact absurd rfl ends.2.2
        next => cases named
      · rintro ⟨rest, same, -⟩
        rw [(List.cons.inj same).2] at whole
        exact absurd (List.mem_append_right _ (.head _)) whole
    · simp only [same]
      constructor
      · intro named
        split at named
        next ends =>
          obtain ⟨rfl, server_ne, share_ne⟩ := ends
          cases named
          rw [String.toList_ofList, String.toList_ofList]
          exact ⟨rest, rfl, whole, server_ne, rfl, share_ne⟩
        next => cases named
      · rintro ⟨more, same, apart, server_ne, share_eq, share_ne⟩
        obtain ⟨rfl, behind⟩ := List.cons.inj same
        have parts := congrArg cut behind
        rw [cut_append rest whole, cut_append more apart] at parts
        obtain ⟨rfl, rfl⟩ := Prod.mk.inj parts
        rw [if_pos ⟨rfl, server_ne, share_eq ▸ share_ne⟩, share_eq, String.ofList_toList,
          String.ofList_toList]

namespace Names

/-- A path names one server and one share. -/
theorem unique {server' share' : List Char} (names : Names path server share)
    (names' : Names path server' share') : server = server' ∧ share = share' := by
  obtain ⟨rest, rfl, whole, -, rfl, -⟩ := names
  obtain ⟨rest', same, whole', -, rfl, -⟩ := names'
  have parts := congrArg cut (List.cons.inj same).2
  rw [cut_append rest whole, cut_append rest' whole'] at parts
  obtain ⟨rfl, rfl⟩ := Prod.mk.inj parts
  exact ⟨rfl, rfl⟩

theorem lower (names : Names path server share) :
    Names (lowerFrom [] path) (lowerFrom [] server) (lowerFrom [] share) := by
  obtain ⟨rest, rfl, whole, server_ne, rfl, share_ne⟩ := names
  refine ⟨lowerFrom [] rest, ?_, Text.Case.not_mem_lowerFrom [] whole, ?_, ?_, ?_⟩
  · have first := Text.Case.lowerFrom_separator [] [] (server ++ '\\' :: rest)
    rw [List.nil_append] at first
    rw [first, Text.Case.lowerFrom_separator]
    rfl
  · exact mt Text.Case.lowerFrom_eq_nil_iff.mp server_ne
  · rw [cut_lowerFrom]
  · exact mt Text.Case.lowerFrom_eq_nil_iff.mp share_ne

/-- What a path in lower case names is what the path names, in lower case. -/
theorem of_lower (names : Names (lowerFrom [] path) server share) :
    ∃ server' share', Names path server' share' ∧ lowerFrom [] server' = server ∧
      lowerFrom [] share' = share := by
  obtain ⟨rest, same, whole, server_ne, rfl, share_ne⟩ := names
  have parts := cut_lowerFrom path
  rw [same] at parts
  have first := cut_append (server ++ '\\' :: rest) (List.not_mem_nil (a := '\\'))
  rw [List.nil_append] at first
  rw [first] at parts
  obtain ⟨before, behind⟩ := Prod.mk.inj parts
  obtain ⟨-, alone⟩ | ⟨front, chars, rfl, -, split⟩ := cut_cases path
  · rw [alone] at behind
    exact absurd behind (by simp [lowerFrom])
  · rw [split] at before behind
    obtain rfl := Text.Case.lowerFrom_eq_nil_iff.mp before.symm
    have parts := cut_lowerFrom chars
    rw [← behind, cut_append rest whole] at parts
    obtain ⟨rfl, rfl⟩ := Prod.mk.inj parts
    obtain ⟨whole', -⟩ | ⟨front, more, rfl, apart, split⟩ := cut_cases chars
    · have none := Text.Case.not_mem_lowerFrom [] whole'
      rw [← behind] at none
      exact absurd (List.mem_append_right _ (.head _)) none
    · rw [split] at server_ne share_ne ⊢
      refine ⟨front, (cut more).1, ⟨more, rfl, apart, ?_, rfl, ?_⟩, rfl, by rw [cut_lowerFrom]⟩
      · exact mt Text.Case.lowerFrom_eq_nil_iff.mpr server_ne
      · rw [cut_lowerFrom] at share_ne
        exact mt Text.Case.lowerFrom_eq_nil_iff.mpr share_ne

/-- A path that is cut off behind its share still names it. -/
theorem take {count : Nat} (names : Names path server share)
    (behind : 1 + server.length + 1 + share.length ≤ count) :
    Names (path.take count) server share := by
  obtain ⟨rest, rfl, whole, server_ne, rfl, share_ne⟩ := names
  obtain ⟨k, rfl⟩ := Nat.exists_eq_add_of_le' (show 1 + server.length + 1 ≤ count by omega)
  refine ⟨rest.take k, ?_, whole, server_ne, ?_, share_ne⟩
  · rw [show k + (1 + server.length + 1) = (server.length + (k + 1)) + 1 by omega,
      List.take_succ_cons, List.take_append, List.take_of_length_le (by omega),
      show server.length + (k + 1) - server.length = k + 1 by omega, List.take_succ_cons]
  · obtain ⟨alone, same⟩ | ⟨front, more, rfl, apart, same⟩ := cut_cases rest
    · rw [same] at behind ⊢
      dsimp only at behind
      rw [List.take_of_length_le (by omega), same]
    · rw [same] at behind ⊢
      dsimp only at behind
      obtain ⟨j, rfl⟩ := Nat.exists_eq_add_of_le (show front.length ≤ k by omega)
      rw [List.take_append, List.take_of_length_le (by omega), Nat.add_sub_cancel_left]
      cases j with
      | zero => rw [List.take_zero, List.append_nil, cut_of_not_mem apart]
      | succ j => rw [List.take_succ_cons, cut_append _ apart]

/-- A longer path names the same. -/
theorem append (more : List Char) (names : Names path server share) :
    Names (path ++ '\\' :: more) server share := by
  obtain ⟨rest, rfl, whole, server_ne, rfl, share_ne⟩ := names
  exact ⟨rest ++ '\\' :: more, by simp, whole, server_ne, cut_fst_append rest more, share_ne⟩

theorem of_concat (names : Names (path ++ ['\\']) server share) : Names path server share := by
  obtain ⟨rest, same, whole, server_ne, rfl, share_ne⟩ := names
  obtain rfl | ⟨front, last, rfl⟩ := List.eq_nil_or_concat rest
  · exact absurd rfl share_ne
  · have parts : path ++ ['\\'] = '\\' :: (server ++ '\\' :: front) ++ [last] := by
      rw [same]
      simp
    obtain ⟨rfl, ends⟩ := List.append_inj' parts rfl
    obtain rfl := List.singleton_inj.mp ends
    rw [List.concat_eq_append, cut_fst_append] at share_ne ⊢
    exact ⟨front, rfl, whole, server_ne, rfl, share_ne⟩

theorem of_append_replicate {count : Nat}
    (names : Names (path ++ List.replicate count '\\') server share) :
    Names path server share := by
  induction count with
  | zero => rwa [List.replicate_zero, List.append_nil] at names
  | succ count ih =>
    rw [List.replicate_succ', ← List.append_assoc] at names
    exact ih names.of_concat

end Names

theorem exists_eq_trimEnd (chars : List Char) :
    ∃ count, chars = trimEnd chars ++ List.replicate count '\\' := by
  refine ⟨(chars.reverse.takeWhile (· == separator)).length, ?_⟩
  have all : chars.reverse.takeWhile (· == separator) =
      List.replicate (chars.reverse.takeWhile (· == separator)).length '\\' :=
    List.eq_replicate_iff.mpr ⟨rfl, fun c among => by
      have here := List.mem_takeWhile_imp among
      exact eq_of_beq here⟩
  have whole := congrArg List.reverse
    (List.takeWhile_append_dropWhile (p := (· == separator)) (l := chars.reverse))
  rw [List.reverse_append, List.reverse_reverse, all, List.reverse_replicate] at whole
  exact whole.symm

/-- What a path names is not among the separators at its end. -/
theorem Names.trimKey (names : Names path server share) :
    Names (Lookup.trimKey path) server share := by
  obtain ⟨rest, rfl, -⟩ := id names
  obtain ⟨count, trimmed⟩ := exists_eq_trimEnd (server ++ '\\' :: rest)
  rw [trimmed, ← List.cons_append] at names
  exact names.of_append_replicate

end Smb1.Dfs
