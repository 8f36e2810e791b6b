import Smb1.Proofs.Message.Link

/-! A chain is read back link by link. Each offset was written before the bytes it points to, and
leads there. -/
namespace Smb1.Chain

open Wire

variable {config : Config} {response : Bool}

theorem next?_eq_some {level : Nat} {b next : Body} {rest : List Body}
    (h : next? config response level b rest = some next) :
    b.isAndX = true ∧ ∃ tail, rest = next :: tail := by
  cases rest with
  | nil => simp [next?] at h
  | cons other tail =>
    simp only [next?] at h
    split at h
    next permitted =>
      cases h
      simp only [Bool.and_eq_true] at permitted
      exact ⟨permitted.1, tail, rfl⟩
    next => cases h

theorem carried_pos (config : Config) (response : Bool) (level : Nat) (b : Body)
    (rest : List Body) : 0 < carried config response level (b :: rest) := by
  simp only [carried]
  split <;> omega

theorem encode_of_none {level : Nat} {b : Body} {rest : List Body}
    (last : next? config response level b rest = none) :
    encode config response level (b :: rest) = link b none := by
  simp only [encode, last]

theorem carried_of_none {level : Nat} {b : Body} {rest : List Body}
    (last : next? config response level b rest = none) :
    carried config response level (b :: rest) = 1 := by
  simp only [carried, last, Option.isSome_none, Bool.false_eq_true, if_false]

theorem encode_of_some {level : Nat} {b next : Body} {rest : List Body}
    (successor : next? config response level b rest = some next) :
    encode config response level (b :: rest) =
      link b (some next.command) ++ encode config response (level + 1) rest := by
  simp only [encode, successor]

theorem carried_of_some {level : Nat} {b next : Body} {rest : List Body}
    (successor : next? config response level b rest = some next) :
    carried config response level (b :: rest) = carried config response (level + 1) rest + 1 := by
  rw [carried, successor, Option.isSome_some, if_pos rfl]

theorem carried_le (config : Config) (response : Bool) (level : Nat) (bodies : List Body) :
    carried config response level bodies ≤ bodies.length := by
  induction bodies generalizing level with
  | nil => exact Nat.le_refl 0
  | cons b rest ih =>
    have := ih (level + 1)
    simp only [carried, List.length_cons]
    split <;> omega

/-- The links of some bodies, each of which names the one behind it. -/
def joined : List Body → Encoder
  | [] => ∅
  | [b] => link b none
  | b :: next :: rest => link b (some next.command) ++ joined (next :: rest)

/-- The bodies that share a frame are joined there, and nothing else is. -/
theorem encode_eq_joined (config : Config) (response : Bool) (level : Nat) (bodies : List Body) :
    encode config response level bodies =
      joined (bodies.take (carried config response level bodies)) := by
  induction bodies generalizing level with
  | nil => rfl
  | cons b rest ih =>
    cases successor : next? config response level b rest with
    | none => rw [encode_of_none successor, carried_of_none successor]; rfl
    | some next =>
      obtain ⟨-, tail, rfl⟩ := next?_eq_some successor
      obtain ⟨links, count⟩ : ∃ n, carried config response (level + 1) (next :: tail) = n + 1 :=
        ⟨_, (Nat.succ_pred_eq_of_pos (carried_pos ..)).symm⟩
      rw [encode_of_some successor, carried_of_some successor, ih, count]
      rfl

theorem decode_last {status : UInt32} {t r : Body} {rest : List Body} {reader reader' : Reader}
    (read : readLink t reader = (r, .ok (none, reader'))) :
    decode status (t :: rest) reader = (r :: rest, .ok (1, reader')) := by
  simp only [decode, read]

/-- Where the named successor waits, reading goes on where the block says. -/
theorem decode_next {t r next : Body} {rest : List Body} {reader reader' : Reader} {code : UInt8}
    {offset : Nat} (waiting : next.command.code = code)
    (read : readLink t reader = (r, .ok (some ⟨code, offset⟩, reader'))) :
    decode 0 (t :: next :: rest) reader =
      (r :: (decode 0 (next :: rest) (reader'.seek offset)).1,
        (decode 0 (next :: rest) (reader'.seek offset)).2.map fun (links, reader) =>
          (links + 1, reader)) := by
  rw [decode, read]
  simp [waiting]

/-- The links that a frame carries come back in order, from wherever the chain starts. -/
theorem decode_encode_chain {unicode : Bool} (bodies : List Body) (nonempty : bodies ≠ [])
    (shown : ∀ b ∈ bodies, b.Expressible unicode ∧ b.command ≠ .noAndXCommand) (level : Nat)
    {start : Nat} {before : Bytes} (after : Bytes) (len : before.length = start)
    (fits : start + ((encode config response level bodies).bytesAt start unicode).length ≤ 0xFFFF)
    (bound : (before ++ (encode config response level bodies).bytesAt start unicode ++
      after).length < Wire.memoryLimit) :
    let buffer := before ++ (encode config response level bodies).bytesAt start unicode ++ after
    ∃ received, decode 0 ((bodies.take (carried config response level bodies)).map Body.fresh)
        ⟨buffer, start, unicode⟩ =
      (received, .ok (carried config response level bodies,
        ⟨buffer, start + ((encode config response level bodies).bytesAt start unicode).length,
          unicode⟩)) ∧
      received.map Body.onWire =
        (bodies.take (carried config response level bodies)).map Body.onWire := by
  induction bodies generalizing level start before with
  | nil => exact absurd rfl nonempty
  | cons b rest ih =>
    obtain ⟨expressible, own⟩ := shown b List.mem_cons_self
    have small := b.wordCount_le expressible
    cases successor : next? config response level b rest with
    | none =>
      simp only [encode_of_none successor, carried_of_none successor] at fits bound ⊢
      rw [length_link] at fits ⊢
      obtain ⟨mid, r, takes, same⟩ : ∃ mid r, b.fresh.Takes (wordsStart b start) unicode b mid r ∧
          r.onWire = b.onWire := Body.takes_fresh expressible fits
      have followed : Followed b none (stop b start unicode) := ⟨nofun, nofun, fits⟩
      have read := readLink_eq takes small followed after len bound
      exact ⟨[r], decode_last read, congrArg (fun b => [b]) same⟩
    | some next =>
      obtain ⟨chained, tail, rfl⟩ := next?_eq_some successor
      have more := carried_of_some successor
      obtain ⟨links, count⟩ : ∃ n, carried config response (level + 1) (next :: tail) = n + 1 :=
        ⟨_, (Nat.succ_pred_eq_of_pos (carried_pos ..)).symm⟩
      have ends := length_link b (some next.command) start unicode
      rw [encode_of_some successor, Encoder.bytesAt_append, ends] at fits bound ⊢
      rw [List.length_append, ← Nat.add_assoc, ends] at fits ⊢
      have stops : stop b start unicode ≤ 0xFFFF := by omega
      obtain ⟨mid, r, takes, same⟩ : ∃ mid r, b.fresh.Takes (wordsStart b start) unicode b mid r ∧
          r.onWire = b.onWire := Body.takes_fresh expressible stops
      have followed : Followed b (some next.command) (stop b start unicode) := by
        refine ⟨fun _ => chained, fun command member => ?_, stops⟩
        cases member
        exact (shown next (by simp)).2
      have read := readLink_eq takes small followed
        ((encode config response (level + 1) (next :: tail)).bytesAt (stop b start unicode) unicode ++
          after) len (by simpa only [List.append_assoc] using bound)
      have reached : (before ++ (link b (some next.command)).bytesAt start unicode).length =
          stop b start unicode := by rw [List.length_append, len, ends]
      obtain ⟨received, decoded, rest_same⟩ := ih (by simp)
        (fun b member => shown b (List.mem_cons_of_mem _ member)) (level + 1) reached fits
        (by simpa only [List.append_assoc] using bound)
      have waiting := congrArg Command.code (Body.command_fresh (shown next (by simp)).1)
      rw [count, List.take_succ_cons, List.map_cons] at decoded
      rw [Option.map_some] at read
      refine ⟨r :: received, ?_, ?_⟩
      · rw [more, count, List.take_succ_cons, List.take_succ_cons, List.map_cons, List.map_cons]
        simp only [← List.append_assoc] at read decoded ⊢
        rw [decode_next waiting read]
        simp only [Reader.seek, decoded]
        rfl
      · rw [more, List.take_succ_cons, List.map_cons, List.map_cons, same, rest_same]

end Smb1.Chain
