import Smb1.Proofs.Message.Extends

/-! What a successful decode has read: a header, and link after link what the templates became. Each
link lies where the one before it leads. -/
namespace Smb1

open Wire

namespace Chain

variable {status : UInt32} {templates received : List Body} {links : Nat} {r r' : Reader}

/-- What a chain is read into: the bodies, how many links there were, and the cursor behind them. -/
inductive Decodes (status : UInt32) :
    List Body → Reader → (received : List Body) → (links : Nat) → Reader → Prop
  | last {b c : Body} {rest : List Body} {successor : Option Successor} {r r' : Reader}
      (link : readLink b r = (c, .ok (successor, r'))) (ends : successor = none ∨ status ≠ 0) :
      Decodes status (b :: rest) r (c :: rest) 1 r'
  | next {b c next : Body} {rest received : List Body} {successor : Successor} {links : Nat}
      {r mid r' : Reader} (link : readLink b r = (c, .ok (some successor, mid)))
      (success : status = 0) (waiting : next.command.code = successor.code)
      (others : Decodes status (next :: rest) (mid.seek successor.offset) received links r') :
      Decodes status (b :: next :: rest) r (c :: received) (links + 1) r'

theorem decode_of_decodes (h : Decodes status templates r received links r') :
    decode status templates r = (received, .ok (links, r')) := by
  induction h with
  | @last b c rest successor r r' link ends =>
    rw [decode, link]
    cases successor with
    | none => rfl
    | some successor => exact if_pos (ends.resolve_left nofun)
  | next link success waiting _ ih =>
    rw [decode, link]
    dsimp only
    rw [if_neg (not_not_intro success), if_neg (not_not_intro waiting), ih]
    rfl

theorem decodes_of_decode (h : decode status templates r = (received, .ok (links, r'))) :
    Decodes status templates r received links r' := by
  induction templates generalizing received links r r' with
  | nil => cases h
  | cons b rest ih =>
    rw [decode] at h
    split at h
    · cases h
    next c mid link =>
      cases h
      exact .last link (.inl rfl)
    next c successor mid link =>
      split at h
      next failed =>
        cases h
        exact .last link (.inr failed)
      next success =>
        cases rest with
        | nil => cases h
        | cons next rest =>
          dsimp only at h
          split at h
          · cases h
          next waiting =>
            cases others : decode status (next :: rest) (mid.seek successor.offset) with
            | mk received outcome =>
              rw [others] at h
              cases outcome with
              | error e => cases h
              | ok got =>
                cases h
                exact .next link (Decidable.of_not_not success) (Decidable.of_not_not waiting)
                  (ih others)

theorem Decodes.links_le (h : Decodes status templates r received links r') :
    links ≤ templates.length := by
  induction h with
  | last => exact Nat.succ_le_succ (Nat.zero_le _)
  | next _ _ _ _ ih => exact Nat.succ_le_succ ih

theorem Decodes.length_eq (h : Decodes status templates r received links r') :
    received.length = templates.length := by
  induction h with
  | last => rfl
  | next _ _ _ _ ih => exact congrArg Nat.succ ih

/-- The templates behind the links are as they were. -/
theorem Decodes.drop_eq (h : Decodes status templates r received links r') :
    received.drop links = templates.drop links := by
  induction h with
  | last => rfl
  | next _ _ _ _ ih => exact ih

/-- The cursor at which the link behind another is read, if it is. -/
def onward? (status : UInt32) (b : Body) (rest : List Body) (reader : Reader) : Option Reader :=
  match readLink b reader, rest with
  | (_, .ok (some successor, reader)), next :: _ =>
    if status = 0 ∧ next.command.code = successor.code then some (reader.seek successor.offset)
    else none
  | _, _ => none

theorem onward?_of_readLink {b c next : Body} {rest : List Body} {successor : Successor}
    {mid : Reader} (link : readLink b r = (c, .ok (some successor, mid))) (success : status = 0)
    (waiting : next.command.code = successor.code) :
    onward? status b (next :: rest) r = some (mid.seek successor.offset) := by
  rw [onward?.eq_def, link]
  exact if_pos ⟨success, waiting⟩

theorem fst_decode_cons (status : UInt32) (b : Body) (rest : List Body) (reader : Reader) :
    (decode status (b :: rest) reader).1 = (readLink b reader).1 ::
      (onward? status b rest reader).elim rest fun reader => (decode status rest reader).1 := by
  rw [decode, onward?.eq_def]
  rcases readLink b reader with ⟨c, e | ⟨_ | successor, behind⟩⟩
  · rfl
  · rfl
  cases rest with
  | nil =>
    dsimp only
    split <;> rfl
  | cons next rest =>
    dsimp only
    by_cases success : status = 0
    · by_cases named : next.command.code = successor.code <;> simp [success, named]
    · simp [success]

/-- The cursor at which the link at an index is read, as far as the chain is. -/
def linkAt? (status : UInt32) : List Body → Reader → Nat → Option Reader
  | [], _, _ => none
  | _ :: _, reader, 0 => some reader
  | b :: rest, reader, index + 1 =>
    (onward? status b rest reader).bind fun reader => linkAt? status rest reader index

/-- Every body becomes what its own link makes of it, and stays as it was without one. -/
theorem getElem?_decode (status : UInt32) {bodies : List Body} (reader : Reader) {index : Nat}
    {b : Body} (waiting : bodies[index]? = some b) :
    (decode status bodies reader).1[index]? =
      some ((linkAt? status bodies reader index).elim b fun reader => (readLink b reader).1) := by
  induction bodies generalizing reader index with
  | nil => cases waiting
  | cons first rest ih =>
    rw [fst_decode_cons]
    cases index with
    | zero =>
      cases waiting
      rfl
    | succ index =>
      rw [List.getElem?_cons_succ] at waiting ⊢
      rw [linkAt?]
      cases onward? status first rest reader with
      | none => exact waiting
      | some reader => exact ih reader waiting

theorem buffer_of_onward? {status : UInt32} {b : Body} {rest : List Body} {reader next : Reader}
    (goes : onward? status b rest reader = some next) : next.buffer = reader.buffer := by
  unfold onward? at goes
  rcases link : readLink b reader with ⟨c, e | ⟨_ | successor, behind⟩⟩ <;> rw [link] at goes
  · cases goes
  · cases goes
  cases rest with
  | nil => cases goes
  | cons waiting rest =>
    dsimp only at goes
    split at goes
    · cases goes
      rw [(readLink_extended link).1]
      rfl
    · cases goes

theorem buffer_of_linkAt? {status : UInt32} {bodies : List Body} {reader found : Reader}
    {index : Nat} (link : linkAt? status bodies reader index = some found) :
    found.buffer = reader.buffer := by
  induction bodies generalizing reader index with
  | nil => cases link
  | cons first rest ih =>
    cases index with
    | zero =>
      cases link
      rfl
    | succ index =>
      obtain ⟨next, goes, link⟩ := Option.bind_eq_some_iff.mp link
      rw [ih link, buffer_of_onward? goes]

/-- Each link was read where the chain leads to it, into the template in its place. -/
theorem Decodes.exists_link (h : Decodes status templates r received links r') {index : Nat}
    (inside : index < links) : ∃ template b reader successor behind,
      templates[index]? = some template ∧ received[index]? = some b ∧
        linkAt? status templates r index = some reader ∧
        readLink template reader = (b, .ok (successor, behind)) := by
  induction h generalizing index with
  | last link _ =>
    obtain rfl := Nat.lt_one_iff.mp inside
    exact ⟨_, _, _, _, _, rfl, rfl, rfl, link⟩
  | next link success waiting _ ih =>
    cases index with
    | zero => exact ⟨_, _, _, _, _, rfl, rfl, rfl, link⟩
    | succ index =>
      rw [linkAt?, onward?_of_readLink link success waiting]
      exact ih (Nat.lt_of_succ_lt_succ inside)

/-- The chain leads no further than it was read. -/
theorem Decodes.linkAt?_eq_none (h : Decodes status templates r received links r') {index : Nat}
    (outside : links ≤ index) : linkAt? status templates r index = none := by
  induction h generalizing index with
  | @last b c rest successor r r' link ends =>
    obtain ⟨index, rfl⟩ := Nat.exists_eq_add_of_le' outside
    have stops : onward? status b rest r = none := by
      rw [onward?.eq_def, link]
      obtain rfl | failed := ends
      · rfl
      · cases successor with
        | none => rfl
        | some successor =>
          cases rest with
          | nil => rfl
          | cons next rest => exact if_neg fun goes => failed goes.1
    rw [linkAt?, stops, Option.bind_none]
  | next link success waiting _ ih =>
    cases index with
    | zero => cases outside
    | succ index =>
      rw [linkAt?, onward?_of_readLink link success waiting]
      exact ih (Nat.le_of_succ_le_succ outside)

end Chain

namespace Message

/-- What a successful decode has read. -/
theorem decode_eq_ok_iff {m received : Message} {frame : Bytes} :
    m.decode frame = (received, .ok ()) ↔
      ∃ header rest head others bodies links reader, Header.decode frame = .ok (header, rest) ∧
        m.bodies = head :: others ∧ head.command = header.command ∧
        Chain.Decodes header.status m.bodies
          ((Reader.start frame header.isUnicode).seek Header.length) bodies links reader ∧
        received = { m with header, bodies, links, length := reader.position } := by
  constructor
  · intro h
    unfold decode at h
    split at h
    · cases h
    next header rest head =>
      split at h
      · cases h
      next first others bodies =>
        split at h
        · cases h
        next command =>
          dsimp only at h
          split at h
          · cases h
          next received links reader chain =>
            cases h
            exact ⟨header, rest, first, others, received, links, reader, head, bodies,
              Decidable.of_not_not command, Chain.decodes_of_decode chain, rfl⟩
  · rintro ⟨header, rest, first, others, bodies, links, reader, head, waiting, command, chain, rfl⟩
    have read := Chain.decode_of_decodes chain
    unfold decode
    rw [head]
    dsimp only
    split
    next none => rw [none] at waiting; cases waiting
    next first' others' waiting' =>
      rw [waiting] at waiting'
      cases waiting'
      rw [if_neg (not_not_intro command), read]

theorem length_le_of_decode {m received : Message} {frame : Bytes}
    (h : m.decode frame = (received, .ok ())) : Header.length ≤ frame.length := by
  obtain ⟨header, rest, _, _, _, _, _, read, -⟩ := decode_eq_ok_iff.mp h
  unfold Header.decode at read
  split at read
  · cases read
  next enough => exact Nat.not_lt.mp enough

theorem decode_of_isOk (m : Message) (frame : Bytes) (h : (m.decode frame).2.isOk = true) :
    m.decode frame = ((m.decode frame).1, .ok ()) := by
  cases read : m.decode frame with
  | mk received outcome =>
    rw [read] at h
    cases outcome with
    | error e => cases h
    | ok done => rfl

/-- The cursor at which the link of a body is read from a frame, if it is. -/
def linkAt? (m : Message) (frame : Bytes) (index : Nat) : Option Reader :=
  match Header.decode frame with
  | .error _ => none
  | .ok (header, _) =>
    if m.bodies.head?.map Body.command = some header.command then
      Chain.linkAt? header.status m.bodies
        ((Reader.start frame header.isUnicode).seek Header.length) index
    else none

theorem getElem?_decode {m : Message} (frame : Bytes) {index : Nat} {b : Body}
    (waiting : m.bodies[index]? = some b) :
    (m.decode frame).1.bodies[index]? =
      some ((m.linkAt? frame index).elim b fun reader => (Chain.readLink b reader).1) := by
  unfold decode linkAt?
  cases Header.decode frame with
  | error e => exact waiting
  | ok read =>
    dsimp only
    split
    next none =>
      rw [none] at waiting
      cases waiting
    next head rest bodies =>
      by_cases same : head.command = read.1.command
      · have chain := Chain.getElem?_decode read.1.status
          ((Reader.start frame read.1.isUnicode).seek Header.length) waiting
        rw [if_neg (not_not_intro same), if_pos (by rw [bodies]; exact congrArg some same), ← chain]
        split <;> simp_all
      · rw [if_pos same, if_neg (by rw [bodies]; exact fun eq => same (Option.some.inj eq))]
        exact waiting

theorem length_of_linkAt? {m : Message} {frame : Bytes} {index : Nat} {reader : Reader}
    (link : m.linkAt? frame index = some reader) : reader.length = frame.length := by
  unfold linkAt? at link
  split at link
  · cases link
  · split at link
    · exact congrArg List.length (Chain.buffer_of_linkAt? link)
    · cases link

end Message

end Smb1
