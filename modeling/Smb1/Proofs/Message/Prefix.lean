import Mathlib.Order.Bounds.Basic
import Smb1.Proofs.Message.Chain
import Smb1.Proofs.Wire.Writing

/-! What a chain takes of the bodies that it is offered, and how its links lie in the frame. -/
namespace Smb1.Chain

open Wire

variable {config : Config} {response unicode : Bool}

/-- A link and where it lies. -/
structure Placed where
  body : Body
  /-- The body that follows it. -/
  next : Option Body
  start : Nat

/-- The links of some bodies from `start` on. -/
def placed (unicode : Bool) : (start : Nat) → List Body → List Placed
  | _, [] => []
  | start, b :: rest => ⟨b, rest.head?, start⟩ :: placed unicode (stop b start unicode) rest

def Placed.bytes (unicode : Bool) (p : Placed) : Bytes :=
  (link p.body (p.next.map Body.command)).bytesAt p.start unicode

theorem length_placed (start : Nat) (bodies : List Body) :
    (placed unicode start bodies).length = bodies.length := by
  induction bodies generalizing start with
  | nil => rfl
  | cons b rest ih => rw [placed, List.length_cons, List.length_cons, ih]

/-- Joined bodies are written as their links, one behind the other. -/
theorem bytesAt_joined (start : Nat) (bodies : List Body) :
    (joined bodies).bytesAt start unicode =
      (placed unicode start bodies).flatMap (Placed.bytes unicode) := by
  induction bodies generalizing start with
  | nil => rfl
  | cons b rest ih =>
    rw [placed, List.flatMap_cons, ← ih]
    cases rest with
    | nil => exact (List.append_nil _).symm
    | cons next rest =>
      rw [joined, Encoder.bytesAt_append, length_link]
      rfl

/-- Link `index` may be followed by the next one in the same frame. -/
def Followable (config : Config) (response : Bool) (bodies : List Body) (level index : Nat) :
    Prop :=
  ∃ b next, bodies[index]? = some b ∧ bodies[index + 1]? = some next ∧ b.isAndX = true ∧
    (response = true ∨ config.useBatching = true ∧ next.command ∈ b.successors ∧
      level + index < (config.batchLimit b.command next.command).toNat)

/-- All of the first `count` bodies but the last may be followed. -/
def Permitted (config : Config) (response : Bool) (bodies : List Body) (level count : Nat) : Prop :=
  count ≤ bodies.length ∧ ∀ index, index + 1 < count → Followable config response bodies level index

theorem followable_zero {level : Nat} {b : Body} {rest : List Body} :
    Followable config response (b :: rest) level 0 ↔
      (next? config response level b rest).isSome = true := by
  cases rest with
  | nil => simp [Followable, next?]
  | cons next rest =>
    have limit : level < (b.batchLimit config next.command).toNat ↔
        next.command ∈ b.successors ∧
          level < (config.batchLimit b.command next.command).toNat := by
      unfold Body.batchLimit
      split
      next declared => simp [declared]
      next undeclared => simp [undeclared]
    cases chained : b.isAndX <;> cases response <;> cases batching : config.useBatching <;>
      simp [Followable, next?, permitted, chained, batching, limit]

theorem followable_succ {level index : Nat} {b : Body} {rest : List Body} :
    Followable config response (b :: rest) level (index + 1) ↔
      Followable config response rest (level + 1) index := by
  have depth : level + (index + 1) = level + 1 + index := by omega
  simp only [Followable, List.getElem?_cons_succ, depth]

/-- A chain takes the longest run of bodies that may share a frame. -/
theorem isGreatest_carried (config : Config) (response : Bool) (bodies : List Body)
    (level : Nat) :
    IsGreatest {count | Permitted config response bodies level count}
      (carried config response level bodies) := by
  induction bodies generalizing level with
  | nil => exact ⟨⟨Nat.le_refl 0, nofun⟩, fun count permitted => permitted.1⟩
  | cons b rest ih =>
    obtain ⟨⟨-, inner⟩, greatest⟩ := ih (level + 1)
    cases successor : next? config response level b rest with
    | none =>
      have last : ¬Followable config response (b :: rest) level 0 := by
        simp [followable_zero, successor]
      rw [carried_of_none successor]
      refine ⟨⟨by simp, fun index short => by omega⟩, fun count permitted => ?_⟩
      by_contra more
      exact last (permitted.2 0 (by omega))
    | some next =>
      have first : Followable config response (b :: rest) level 0 := by
        simp [followable_zero, successor]
      rw [carried_of_some successor]
      constructor
      · refine ⟨Nat.succ_le_succ (carried_le ..), fun index short => ?_⟩
        cases index with
        | zero => exact first
        | succ index => exact followable_succ.mpr (inner index (by omega))
      · intro count permitted
        cases count with
        | zero => omega
        | succ count =>
          apply Nat.succ_le_succ
          apply greatest
          refine ⟨Nat.le_of_succ_le_succ permitted.1, fun index short => ?_⟩
          exact followable_succ.mp (permitted.2 (index + 1) (by omega))

/-- Where link `index` starts behind the first ones. -/
def place (start : Nat) (links : List Bytes) (index : Nat) : Nat :=
  start + (links.take index).flatten.length

/-- The bytes of a link at `start`: its word count, its chain block, its words, its byte count and
its data bytes. -/
def spelled (b : Body) (block : Bytes) (start : Nat) (unicode : Bool) : Bytes :=
  [b.reportedWordCount (UInt8.ofNat b.wordCount)] ++ block ++
    b.words.bytesAt (wordsStart b start) unicode ++
    Word.encode (UInt16.ofNat (byteCount b start unicode)) ++
    b.bytes.bytesAt (bytesStart b start) unicode

/-- The chain block of a link that ends at `stop`. -/
def Placed.block (unicode : Bool) (p : Placed) : Bytes :=
  if p.body.isAndX then
    match p.next with
    | some next =>
      [next.command.code, 0] ++ Word.encode (UInt16.ofNat (stop p.body p.start unicode))
    | none => [0xFF, 0, 0xDE, 0xDE]
  else []

theorem Placed.bytes_eq (p : Placed) :
    p.bytes unicode = spelled p.body (p.block unicode) p.start unicode := by
  obtain ⟨b, next, start⟩ := p
  have none : noCommand = 0xFF ∧ Word.encode noOffset = [0xDE, 0xDE] := ⟨rfl, rfl⟩
  rw [bytes, bytesAt_link, spelled, Placed.block]
  cases next <;> cases chained : b.isAndX <;>
    simp [head, Chain.block, chained, encode_u8, none]

theorem getElem?_placed {start index : Nat} {bodies : List Body} {p : Placed}
    (here : (placed unicode start bodies)[index]? = some p) :
    bodies[index]? = some p.body ∧ p.next = bodies[index + 1]? ∧
      p.start = place start ((placed unicode start bodies).map (Placed.bytes unicode)) index ∧
      stop p.body p.start unicode =
        place start ((placed unicode start bodies).map (Placed.bytes unicode)) (index + 1) := by
  induction bodies generalizing start index with
  | nil => simp [placed] at here
  | cons b rest ih =>
    cases index with
    | zero =>
      cases here
      refine ⟨rfl, by simp [List.head?_eq_getElem?], rfl, ?_⟩
      simp [place, placed, Placed.bytes, length_link]
    | succ index =>
      obtain ⟨body, next, starts, stops⟩ := ih here
      have behind (count : Nat) :
          place start ((placed unicode start (b :: rest)).map (Placed.bytes unicode)) (count + 1) =
            place (stop b start unicode)
              ((placed unicode (stop b start unicode) rest).map (Placed.bytes unicode)) count := by
        simp only [place, placed, List.map_cons, List.take_succ_cons, List.flatten_cons,
          List.length_append, Placed.bytes, ← Nat.add_assoc, length_link]
      exact ⟨body, next, starts.trans (behind index).symm, stops.trans (behind (index + 1)).symm⟩

theorem place_le (start : Nat) (links : List Bytes) (index : Nat) :
    place start links index ≤ start + links.flatten.length := by
  have prefixed : (links.take index).flatten <+: links.flatten :=
    ⟨(links.drop index).flatten, by rw [← List.flatten_append, List.take_append_drop]⟩
  exact Nat.add_le_add_left prefixed.length_le start

/-- What is written of some bodies is the longest run of them that may share a frame, and the
links of that run one behind the other. Each link but the last names the command of the next one
and where its word count lies; the last one names none. -/
theorem encode_prefix {w w' : Writer} {bodies : List Body} (small : w.capacity ≤ 65535)
    (written : w.put? (encode config response 0 bodies) = .ok w') :
    IsGreatest {count | Permitted config response bodies 0 count}
      (carried config response 0 bodies) ∧
    ∃ links : List Bytes, links.length = carried config response 0 bodies ∧
      w'.contents = w.contents ++ links.flatten ∧
      ∀ index link, links[index]? = some link → ∃ b block, bodies[index]? = some b ∧
        link = spelled b block (place w.position links index) w.unicode ∧
        (index + 1 < carried config response 0 bodies → b.isAndX = true ∧
          ∃ (next : Body) (offset : UInt16), bodies[index + 1]? = some next ∧
            block = [next.command.code, 0] ++ Word.encode offset ∧
            offset.toNat = place w.position links (index + 1)) ∧
        (index + 1 = carried config response 0 bodies →
          block = if b.isAndX then [0xFF, 0, 0xDE, 0xDE] else []) := by
  have greatest := isGreatest_carried config response bodies 0
  refine ⟨greatest, ?_⟩
  obtain ⟨rfl, room⟩ := Writer.put?_eq_ok written
  rw [encode_eq_joined] at room ⊢
  generalize count : carried config response 0 bodies = n at *
  have taken : (bodies.take n).length = n := by
    rw [List.length_take]
    exact Nat.min_eq_left greatest.1.1
  let links := (placed w.unicode w.position (bodies.take n)).map (Placed.bytes w.unicode)
  have length : links.length = n := by rw [List.length_map, length_placed, taken]
  have whole : (joined (bodies.take n)).bytesAt w.position w.unicode = links.flatten := by
    rw [bytesAt_joined, List.flatMap_def]
  refine ⟨links, length, by rw [whole], fun index link here => ?_⟩
  obtain ⟨p, member, rfl⟩ := Option.map_eq_some_iff.mp (List.getElem?_map ▸ here)
  obtain ⟨body, next, starts, stops⟩ := getElem?_placed member
  have early : index < n := length ▸ (List.getElem?_eq_some_iff.mp here).1
  have written : (joined (bodies.take n)).pieces w.position w.unicode ≠ [] := by
    intro none
    have empty : links.flatten = [] := by rw [← whole, Encoder.bytesAt, none]; rfl
    have hollow := List.flatten_eq_nil_iff.mp empty _ (List.mem_of_getElem? here)
    simp [Placed.bytes_eq, spelled] at hollow
  refine ⟨p.body, p.block w.unicode, ?_, ?_, ?_, ?_⟩
  · rwa [List.getElem?_take_of_lt early] at body
  · rw [Placed.bytes_eq, starts]
  · intro more
    obtain ⟨b, successor, here, follows, chained, -⟩ := greatest.1.2 index more
    rw [List.getElem?_take_of_lt early, here] at body
    obtain rfl : b = p.body := Option.some.inj body
    rw [List.getElem?_take_of_lt more, follows] at next
    refine ⟨chained, successor, UInt16.ofNat (stop p.body p.start w.unicode), follows, ?_, ?_⟩
    · rw [Placed.block, if_pos chained, next]
    · have fits : w.position + links.flatten.length ≤ w.capacity := by
        rw [← whole]
        simpa only [Writer.position, List.length_append] using room (.inl written)
      have inside : place w.position links (index + 1) < 0x10000 :=
        Nat.lt_of_le_of_lt (place_le ..) (by omega)
      rw [stops]
      exact UInt16.toNat_ofNat_of_lt' inside
  · intro last
    have none : p.next = none := by
      rw [next, List.getElem?_eq_none_iff]
      omega
    rw [Placed.block, none]

/-- Logging on, connecting to a share, and a check that only a first link may carry. -/
def logonAndCheck : List Body :=
  [.sessionSetupRequest .blank, .treeConnectRequest (.ofPath "\\\\s\\t"),
    .checkDirectoryRequest ⟨"\\a"⟩]

theorem encode_prefix_depth :
    ∃ (w' : Writer) (links : List Bytes), (⟨512, false, List.replicate 32 0⟩ : Writer).put?
        (encode (Config.standard 0 "") false 0 logonAndCheck) = .ok w' ∧
      Permitted (Config.standard 0 "") false logonAndCheck 0 2 ∧
      ¬Permitted (Config.standard 0 "") false logonAndCheck 0 3 ∧
      links.length = 2 ∧ w'.contents = List.replicate 32 0 ++ links.flatten := by
  have two : carried (Config.standard 0 "") false 0 logonAndCheck = 2 := by decide +kernel
  have fits : ((⟨512, false, List.replicate 32 0⟩ : Writer).put?
      (encode (Config.standard 0 "") false 0 logonAndCheck)).isOk = true := by decide +kernel
  cases written : (⟨512, false, List.replicate 32 0⟩ : Writer).put?
      (encode (Config.standard 0 "") false 0 logonAndCheck) with
  | error e =>
    rw [written] at fits
    cases fits
  | ok w' =>
    obtain ⟨⟨permitted, greatest⟩, links, length, contents, -⟩ :=
      encode_prefix (by decide) written
    rw [two] at permitted greatest length
    have longer : ¬Permitted (Config.standard 0 "") false logonAndCheck 0 3 :=
      fun more => absurd (greatest more) (by decide)
    exact ⟨w', links, rfl, permitted, longer, length, contents⟩

end Smb1.Chain
