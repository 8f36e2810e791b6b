import Smb1.Proofs.Wire.Reads
import Smb1.Proofs.Wire.Scan

/-! What a decoder reads from a message is what it reads from every message that begins with it, as
long as no string may run on behind the end. -/
namespace Smb1.Wire

/-- The reader of a message that goes on with `tail`. -/
def Reader.extended (r : Reader) (tail : Bytes) : Reader := { r with buffer := r.buffer ++ tail }

namespace Reader

variable {r : Reader}

@[simp] theorem extended_position (r : Reader) (tail : Bytes) :
    (r.extended tail).position = r.position := rfl

@[simp] theorem extended_unicode (r : Reader) (tail : Bytes) :
    (r.extended tail).unicode = r.unicode := rfl

@[simp] theorem length_extended (r : Reader) (tail : Bytes) :
    (r.extended tail).length = r.length + tail.length := List.length_append

@[simp] theorem position_seek (r : Reader) (position : Nat) :
    (r.seek position).position = position := rfl

theorem rest_extended (inside : r.position ≤ r.length) (tail : Bytes) :
    (r.extended tail).rest = r.rest ++ tail := List.drop_append_of_le_length inside

/-- Bytes that lie in the message lie in every longer one. -/
theorem picked_extended {position count : Nat} (inside : position + count ≤ r.length)
    (tail : Bytes) :
    ((r.extended tail).buffer.drop position).take count = (r.buffer.drop position).take count := by
  have stop : position + count ≤ r.buffer.length := inside
  have drop : (r.extended tail).buffer.drop position = r.buffer.drop position ++ tail :=
    List.drop_append_of_le_length (by omega)
  rw [drop, List.take_append_of_le_length (by rw [List.length_drop]; omega)]

theorem slice_extended {position count : Nat} {bytes : Bytes}
    (picked : r.slice position count = .ok bytes) (tail : Bytes) :
    (r.extended tail).slice position count = .ok bytes := by
  unfold slice at picked ⊢
  simp only [length_extended] at picked ⊢
  split at picked
  · cases picked
  next below =>
    split at picked
    · cases picked
    next inside =>
      rw [if_neg below, if_neg (by omega), picked_extended (Nat.not_lt.mp inside)]
      exact picked

end Reader

theorem scanUnits_append {room : Nat} {bytes : Bytes} (inside : room ≤ bytes.length)
    (tail : Bytes) : scanUnits room (bytes ++ tail) = scanUnits room bytes := by
  fun_induction scanUnits room bytes with
  | case1 room low high rest unit zero =>
    simp only [List.cons_append, scanUnits, zero, unit, if_true]
  | case2 room low high rest unit nonzero units taken scanned ih =>
    have later := ih (by simpa using inside)
    simp only [List.cons_append, scanUnits, unit, nonzero, if_false, later, scanned]
  | case3 room bytes short =>
    refine scanUnits_of_lt_two (Nat.lt_of_not_le fun many => ?_) _
    rcases bytes with _ | ⟨low, _ | ⟨high, rest⟩⟩
    · exact absurd (Nat.le_trans many inside) (by decide)
    · exact absurd (Nat.le_of_succ_le_succ (Nat.le_trans many inside)) (by decide)
    · obtain ⟨room, rfl⟩ := Nat.exists_eq_add_of_le' many
      exact short room low high rest rfl rfl

theorem scanBytes_append {room : Nat} {bytes : Bytes} (inside : room ≤ bytes.length)
    (tail : Bytes) : scanBytes room (bytes ++ tail) = scanBytes room bytes := by
  induction room generalizing bytes with
  | zero => rfl
  | succ room ih =>
    cases bytes with
    | nil => simp at inside
    | cons byte rest =>
      simp only [List.cons_append, scanBytes, ih (Nat.le_of_succ_le_succ inside)]

/-- A scan that ends in the message ends there in every longer one. -/
theorem scan_extended {scan : Nat → Bytes → α}
    (append : ∀ {room bytes}, room ≤ bytes.length →
      ∀ tail, scan room (bytes ++ tail) = scan room bytes)
    {r : Reader} {limit : Nat} (inside : limit ≤ r.length) (tail : Bytes) :
    scan (limit - r.position) (r.extended tail).rest = scan (limit - r.position) r.rest := by
  by_cases here : r.position ≤ r.length
  · rw [Reader.rest_extended here]
    exact append (by rw [Reader.length_rest]; omega) tail
  · have none : limit - r.position = 0 := by omega
    have scanned (bytes : Bytes) : scan 0 bytes = scan 0 [] :=
      @append 0 [] (Nat.zero_le 0) bytes
    rw [none, scanned, scanned r.rest]

namespace Decoder

theorem bind_apply (d : Decoder α) (k : α → Decoder β) (r : Reader) :
    (d >>= k) r = match d r with
      | .ok (a, r) => k a r
      | .error e => .error e := by
  change StateT.bind d k r = _
  rw [StateT.bind]
  cases d r <;> rfl

theorem map_apply (g : α → β) (d : Decoder α) (r : Reader) :
    (g <$> d) r = match d r with
      | .ok (a, r) => .ok (g a, r)
      | .error e => .error e := bind_apply d (fun a => pure (g a)) r

theorem bind_eq_ok {d : Decoder α} {k : α → Decoder β} {r r' : Reader} {b : β}
    (h : (d >>= k) r = .ok (b, r')) : ∃ a mid, d r = .ok (a, mid) ∧ k a mid = .ok (b, r') := by
  rw [bind_apply] at h
  split at h
  next a mid read => exact ⟨a, mid, read, h⟩
  · cases h

/-- A step that fills a template, as a decoder of what becomes of it. -/
def filled (step : Reader → α × Except Error Reader) : Decoder α := fun r =>
  match step r with
  | (a, .ok r) => .ok (a, r)
  | (_, .error e) => .error e

theorem filled_eq_ok {step : Reader → α × Except Error Reader} {r r' : Reader} {a : α} :
    filled step r = .ok (a, r') ↔ step r = (a, .ok r') := by
  unfold filled
  rcases step r with ⟨b, _ | mid⟩ <;> simp

theorem filled_map (wrap : α → β) (step : Reader → α × Except Error Reader) :
    filled (fun r => (wrap (step r).1, (step r).2)) = wrap <$> filled step := by
  funext r
  rw [map_apply]
  simp only [filled]
  rcases step r with ⟨a, _ | mid⟩ <;> rfl

theorem stringOrEmpty_eq (limit : Nat) : stringOrEmpty limit = fun r =>
    if r.unicode then
      ((fun units => (Text.Utf16.decode units).toOption.getD "") <$> alignedUnits limit) r
    else oemString limit r := by
  funext r
  unfold stringOrEmpty
  split
  · rw [map_apply]
    cases alignedUnits limit r with
    | error e => rfl
    | ok read =>
      simp only [Bind.bind, Except.bind]
      cases Text.Utf16.decode read.1 <;> rfl
  · rfl

theorem filled_seekFrom (step : Reader → α × Except Error Reader) (start count : Nat) :
    (filled fun r => ((step r).1, (step r).2 >>= (·.seekFrom start count))) =
      filled step >>= fun a => fun r =>
        Position.add start count >>= fun position => (seek position *> Pure.pure a) r := by
  funext r
  rw [bind_apply]
  simp only [filled]
  obtain ⟨a, e | mid⟩ := step r
  · rfl
  · show _ = Position.add start count >>= _
    simp only [Bind.bind, Except.bind, Reader.seekFrom]
    cases Position.add start count <;> rfl

end Decoder

theorem Decoder.position_of_filled {step : Reader → α × Except Error Reader} {start count : Nat}
    {r r' : Reader} {a : α}
    (h : filled (fun r => ((step r).1, (step r).2 >>= (·.seekFrom start count))) r = .ok (a, r')) :
    r'.position = start + count := by
  obtain ⟨_, -, moved⟩ := ok_of_bind (Prod.mk.inj (filled_eq_ok.mp h)).2
  rw [(Reader.seekFrom_eq_ok_iff.mp moved).1, Reader.position_seek]

/-- A success of `d` keeps the message. With `limit` in the message, `d` reads the same from every
message that goes on behind it. -/
structure Extends (limit : Nat) (d : Decoder α) (r : Reader) : Prop where
  kept : ∀ {a r'}, d r = .ok (a, r') → r' = r.seek r'.position
  longer : ∀ {a r'}, d r = .ok (a, r') → limit ≤ r.length → ∀ tail,
    d (r.extended tail) = .ok (a, r'.extended tail)

namespace Extends

variable {limit : Nat} {r : Reader} {α β : Type}

theorem pure {a : α} : Extends limit (Pure.pure a) r where
  kept read := by cases read; rfl
  longer read _ _ := by cases read; rfl

theorem fail {e : Error} : Extends (α := α) limit (Decoder.fail e) r where
  kept read := nomatch read
  longer read := nomatch read

theorem refused {e : Error} {k : α → Decoder β} : Extends limit (Decoder.fail e >>= k) r where
  kept read := nomatch read
  longer read := nomatch read

theorem bindAt {d : Decoder α} {k : α → Decoder β} (first : Extends limit d r)
    (second : ∀ a mid, d r = .ok (a, mid) → Extends limit (k a) mid) :
    Extends limit (d >>= k) r where
  kept read := by
    obtain ⟨a, mid, taken, rest⟩ := Decoder.bind_eq_ok read
    rw [(second a mid taken).kept rest, first.kept taken]
    rfl
  longer read inside tail := by
    obtain ⟨a, mid, taken, rest⟩ := Decoder.bind_eq_ok read
    have room : limit ≤ mid.length := by rwa [first.kept taken]
    rw [Decoder.bind_of_ok k (first.longer taken inside tail)]
    exact (second a mid taken).longer rest room tail

theorem bind {d : Decoder α} {k : α → Decoder β} (first : Extends limit d r)
    (second : ∀ a r', Extends limit (k a) r') : Extends limit (d >>= k) r :=
  bindAt first fun a mid _ => second a mid

/-- The same where it is known what the first step reads. -/
theorem bindOf {d : Decoder α} {k : α → Decoder β} {a : α} {mid : Reader}
    (first : Extends limit d r) (taken : d r = .ok (a, mid)) (second : Extends limit (k a) mid) :
    Extends limit (d >>= k) r := by
  refine bindAt first fun a' mid' taken' => ?_
  rw [taken] at taken'
  cases taken'
  exact second

theorem map {d : Decoder α} {g : α → β} (h : Extends limit d r) : Extends limit (g <$> d) r :=
  bind h fun _ _ => pure

theorem ite {p : Prop} [Decidable p] {d other : Decoder α} (yes : Extends limit d r)
    (no : Extends limit other r) : Extends limit (if p then d else other) r := by
  split <;> assumption

theorem position : Extends limit Decoder.position r where
  kept read := by cases read; rfl
  longer read _ _ := by cases read; rfl

theorem seek {position : Nat} : Extends limit (Decoder.seek position) r where
  kept read := by cases read; rfl
  longer read _ _ := by cases read; rfl

theorem ahead {count : Nat} : Extends limit (Decoder.ahead count) r where
  kept read := by
    obtain ⟨stop, -, done⟩ := ok_of_bind read
    cases done
    rfl
  longer read _ tail := by
    obtain ⟨stop, moved, done⟩ := ok_of_bind read
    cases done
    simp only [Decoder.ahead, Reader.extended_position, moved]
    rfl

/-- What is read up to a limit that is measured from here. -/
theorem upTo {count : Nat} {k : Nat → Decoder α}
    (h : ∀ r', Extends (r.position + count) (k (r.position + count)) r') :
    Extends (r.position + count) (Decoder.ahead count >>= k) r := by
  refine bindAt ahead fun stop mid taken => ?_
  obtain ⟨_, moved, done⟩ := ok_of_bind taken
  cases done
  rw [(Position.add_eq_ok_iff.mp moved).1]
  exact h r

theorem skip {count : Nat} : Extends limit (Decoder.skip count) r := bind ahead fun _ _ => seek

theorem align {a : Alignment} : Extends limit (Decoder.align a) r where
  kept read := by
    obtain ⟨stop, -, done⟩ := ok_of_bind read
    cases done
    rfl
  longer read _ tail := by
    obtain ⟨stop, moved, done⟩ := ok_of_bind read
    cases done
    simp only [Decoder.align, Reader.extended_position, moved]
    rfl

theorem octets {count : Nat} : Extends limit (Decoder.octets count) r := by
  have inside {o : Octets count} {r' : Reader} (read : Decoder.octets count r = .ok (o, r')) :
      r.position + count ≤ r.length ∧ o.val = r.rest.take count ∧ r' = r.skip count := by
    unfold Decoder.octets at read
    split at read
    next room =>
      cases read
      exact ⟨room, rfl, rfl⟩
    · obtain ⟨_, -, refused⟩ := ok_of_bind read
      cases refused
  constructor
  · intro o r' read
    rw [(inside read).2.2]
    rfl
  · intro o r' read _ tail
    obtain ⟨room, bytes, rfl⟩ := inside read
    have longer : (r.extended tail).position + count ≤ (r.extended tail).length := by
      simp only [Reader.extended_position, Reader.length_extended]
      omega
    have same : (r.extended tail).rest.take count = o.val := by
      rw [bytes]
      exact Reader.picked_extended room tail
    simp only [Decoder.octets, dif_pos longer, same]
    rfl

theorem take {count : Nat} : Extends limit (Decoder.take count) r := map octets

theorem word {W : Type} [Word W] : Extends limit (Decoder.word W) r := map take

theorem u8 : Extends limit Decoder.u8 r := word
theorem u16 : Extends limit Decoder.u16 r := word
theorem u32 : Extends limit Decoder.u32 r := word
theorem u64 : Extends limit Decoder.u64 r := word

theorem repeatOnto {d : Decoder α} (each : ∀ r, Extends limit d r) (count : Nat) (read : List α) :
    Extends limit (Decoder.repeatOnto d count read) r := by
  induction count generalizing r read with
  | zero => exact pure
  | succ count ih =>
    rw [Decoder.repeatOnto_succ]
    exact bind (each r) fun a _ => ih (a :: read)

theorem times {d : Decoder α} (each : ∀ r, Extends limit d r) (count : Nat) :
    Extends limit (Decoder.times count d) r := map (repeatOnto each count [])

theorem rawUnits : Extends limit (Decoder.rawUnits limit) r where
  kept read := by
    rw [Decoder.rawUnits_eq] at read
    obtain ⟨_, -, done⟩ := ok_of_bind read
    cases done
    rfl
  longer read inside tail := by
    rw [Decoder.rawUnits_eq] at read ⊢
    obtain ⟨_, moved, done⟩ := ok_of_bind read
    cases done
    simp only [Reader.extended_position, moved,
      scan_extended scanUnits_append inside]
    rfl

theorem unicodeString : Extends limit (Decoder.unicodeString limit) r := by
  refine bind rawUnits fun units _ => ?_
  cases Text.Utf16.decode units with
  | error e => exact fail
  | ok text => exact pure

theorem oemString : Extends limit (Decoder.oemString limit) r where
  kept read := by
    rw [Decoder.oemString_eq] at read
    cases read
    rfl
  longer read inside tail := by
    rw [Decoder.oemString_eq] at read ⊢
    cases read
    simp only [Reader.extended_position, scan_extended scanBytes_append inside]
    rfl

/-- A string that is read one way or the other. -/
theorem inEncoding {d other : Decoder α} (unicode : Extends limit d r)
    (oem : Extends limit other r) :
    Extends limit (fun r => if r.unicode then d r else other r) r where
  kept read := by
    split at read
    · exact unicode.kept read
    · exact oem.kept read
  longer read inside tail := by
    rw [Reader.extended_unicode]
    cases encoding : r.unicode with
    | true =>
      rw [encoding] at read
      exact unicode.longer read inside tail
    | false =>
      rw [encoding] at read
      exact oem.longer read inside tail

theorem stringUnaligned : Extends limit (Decoder.stringUnaligned limit) r :=
  inEncoding unicodeString oemString

theorem alignedUnits : Extends limit (Decoder.alignedUnits limit) r :=
  bind align fun _ _ => rawUnits

theorem string : Extends limit (Decoder.string limit) r :=
  inEncoding (bind align fun _ _ => unicodeString) oemString

theorem stringOrEmpty : Extends limit (Decoder.stringOrEmpty limit) r :=
  Decoder.stringOrEmpty_eq limit ▸ inEncoding (map alignedUnits) oemString

/-- A look at the message from anywhere, without moving. -/
theorem look {look : Reader → Except Error α} {k : α → Decoder β}
    (same : ∀ {a} {r : Reader}, look r = .ok a → ∀ tail, look (r.extended tail) = .ok a)
    (rest : ∀ a, Extends limit (k a) r) : Extends limit (fun r => look r >>= fun a => k a r) r where
  kept read := by
    obtain ⟨a, _, done⟩ := ok_of_bind read
    exact (rest a).kept done
  longer read inside tail := by
    obtain ⟨a, seen, done⟩ := ok_of_bind read
    rw [same seen tail]
    exact (rest a).longer done inside tail

/-- A template may be left as it is. -/
theorem filling {p : Prop} [Decidable p] {a : α} {step : Reader → α × Except Error Reader}
    (h : Extends limit (Decoder.filled step) r) :
    Extends limit (Decoder.filled fun r => if p then step r else (a, .ok r)) r := by
  by_cases holds : p
  · simp only [if_pos holds]
    exact h
  · simp only [if_neg holds]
    exact pure

/-- The cursor may be moved afterwards. -/
theorem seeking {step : Reader → α × Except Error Reader}
    (h : Extends limit (Decoder.filled step) r) (start count : Nat) :
    Extends limit
      (Decoder.filled fun r => ((step r).1, (step r).2 >>= (·.seekFrom start count))) r := by
  rw [Decoder.filled_seekFrom]
  exact bind h fun _ _ => look (fun sum _ => sum) fun _ => bind seek fun _ _ => pure

/-- A step that looks only at how strings are written, and stays where it is. -/
theorem inPlace (step : Bool → α × Except Error Unit) :
    Extends limit
      (Decoder.filled fun r => ((step r.unicode).1, (step r.unicode).2.map fun _ => r)) r := by
  have outcome {a : α} {r r' : Reader}
      (read : Decoder.filled (fun r => ((step r.unicode).1, (step r.unicode).2.map fun _ => r)) r =
        .ok (a, r')) : step r.unicode = (a, .ok ()) ∧ r' = r := by
    have taken := Decoder.filled_eq_ok.mp read
    cases result : step r.unicode with
    | mk b outcome =>
      rw [result] at taken
      cases outcome with
      | error e => cases taken
      | ok done =>
        cases taken
        exact ⟨rfl, rfl⟩
  constructor
  · intro a r' read
    obtain ⟨-, rfl⟩ := outcome read
    rfl
  · intro a r' read _ tail
    obtain ⟨done, rfl⟩ := outcome read
    rw [Decoder.filled_eq_ok, Reader.extended_unicode, done]
    rfl

/-- A slice that becomes a field, or an error that says which. -/
theorem slice {position count : Nat} {g : Bytes → α} {e : Error} :
    Extends limit (fun r => match r.slice position count with
      | .ok bytes => .ok (g bytes, r)
      | .error _ => .error e) r where
  kept read := by
    split at read
    · cases read
      rfl
    · cases read
  longer read inside tail := by
    split at read
    next picked =>
      cases read
      rw [Reader.slice_extended picked]
    · cases read

end Extends

/-- What comes of a step in a message that goes on with `tail`. -/
def extendOutcome (tail : Bytes) : Except Error (α × Reader) → Except Error (α × Reader) :=
  Except.map fun (a, r) => (a, r.extended tail)

/-- A step that takes `count` bytes. Once they are there it comes out the same in every message
that goes on behind them, whether it fails or not. -/
structure Spans (count : Nat) (d : Decoder α) : Prop where
  moved : ∀ {a r r'}, d r = .ok (a, r') → r' = r.skip count
  same : ∀ {r : Reader}, r.position + count ≤ r.length → ∀ tail,
    d (r.extended tail) = extendOutcome tail (d r)

namespace Spans

variable {count more : Nat}

/-- What is read from the front of a message. -/
theorem front {d : Decoder α} {front : Bytes} {position : Nat} {unicode : Bool} {a : α}
    {r : Reader} (h : Spans count d) (inside : position + count ≤ front.length)
    (read : d ⟨front, position, unicode⟩ = .ok (a, r)) (tail : Bytes) :
    d ⟨front ++ tail, position, unicode⟩ =
      .ok (a, ⟨front ++ tail, position + count, unicode⟩) := by
  have same := h.same (r := ⟨front, position, unicode⟩) inside tail
  rw [read, h.moved read] at same
  exact same

theorem pure {a : α} : Spans 0 (Pure.pure a : Decoder α) where
  moved read := by cases read; rfl
  same _ _ := rfl

theorem fail {e : Error} : Spans (α := α) count (Decoder.fail e) where
  moved read := nomatch read
  same _ _ := rfl

theorem bind {d : Decoder α} {k : α → Decoder β} (first : Spans count d)
    (second : ∀ a, Spans more (k a)) : Spans (count + more) (d >>= k) where
  moved read := by
    obtain ⟨a, mid, taken, rest⟩ := Decoder.bind_eq_ok read
    rw [(second a).moved rest, first.moved taken, Reader.skip_skip]
  same {r} inside tail := by
    have begun := first.same (r := r) (Nat.le_trans (by omega) inside) tail
    rw [Decoder.bind_apply, Decoder.bind_apply, begun]
    cases taken : d r with
    | error e => rfl
    | ok got =>
      obtain ⟨a, mid⟩ := got
      have there : mid = r.skip count := first.moved taken
      exact (second a).same (by rw [there]; show r.position + count + more ≤ r.length; omega) tail

theorem ite {p : Prop} [Decidable p] {d other : Decoder α} (yes : Spans count d)
    (no : Spans count other) : Spans count (if p then d else other) := by
  split <;> assumption

theorem refused {e : Error} {k : α → Decoder β} : Spans count (Decoder.fail e >>= k) where
  moved read := nomatch read
  same _ _ := rfl

theorem octets : Spans count (Decoder.octets count) where
  moved {a r r'} read := by
    unfold Decoder.octets at read
    split at read
    · cases read
      rfl
    · obtain ⟨_, -, refused⟩ := ok_of_bind read
      cases refused
  same {r} inside tail := by
    obtain ⟨_, read⟩ := Decoder.octets_eq_ok inside
    rw [read]
    exact (Extends.octets : Extends 0 _ r).longer read (Nat.zero_le _) tail

theorem map {d : Decoder α} {g : α → β} (h : Spans count d) : Spans count (g <$> d) :=
  bind h fun _ => pure

theorem take : Spans count (Decoder.take count) := map octets

theorem u8 : Spans 1 Decoder.u8 := map take
theorem u16 : Spans 2 Decoder.u16 := map take
theorem u32 : Spans 4 Decoder.u32 := map take

theorem skip : Spans count (Decoder.skip count) where
  moved read := by
    obtain ⟨stop, mid, reached, done⟩ := Decoder.bind_eq_ok read
    obtain ⟨_, sum, here⟩ := ok_of_bind reached
    obtain ⟨rfl, -⟩ := Position.add_eq_ok_iff.mp sum
    cases here
    cases done
    rfl
  same {r} _ tail := by
    simp only [Decoder.skip, Decoder.bind_apply, Decoder.ahead, Reader.extended_position]
    cases Position.add r.position count <;> rfl

end Spans

end Smb1.Wire
