import Smb1.Proofs.Wire.Extends

/-! Decoders ask only for bytes that are there, and count only as far as numbers go. A cursor may
stand behind its message, but never far behind it: a step that reads brings it back. -/
namespace Smb1

/-- An answer, or an error that is accounted for by what was received. -/
def Faultless (outcome : Except Error α) : Prop :=
  ∀ error, outcome = .error error → error.isOutOfRange = false

namespace Faultless

theorem ok {a : α} : Faultless (.ok a) := fun _ same => by cases same

theorem error {e : Error} (reported : e.isOutOfRange = false) :
    Faultless (.error e : Except Error α) :=
  fun _ same => by cases same; exact reported

theorem bind {step : Except Error α} {k : α → Except Error β} (first : Faultless step)
    (second : ∀ a, step = .ok a → Faultless (k a)) : Faultless (step >>= k) := by
  cases taken : step with
  | error e => exact error (first e taken)
  | ok a => exact second a taken

theorem map {step : Except Error α} (g : α → β) (h : Faultless step) : Faultless (step.map g) := by
  cases taken : step with
  | error e => exact error (h e taken)
  | ok a => exact ok

end Faultless

theorem Text.Utf16.faultless_decode (units : List UInt16) :
    Faultless (Text.Utf16.decode units) := by
  unfold decode
  split
  · exact .ok
  · exact .error rfl

namespace Wire

/-- A number of bytes that a cursor near the end of a message can be moved by. -/
theorem lt_limit_of_near {length near position count : Nat} (memory : length < memoryLimit)
    (here : position ≤ length + near) (fits : near + count ≤ memoryLimit) :
    position + count < Position.limit := by
  have whole : memoryLimit + memoryLimit = Position.limit := by decide
  omega

/-- What comes of a step in the message of `r`: a cursor at most `far` bytes behind that message, or
an error that is no fault. -/
inductive Lands (far : Nat) (r : Reader) : Except Error (α × Reader) → Prop
  | error {e : Error} (reported : e.isOutOfRange = false) : Lands far r (.error e)
  | ok {a : α} {r' : Reader} (same : r'.length = r.length) (near : r'.position ≤ r.length + far) :
      Lands far r (.ok (a, r'))

namespace Lands

variable {far further : Nat} {r r' : Reader} {outcome : Except Error (α × Reader)}

theorem faultless (h : Lands far r outcome) : Faultless outcome := by
  cases h with
  | error reported => exact .error reported
  | ok => exact .ok

theorem within {a : α} (h : Lands far r (.ok (a, r'))) :
    r'.length = r.length ∧ r'.position ≤ r.length + far := by
  cases h with
  | ok same near => exact ⟨same, near⟩

theorem mono (h : Lands far r outcome) (le : far ≤ further) : Lands further r outcome := by
  cases h with
  | error reported => exact .error reported
  | ok same near => exact .ok same (Nat.le_trans near (Nat.add_le_add_left le _))

theorem map (h : Lands far r outcome) (g : α → β) :
    Lands far r (outcome.map fun got => (g got.1, got.2)) := by
  cases h with
  | error reported => exact .error reported
  | ok same near => exact .ok same near

/-- What comes of a step that fills a template. -/
theorem filled {step : Reader → α × Except Error Reader} (reported : Faultless (step r).2)
    (lands : ∀ r', (step r).2 = .ok r' → r'.length = r.length ∧ r'.position ≤ r.length + far) :
    Lands far r (Decoder.filled step r) := by
  unfold Decoder.filled
  rcases taken : step r with ⟨a, e | r'⟩ <;> rw [taken] at reported lands
  · exact .error (reported e rfl)
  · exact .ok (lands r' rfl).1 (lands r' rfl).2

theorem of_same (h : Lands far r' outcome) (same : r'.length = r.length) : Lands far r outcome := by
  cases h with
  | error reported => exact .error reported
  | ok kept near => exact .ok (kept.trans same) (same ▸ near)

end Lands

/-- A step that, begun at most `near` bytes behind a message in memory, does not fault and ends at
most `far` bytes behind it. -/
def Safe (near far : Nat) (d : Decoder α) (r : Reader) : Prop :=
  r.length < memoryLimit → r.position ≤ r.length + near → Lands far r (d r)

namespace Safe

variable {near mid far limit : Nat} {r : Reader} {α β : Type}

theorem pure {a : α} : Safe near near (Pure.pure a) r := fun _ here => .ok rfl here

theorem fail {e : Error} (reported : e.isOutOfRange = false) :
    Safe (α := α) near far (Decoder.fail e) r := fun _ _ => .error reported

theorem refused {e : Error} {k : α → Decoder β} (reported : e.isOutOfRange = false) :
    Safe near far (Decoder.fail e >>= k) r := fun _ _ => .error reported

theorem mono {further : Nat} {d : Decoder α} (h : Safe near far d r) (le : far ≤ further) :
    Safe near further d r := fun memory here => (h memory here).mono le

/-- The second step may rely on what the first one gave and on the message it left. -/
theorem bindAt {d : Decoder α} {k : α → Decoder β} (first : Safe near mid d r)
    (second : ∀ a r', d r = .ok (a, r') → r'.length = r.length → r'.position ≤ r.length + mid →
      Safe mid far (k a) r') :
    Safe near far (d >>= k) r := by
  intro memory here
  have landed := first memory here
  rw [Decoder.bind_apply]
  cases taken : d r with
  | error e => exact .error (landed.faultless e taken)
  | ok got =>
    obtain ⟨a, r'⟩ := got
    rw [taken] at landed
    obtain ⟨same, close⟩ := landed.within
    exact (second a r' taken same close (same.symm ▸ memory) (same.symm ▸ close)).of_same same

theorem bind {d : Decoder α} {k : α → Decoder β} (first : Safe near mid d r)
    (second : ∀ a r', Safe mid far (k a) r') : Safe near far (d >>= k) r :=
  bindAt first fun a r' _ _ _ => second a r'

theorem map {d : Decoder α} {g : α → β} (h : Safe near far d r) : Safe near far (g <$> d) r :=
  bind h fun _ _ => pure

theorem ite {p : Prop} [Decidable p] {d other : Decoder α} (yes : Safe near far d r)
    (no : Safe near far other r) : Safe near far (if p then d else other) r := by
  split <;> assumption

theorem position : Safe near near Decoder.position r := fun _ here => .ok rfl here

/-- A look at the message without moving. -/
theorem look {look : Reader → Except Error α} {k : α → Decoder β} (seen : Faultless (look r))
    (rest : ∀ a, Safe near far (k a) r) : Safe near far (fun r => look r >>= fun a => k a r) r := by
  intro memory here
  dsimp only
  cases taken : look r with
  | error e => exact .error (seen e taken)
  | ok a => exact rest a memory here

theorem ahead {count : Nat} (fits : near + count ≤ memoryLimit) :
    Safe near near (Decoder.ahead count) r := by
  intro memory here
  rw [Decoder.ahead_eq_ok (lt_limit_of_near memory here fits)]
  exact .ok rfl here

theorem skip {count : Nat} (fits : near + count ≤ memoryLimit) :
    Safe near (near + count) (Decoder.skip count) r := by
  intro memory here
  rw [Decoder.skip_eq_ok (lt_limit_of_near memory here fits)]
  exact .ok rfl (by simp only [Reader.skip, Reader.position_seek]; omega)

theorem align {a : Alignment} (fits : near + a.value ≤ memoryLimit) :
    Safe near (near + a.value) (Decoder.align a) r := by
  intro memory here
  have stop := Position.align_eq_up a (lt_limit_of_near memory here fits)
  have close := a.up_lt r.position
  rw [Decoder.align, stop]
  exact .ok rfl (by simp only [Reader.position_seek]; omega)

/-- Bytes that are read lie in the message. -/
theorem octets {count : Nat} (fits : near + count ≤ memoryLimit) :
    Safe near 0 (Decoder.octets count) r := by
  intro memory here
  unfold Decoder.octets
  split
  next inside => exact .ok rfl inside
  · rw [Position.add_eq_ok_iff.mpr ⟨rfl, lt_limit_of_near memory here fits⟩]
    exact .error rfl

theorem take {count : Nat} (fits : near + count ≤ memoryLimit) :
    Safe near 0 (Decoder.take count) r := map (octets fits)

theorem u8_near (fits : near + 1 ≤ memoryLimit) : Safe near 0 Decoder.u8 r := map (take fits)
theorem u16_near (fits : near + 2 ≤ memoryLimit) : Safe near 0 Decoder.u16 r := map (take fits)
theorem u32_near (fits : near + 4 ≤ memoryLimit) : Safe near 0 Decoder.u32 r := map (take fits)
theorem u64_near (fits : near + 8 ≤ memoryLimit) : Safe near 0 Decoder.u64 r := map (take fits)

theorem u8 : Safe 0 0 Decoder.u8 r := u8_near (by decide)
theorem u16 : Safe 0 0 Decoder.u16 r := u16_near (by decide)
theorem u32 : Safe 0 0 Decoder.u32 r := u32_near (by decide)
theorem u64 : Safe 0 0 Decoder.u64 r := u64_near (by decide)

theorem repeatOnto {d : Decoder α} (each : ∀ r, Safe near near d r) (count : Nat) (read : List α) :
    Safe near near (Decoder.repeatOnto d count read) r := by
  induction count generalizing r read with
  | zero => exact pure
  | succ count ih =>
    rw [Decoder.repeatOnto_succ]
    exact bind (each r) fun a _ => ih (a :: read)

theorem times {d : Decoder α} (each : ∀ r, Safe near near d r) (count : Nat) :
    Safe near near (Decoder.times count d) r := map (repeatOnto each count [])

/-- A scan takes bytes that are left. -/
theorem scan {count : Nat} (taken : count ≤ r.rest.length) (here : r.position ≤ r.length + near) :
    (r.skip count).position ≤ r.length + near := by
  rw [Reader.length_rest] at taken
  simp only [Reader.skip, Reader.position_seek]
  omega

theorem rawUnits (fits : near + 2 ≤ memoryLimit) :
    Safe near near (Decoder.rawUnits limit) r := by
  intro memory here
  have moved : Position.add r.position 2 = .ok (r.position + 2) :=
    Position.add_eq_ok_iff.mpr ⟨rfl, lt_limit_of_near memory here fits⟩
  simp only [Decoder.rawUnits_eq, moved]
  exact .ok rfl (scan (taken_scanUnits_le ..) here)

theorem unicodeString (fits : near + 2 ≤ memoryLimit) :
    Safe near near (Decoder.unicodeString limit) r := by
  refine bind (rawUnits fits) fun units _ => ?_
  have reported := Text.Utf16.faultless_decode units
  cases decoded : Text.Utf16.decode units with
  | error e => exact fail (reported e decoded)
  | ok text => exact pure

theorem oemString : Safe near near (Decoder.oemString limit) r := by
  intro memory here
  rw [Decoder.oemString_eq]
  exact .ok rfl (scan (taken_scanBytes_le ..) here)

/-- A string that is read one way or the other. -/
theorem inEncoding {d other : Decoder α} (unicode : Safe near far d r)
    (oem : Safe near far other r) :
    Safe near far (fun r => if r.unicode then d r else other r) r := by
  intro memory here
  dsimp only
  split
  · exact unicode memory here
  · exact oem memory here

theorem stringUnaligned (fits : near + 2 ≤ memoryLimit) :
    Safe near near (Decoder.stringUnaligned limit) r := inEncoding (unicodeString fits) oemString

theorem alignedUnits (fits : near + 2 + 2 ≤ memoryLimit) :
    Safe near (near + 2) (Decoder.alignedUnits limit) r :=
  bind (align (Nat.le_trans (Nat.le_add_right ..) fits)) fun _ _ => rawUnits fits

theorem string (fits : near + 2 + 2 ≤ memoryLimit) :
    Safe near (near + 2) (Decoder.string limit) r :=
  inEncoding
    (bind (align (Nat.le_trans (Nat.le_add_right ..) fits)) fun _ _ => unicodeString fits)
    (oemString.mono (Nat.le_add_right ..))

theorem stringOrEmpty (fits : near + 2 + 2 ≤ memoryLimit) :
    Safe near (near + 2) (Decoder.stringOrEmpty limit) r :=
  Decoder.stringOrEmpty_eq limit ▸
    inEncoding (map (alignedUnits fits)) (oemString.mono (Nat.le_add_right ..))

/-- A slice that becomes a field, or an error that says which. -/
theorem slice {position count : Nat} {g : Bytes → α} {e : Error}
    (reported : e.isOutOfRange = false) :
    Safe near near (fun r => match r.slice position count with
      | .ok bytes => .ok (g bytes, r)
      | .error _ => .error e) r := by
  intro _ here
  dsimp only
  split
  · exact .ok rfl here
  · exact .error reported

/-- A template may be left as it is. -/
theorem filling {p : Prop} [Decidable p] {a : α} {step : Reader → α × Except Error Reader}
    (h : Safe near far (Decoder.filled step) r) (le : near ≤ far) :
    Safe near far (Decoder.filled fun r => if p then step r else (a, .ok r)) r := by
  by_cases holds : p
  · simp only [if_pos holds]
    exact h
  · simp only [if_neg holds]
    exact pure.mono le

/-- The cursor may be moved afterwards, to `count` bytes behind a place near the message. -/
theorem seeking {before start count : Nat} {step : Reader → α × Except Error Reader}
    (h : Safe near mid (Decoder.filled step) r) (here : start ≤ r.length + before)
    (fits : before + count ≤ memoryLimit) (le : before + count ≤ far) :
    Safe near far
      (Decoder.filled fun r => ((step r).1, (step r).2 >>= (·.seekFrom start count))) r := by
  rw [Decoder.filled_seekFrom]
  refine bindAt h fun a r' _ same _ memory _ => ?_
  have moved : Position.add start count = .ok (start + count) :=
    Position.add_eq_ok_iff.mpr ⟨rfl, lt_limit_of_near memory (same.symm ▸ here) fits⟩
  simp only [moved]
  refine .ok rfl ?_
  show start + count ≤ r'.length + far
  omega

end Safe

/-- Whatever a step is read from, its value has a property. -/
def Gives (post : α → Prop) (d : Decoder α) : Prop := ∀ r a r', d r = .ok (a, r') → post a

namespace Gives

variable {pre : β → Prop} {post : α → Prop} {d : Decoder β}

theorem of_all (holds : ∀ a, post a) (d : Decoder α) : Gives post d := fun _ a _ _ => holds a

theorem imp {d : Decoder α} {pre : α → Prop} (h : Gives pre d) (implies : ∀ a, pre a → post a) :
    Gives post d := fun r a r' read => implies a (h r a r' read)

theorem pure {a : α} (holds : post a) : Gives post (Pure.pure a) := by
  intro _ _ _ read
  cases read
  exact holds

theorem bindOf {k : β → Decoder α} (first : Gives pre d) (second : ∀ b, pre b → Gives post (k b)) :
    Gives post (d >>= k) := by
  intro _ _ _ read
  obtain ⟨b, _, taken, rest⟩ := Decoder.bind_eq_ok read
  exact second b (first _ _ _ taken) _ _ _ rest

theorem bind {k : β → Decoder α} (second : ∀ b, Gives post (k b)) : Gives post (d >>= k) :=
  bindOf (of_all (fun _ => trivial) d) fun b _ => second b

/-- A value that is known before it is passed on. -/
theorem pass {b : β} {k : β → Decoder α} (second : Gives post (k b)) :
    Gives post (Pure.pure b >>= k) := second

theorem map {g : β → α} (h : Gives (fun b => post (g b)) d) : Gives post (g <$> d) :=
  bindOf h fun _ holds => pure holds

theorem take {count : Nat} : Gives (fun bytes => bytes.length = count) (Decoder.take count) :=
  map (of_all (fun octets => octets.property) _)

theorem ite {p : Prop} [Decidable p] {d other : Decoder α} (yes : Gives post d)
    (no : Gives post other) : Gives post (if p then d else other) := by
  split <;> assumption

end Gives

end Wire

end Smb1
