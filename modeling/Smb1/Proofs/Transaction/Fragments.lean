import Smb1.Proofs.Transaction.Codec
import Smb1.Proofs.Transaction.Cut
import Smb1.Proofs.Transaction.Reassembly

/-! An answer in frames. A server cuts the payloads of an answer as a client cuts those of a
request; where the cut succeeds, no frame is empty unless it is the only one. -/
namespace Smb1.Transaction

/-- What a server sends, and the buffer that bounds its frames. -/
structure Answer where
  kind : Kind
  setup : List UInt16
  parameters : Bytes
  data : Bytes
  maxBufferSize : Nat

/-- What a frame brings of a payload, and where it belongs. -/
def ResponseFrame.piece (f : ResponseFrame) (part : Section) : Nat × Bytes :=
  (f.displacement part, f.payload part)

namespace Answer

variable {a : Answer} {first : Bool} {p d : Nat} {frames : List ResponseFrame}

def payload (a : Answer) : Section → Bytes
  | .parameter => a.parameters
  | .data => a.data

/-- How much of each payload comes before the displacements. -/
def sent (p d : Nat) : Section → Nat
  | .parameter => p
  | .data => d

def layout (a : Answer) (p d : Nat) : Layout :=
  .fit (Header.length + 1 + a.kind.responseWordsLength a.setup.length + 2) 0 a.kind.alignment
    a.maxBufferSize (a.parameters.length - p) (a.data.length - d)

/-- The frame that carries what a buffer takes from the displacements on. -/
def frame (a : Answer) (p d : Nat) : ResponseFrame :=
  .fragment a.kind a.setup a.parameters a.data p d (a.layout p d)

/-- Nothing is left behind the frame from the displacements on. -/
def Finished (a : Answer) (p d : Nat) : Prop :=
  a.parameters.length ≤ p + (a.layout p d).parameterCount ∧
    a.data.length ≤ d + (a.layout p d).dataCount

/-- The frames from the displacements on. Only a first frame may carry nothing and have a
successor. -/
inductive Cut (a : Answer) : (first : Bool) → (p d : Nat) → List ResponseFrame → Prop
  | last {first : Bool} {p d : Nat} (finished : a.Finished p d) : Cut a first p d [a.frame p d]
  | more {first : Bool} {p d : Nat} {rest : List ResponseFrame} (unfinished : ¬a.Finished p d)
      (some : first = true ∨ 0 < (a.layout p d).parameterCount + (a.layout p d).dataCount)
      (cut : Cut a false (p + (a.layout p d).parameterCount) (d + (a.layout p d).dataCount) rest) :
      Cut a first p d (a.frame p d :: rest)

/-- The budget of the cut is never used up. -/
theorem cut_of_fragmentsFrom {budget : Nat}
    (enough : (a.parameters.length - p) + (a.data.length - d) + (if first then 2 else 1) ≤ budget)
    (h : ResponseFrame.fragmentsFrom a.kind a.setup a.parameters a.data a.maxBufferSize budget p d
      first = .ok frames) : a.Cut first p d frames := by
  induction budget generalizing first p d frames with
  | zero =>
    split at enough <;> omega
  | succ budget ih =>
    have parameters : (a.layout p d).parameterCount ≤ a.parameters.length - p := Nat.min_le_left ..
    have data : (a.layout p d).dataCount ≤ a.data.length - d := Nat.min_le_left ..
    unfold ResponseFrame.fragmentsFrom at h
    simp only at h
    split at h
    · cases h
    next room =>
      split at h
      next finished =>
        cases h
        exact .last finished
      next unfinished =>
        change (ResponseFrame.fragmentsFrom a.kind a.setup a.parameters a.data a.maxBufferSize
          budget (p + (a.layout p d).parameterCount) (d + (a.layout p d).dataCount) false >>=
            fun rest => .ok (a.frame p d :: rest)) = .ok frames at h
        cases later : ResponseFrame.fragmentsFrom a.kind a.setup a.parameters a.data a.maxBufferSize
            budget (p + (a.layout p d).parameterCount) (d + (a.layout p d).dataCount) false with
        | error e =>
          rw [later] at h
          cases h
        | ok rest =>
          rw [later] at h
          cases h
          have some : first = true ∨
              0 < (a.layout p d).parameterCount + (a.layout p d).dataCount := by
            cases first with
            | true => exact .inl rfl
            | false =>
              refine .inr (Nat.pos_of_ne_zero fun none => room ⟨rfl, ?_, ?_, unfinished⟩)
              · exact Nat.eq_zero_of_add_eq_zero_right none
              · exact Nat.eq_zero_of_add_eq_zero_left none
          refine .more unfinished some (ih ?_ later)
          rcases some with rfl | some
          · simp only [if_true, Bool.false_eq_true, if_false] at enough ⊢
            omega
          · simp only [Bool.false_eq_true, if_false]
            split at enough <;> omega

/-- The words of a frame have room for what they tell of the answer. -/
structure Shown (a : Answer) : Prop where
  total : ∀ part, (a.payload part).length ≤ a.kind.maxTotal
  small : a.maxBufferSize ≤ 0xFFFF
  words : a.kind.responseWordsLength a.setup.length / 2 ≤ 255

theorem count_layout_le (a : Answer) (p d : Nat) (part : Section) :
    (a.layout p d).count part ≤ (a.payload part).length - sent p d part := by
  cases part <;> exact Nat.min_le_left ..

theorem sent_advance (p d : Nat) (l : Layout) (part : Section) :
    sent (p + l.parameterCount) (d + l.dataCount) part = sent p d part + l.count part := by
  cases part <;> rfl

theorem inside_advance (inside : ∀ part, sent p d part ≤ (a.payload part).length) (part : Section) :
    sent (p + (a.layout p d).parameterCount) (d + (a.layout p d).dataCount) part ≤
      (a.payload part).length := by
  have inside := inside part
  have count := a.count_layout_le p d part
  rw [sent_advance]
  omega

theorem total_frame (h : a.Shown) (p d : Nat) (part : Section) :
    (a.frame p d).total part = (a.payload part).length := by
  cases part
  · exact Kind.toNat_ofNat (h.total .parameter)
  · exact Kind.toNat_ofNat (h.total .data)

theorem displacement_frame (h : a.Shown) {part : Section}
    (inside : sent p d part ≤ (a.payload part).length) :
    (a.frame p d).displacement part = sent p d part := by
  have small := Nat.le_trans inside (h.total part)
  cases part
  · exact Kind.toNat_ofNat small
  · exact Kind.toNat_ofNat small

theorem payload_frame (a : Answer) (p d : Nat) (part : Section) :
    (a.frame p d).payload part =
      ((a.payload part).drop (sent p d part)).take ((a.layout p d).count part) := by
  cases part <;> rfl

theorem piece_frame (h : a.Shown) {part : Section}
    (inside : sent p d part ≤ (a.payload part).length) :
    (a.frame p d).piece part = (sent p d part,
      ((a.payload part).drop (sent p d part)).take ((a.layout p d).count part)) :=
  Prod.ext (displacement_frame h inside) (payload_frame a p d part)

theorem expressible_frame (h : a.Shown)
    (inside : ∀ part, sent p d part ≤ (a.payload part).length) : (a.frame p d).Expressible where
  totalParameterCount := Nat.le_trans (Nat.le_of_eq (total_frame h p d .parameter)) (h.total _)
  totalDataCount := Nat.le_trans (Nat.le_of_eq (total_frame h p d .data)) (h.total _)
  parameterDisplacement := Nat.le_trans (Nat.le_of_eq (displacement_frame h (inside .parameter)))
    (Nat.le_trans (inside _) (h.total _))
  dataDisplacement := Nat.le_trans (Nat.le_of_eq (displacement_frame h (inside .data)))
    (Nat.le_trans (inside _) (h.total _))
  words := h.words

theorem length_frame (a : Answer) (p d : Nat) :
    (a.frame p d).parameters.length = (a.layout p d).parameterCount ∧
      (a.frame p d).data.length = (a.layout p d).dataCount := by
  have parameters : (a.layout p d).parameterCount ≤ a.parameters.length - p := Nat.min_le_left ..
  have data : (a.layout p d).dataCount ≤ a.data.length - d := Nat.min_le_left ..
  simp only [frame, ResponseFrame.fragment, Payload.length_held, List.length_take, List.length_drop]
  omega

/-- Where the words of a frame stand right behind the header, its payloads lie as laid out. -/
theorem offsets_frame (a : Answer) (p d : Nat) :
    (a.frame p d).offsets (Header.length + 1) =
      ⟨(a.layout p d).parameterOffset, (a.layout p d).dataOffset⟩ := by
  have begins : (a.frame p d).offsets (Header.length + 1) = ⟨(a.layout p d).parameterOffset,
      a.kind.alignment.up ((a.layout p d).parameterOffset + (a.frame p d).parameters.length)⟩ := rfl
  rw [begins, (length_frame a p d).1]
  rfl

/-- A frame on its own fits a message. -/
theorem inside_frame (h : a.Shown) (p d : Nat) (unicode : Bool) :
    Header.length + 1 + a.kind.responseWordsLength a.setup.length + 2 + ((a.frame p d).bytes.bytesAt
      (Header.length + 1 + a.kind.responseWordsLength a.setup.length + 2) unicode).length ≤
        0xFFFF := by
  have begins : a.kind.alignment.up
      (Header.length + 1 + a.kind.responseWordsLength a.setup.length + 2 + 0) ≤ 0xFFFF := by
    have words := h.words
    have narrow := a.kind.alignment_le
    have near := a.kind.alignment.up_lt
      (Header.length + 1 + a.kind.responseWordsLength a.setup.length + 2 + 0)
    have header : Header.length = 32 := rfl
    omega
  have inside : (a.layout p d).stop ≤ 0xFFFF := Layout.stop_fit_le begins h.small
  have length := (a.frame p d).length_bytes (Header.length + 1) unicode
  rw [offsets_frame, (length_frame a p d).1, (length_frame a p d).2] at length
  exact Nat.le_trans (Nat.le_of_eq length) inside

theorem carries_frame (a : Answer) (p d : Nat) :
    (∃ part, (a.frame p d).payload part ≠ []) ↔
      0 < (a.layout p d).parameterCount + (a.layout p d).dataCount := by
  have lengths (part : Section) :
      ((a.frame p d).payload part).length = (a.layout p d).count part := by
    have count := a.count_layout_le p d part
    rw [payload_frame, List.length_take, List.length_drop]
    omega
  have some (part : Section) : (a.frame p d).payload part ≠ [] ↔ 0 < (a.layout p d).count part := by
    rw [← lengths, List.length_pos_iff]
  simp only [some]
  constructor
  · rintro ⟨part, positive⟩
    cases part
    · exact Nat.add_pos_left positive _
    · exact Nat.add_pos_right _ positive
  · intro positive
    rcases Nat.add_pos_iff_pos_or_pos.mp positive with parameters | data
    · exact ⟨.parameter, parameters⟩
    · exact ⟨.data, data⟩

namespace Cut

theorem nonempty (cut : a.Cut first p d frames) : frames ≠ [] := by cases cut <;> simp

/-- Every frame is made at displacements within the payloads. -/
theorem made (cut : a.Cut first p d frames)
    (inside : ∀ part, sent p d part ≤ (a.payload part).length) :
    ∀ f ∈ frames, ∃ p d, (∀ part, sent p d part ≤ (a.payload part).length) ∧ f = a.frame p d := by
  induction cut with
  | last finished =>
    intro f member
    exact ⟨_, _, inside, List.mem_singleton.mp member⟩
  | @more first p d rest unfinished some cut ih =>
    intro f member
    rcases List.mem_cons.mp member with rfl | later
    · exact ⟨p, d, inside, rfl⟩
    · exact ih (inside_advance inside) f later

/-- The frames take both payloads from the displacements on to their ends. -/
theorem tiles (h : a.Shown) (cut : a.Cut first p d frames)
    (inside : ∀ part, sent p d part ≤ (a.payload part).length) (part : Section) :
    Tiles (a.payload part) (sent p d part) (frames.map (·.piece part)) := by
  induction cut with
  | @last first p d finished =>
    have count := a.count_layout_le p d part
    have inside := inside part
    have whole : sent p d part + (a.layout p d).count part = (a.payload part).length := by
      have enough : (a.payload part).length ≤ sent p d part + (a.layout p d).count part := by
        cases part
        · exact finished.1
        · exact finished.2
      omega
    rw [List.map_cons, List.map_nil, piece_frame h inside]
    refine .piece (Nat.le_of_eq whole) ?_
    rw [whole]
    exact .done
  | @more first p d rest unfinished some cut ih =>
    have rest := ih (inside_advance inside)
    have count := a.count_layout_le p d part
    have inside := inside part
    rw [sent_advance] at rest
    rw [List.map_cons, piece_frame h inside]
    exact .piece (by omega) rest

theorem carries_of_later (cut : a.Cut first p d frames) (later : first = false)
    (left : 0 < (a.parameters.length - p) + (a.data.length - d)) :
    ∀ f ∈ frames, ∃ part, f.payload part ≠ [] := by
  induction cut with
  | @last first p d finished =>
    intro f member
    obtain rfl := List.mem_singleton.mp member
    obtain ⟨parameters, data⟩ := finished
    exact (a.carries_frame p d).mpr (by omega)
  | @more first p d rest unfinished some cut ih =>
    intro f member
    rcases List.mem_cons.mp member with rfl | others
    · refine (a.carries_frame p d).mpr (some.resolve_left ?_)
      rw [later]
      decide
    · refine ih rfl ?_ f others
      unfold Finished at unfinished
      omega

/-- No frame is empty unless it has no successor. A first frame that could take nothing would have a
successor that cannot, either. -/
theorem carries (cut : a.Cut first p d frames) :
    frames.length = 1 ∨ ∀ f ∈ frames, ∃ part, f.payload part ≠ [] := by
  cases cut with
  | last finished => exact .inl rfl
  | @more _ _ _ rest unfinished some cut =>
    have left : 0 < (a.parameters.length - (p + (a.layout p d).parameterCount)) +
        (a.data.length - (d + (a.layout p d).dataCount)) := by
      unfold Finished at unfinished
      omega
    have others := cut.carries_of_later rfl left
    refine .inr fun f member => ?_
    rcases List.mem_cons.mp member with rfl | later
    · rw [carries_frame]
      refine Nat.pos_of_ne_zero fun none => ?_
      rw [Nat.eq_zero_of_add_eq_zero_right none, Nat.eq_zero_of_add_eq_zero_left none] at cut
      cases cut with
      | last finished => exact unfinished finished
      | more _ some _ =>
        rcases some with first | some
        · cases first
        · exact absurd none (Nat.ne_of_gt some)
    · exact others f later

end Cut

end Answer

/-- Frames that bring two payloads between them, each byte once, in any order. -/
structure Shares (payload : Section → Bytes) (frames : List ResponseFrame) : Prop where
  nonempty : frames ≠ []
  total : ∀ f ∈ frames, ∀ part, f.total part = (payload part).length
  inside : ∀ f ∈ frames, ∀ part,
    f.displacement part + (f.payload part).length ≤ (payload part).length
  slice : ∀ f ∈ frames, ∀ part, ∀ i < (f.payload part).length,
    (f.payload part)[i]? = (payload part)[f.displacement part + i]?
  apart : ∀ part, frames.Pairwise fun f g =>
    f.displacement part + (f.payload part).length ≤ g.displacement part ∨
      g.displacement part + (g.payload part).length ≤ f.displacement part
  length : ∀ part, (frames.flatMap (·.payload part)).length = (payload part).length
  carries : frames.length = 1 ∨ ∀ f ∈ frames, ∃ part, f.payload part ≠ []

theorem Shares.perm {payload : Section → Bytes} {frames others : List ResponseFrame}
    (shares : Shares payload frames) (perm : others.Perm frames) : Shares payload others where
  nonempty none := shares.nonempty (none ▸ perm).nil_eq.symm
  total f member := shares.total f (perm.mem_iff.mp member)
  inside f member := shares.inside f (perm.mem_iff.mp member)
  slice f member := shares.slice f (perm.mem_iff.mp member)
  apart part := (perm.pairwise_iff fun apart => apart.symm).mpr (shares.apart part)
  length part := (perm.flatMap_right _).length_eq.trans (shares.length part)
  carries := by
    rw [perm.length_eq]
    exact shares.carries.imp_right fun all f member => all f (perm.mem_iff.mp member)

/-- What a server cuts an answer into. -/
theorem Answer.shares_of_fragments {a : Answer} {frames : List ResponseFrame} (h : a.Shown)
    (cut : ResponseFrame.fragments a.kind a.setup a.parameters a.data a.maxBufferSize =
      .ok frames) :
    Shares a.payload frames ∧ ∀ f ∈ frames, ∃ p d,
      (∀ part, sent p d part ≤ (a.payload part).length) ∧ f = a.frame p d := by
  have cut : a.Cut true 0 0 frames := cut_of_fragmentsFrom (by simp) cut
  have begins (part : Section) : sent 0 0 part = 0 := by cases part <;> rfl
  have inside (part : Section) : sent 0 0 part ≤ (a.payload part).length := by
    cases part <;> exact Nat.zero_le _
  have made := cut.made inside
  have tiles (part : Section) := cut.tiles h inside part
  simp only [begins] at tiles
  refine ⟨⟨cut.nonempty, ?_, ?_, ?_, ?_, ?_, cut.carries⟩, made⟩
  · intro f member part
    obtain ⟨p, d, -, rfl⟩ := made f member
    exact total_frame h p d part
  · intro f member part
    exact ((tiles part).slice _ (List.mem_map.mpr ⟨f, member, rfl⟩)).2.1
  · intro f member part
    exact ((tiles part).slice _ (List.mem_map.mpr ⟨f, member, rfl⟩)).2.2
  · intro part
    exact (List.pairwise_map.mp (tiles part).pairwise).imp .inl
  · intro part
    have whole := (tiles part).flatMap_eq
    rw [List.flatMap_map, List.drop_zero] at whole
    exact congrArg List.length whole

end Smb1.Transaction
