import Smb1.Proofs.Transaction.Codec
import Smb1.Proofs.Transaction.Referral
import Smb1.Proofs.Wire.Numerals

/-! The counts and offsets of transaction frames and of referrals, each with the number that belongs
there. A frame cuts its numbers down to their fields. A referral has its offsets compared with
theirs first. -/
namespace Smb1.Transaction

open Wire

variable {start : Nat} {unicode : Bool}

/-- How long a payload of a frame is and where it lies. -/
def partCounts (payload : Payload) (offset : Nat) : List (Quantity × Nat) :=
  [(.length payload.bytes, payload.length), (.offset 0 payload.bytes, offset)]

/-- The payloads are padded to their places, and the second is there if it has any bytes. -/
theorem bytesAt_payloads (a : Alignment) (parameters data : Payload) (position : Nat) :
    (payloads a parameters data).bytesAt position unicode =
      List.replicate (a.up position - position) 0 ++ parameters.bytes ++
        if data.length = 0 then []
        else List.replicate (dataStart a position parameters -
          (a.up position + parameters.length)) 0 ++ data.bytes := by
  have first := length_aligned a parameters.bytes position unicode
  rw [payloads, Encoder.bytesAt_append, first, Encoder.bytesAt_aligned, Payload.length_bytes]
  split
  · rfl
  · rw [Encoder.bytesAt_aligned, dataStart]

/-- The payloads lie where their offsets say, if they have any bytes. -/
theorem describes_payloads (a : Alignment) (parameters data : Payload) (front : Bytes)
    {position : Nat} {bytes : Bytes} (here : start + front.length = position)
    (split : bytes = front ++ (payloads a parameters data).bytesAt position unicode) :
    (parameters.length = parameters.bytes.length ∧ parameters.bytes <:+: bytes) ∧
      (parameters.bytes ≠ [] → ∃ before after, bytes = before ++ parameters.bytes ++ after ∧
        a.up position = start + before.length) ∧
      (data.length = data.bytes.length ∧ data.bytes <:+: bytes) ∧
      (data.bytes ≠ [] → ∃ before after, bytes = before ++ data.bytes ++ after ∧
        dataStart a position parameters = start + before.length) := by
  have le := a.le_up position
  have dataLe := a.le_up (a.up position + parameters.length)
  rw [bytesAt_payloads] at split
  have first : ∃ before after, bytes = before ++ parameters.bytes ++ after ∧
      a.up position = start + before.length := by
    refine ⟨front ++ List.replicate (a.up position - position) 0, _,
      split.trans (by simp only [List.append_assoc]; rfl), ?_⟩
    rw [List.length_append, List.length_replicate]
    omega
  have second (some : data.bytes ≠ []) : ∃ before after, bytes = before ++ data.bytes ++ after ∧
      dataStart a position parameters = start + before.length := by
    have filled : data.length ≠ 0 := by rwa [← data.length_bytes, Ne, List.length_eq_zero_iff]
    rw [if_neg filled, dataStart] at split
    refine ⟨front ++ (List.replicate (a.up position - position) 0 ++ parameters.bytes ++
      List.replicate (dataStart a position parameters - (a.up position + parameters.length)) 0),
      [], split.trans (by simp only [List.append_assoc, List.append_nil, dataStart]), ?_⟩
    simp only [List.length_append, List.length_replicate, Payload.length_bytes, dataStart]
    omega
  have inside : data.bytes <:+: bytes := by
    by_cases none : data.bytes = []
    · rw [none]
      exact List.nil_infix
    · obtain ⟨before, after, whole, -⟩ := second none
      exact ⟨before, after, whole.symm⟩
  obtain ⟨before, after, whole, place⟩ := first
  exact ⟨⟨parameters.length_bytes.symm, before, after, whole.symm⟩,
    fun _ => ⟨before, after, whole, place⟩, ⟨data.length_bytes.symm, inside⟩, second⟩

namespace ResponseFrame

def numerals (f : ResponseFrame) (start : Nat) : List Numeral :=
  let offsets := f.offsets start
  let totals := [(Quantity.given, f.totalParameterCount.toNat), (.given, f.totalDataCount.toNat)]
  let counts := partCounts f.parameters offsets.parameters ++
    (.given, f.parameterDisplacement.toNat) :: partCounts f.data offsets.data ++
    [(.given, f.dataDisplacement.toNat)]
  if f.kind = .ntTransact then
    Numeral.run 3 4 (totals ++ counts) ++ [⟨.count, [(35, 1)], f.setup.length⟩]
  else
    Numeral.run 0 2 totals ++ Numeral.run 6 2 counts ++ [⟨.count, [(18, 1)], f.setup.length⟩]

theorem truncates_words (f : ResponseFrame) :
    ∀ n ∈ f.numerals start, n.Truncates (f.words.bytesAt start unicode) := by
  unfold numerals words countWords partCounts
  by_cases nt : f.kind = .ntTransact
  · simp only [nt, if_true, Numeral.run, List.cons_append, List.nil_append, List.forall_mem_cons,
      List.not_mem_nil, false_imp_iff, implies_true, and_true]
    exact ⟨.u32 rfl, .u32 rfl, .u32 rfl, .u32 rfl, .u32 rfl, .u32 rfl, .u32 rfl, .u32 rfl, .u8 rfl⟩
  · simp only [nt, if_false, Numeral.run, List.cons_append, List.nil_append, List.forall_mem_cons,
      List.not_mem_nil, false_imp_iff, implies_true, and_true]
    exact ⟨.u16 rfl, .u16 rfl, .u16 rfl, .u16 rfl, .u16 rfl, .u16 rfl, .u16 rfl, .u16 rfl, .u8 rfl⟩

theorem describes_bytes (f : ResponseFrame) :
    let bytesStart := start + f.kind.responseWordsLength f.setup.length + 2
    ∀ n ∈ f.numerals start, n.Describes bytesStart (f.bytes.bytesAt bytesStart unicode) := by
  intro bytesStart
  have parts := describes_payloads f.kind.alignment f.parameters f.data []
    (Nat.add_zero bytesStart) (congrArg (Encoder.bytesAt · bytesStart unicode) f.bytes_eq)
  unfold numerals partCounts
  split <;>
  · simp only [Numeral.run, List.cons_append, List.nil_append, List.forall_mem_cons,
      Numeral.Describes, Nat.zero_add, List.not_mem_nil, false_imp_iff, implies_true,
        and_true, true_and]
    exact parts

end ResponseFrame

namespace RequestFrame

def numerals (f : RequestFrame) (start : Nat) (unicode : Bool) : List Numeral :=
  let offsets := f.offsets start unicode
  let parameters := partCounts f.parameters offsets.parameters
  let data := partCounts f.data offsets.data
  let totals := [(Quantity.given, f.totalParameterCount.toNat), (.given, f.totalDataCount.toNat)]
  let maxima := [(Quantity.given, f.maxParameterCount.toNat), (.given, f.maxDataCount.toNat)]
  if f.secondary then
    let counts := totals ++ parameters ++ (.given, f.parameterDisplacement.toNat) :: data ++
      [(.given, f.dataDisplacement.toNat)]
    if f.kind = .ntTransact then Numeral.run 3 4 counts else Numeral.run 0 2 counts
  else if f.kind = .ntTransact then
    ⟨.given, [(0, 1)], f.maxSetupCount.toNat⟩ ::
      Numeral.run 3 4 (totals ++ maxima ++ parameters ++ data) ++
      [⟨.count, [(35, 1)], f.setup.length⟩]
  else
    Numeral.run 0 2 (totals ++ maxima) ++ ⟨.given, [(8, 1)], f.maxSetupCount.toNat⟩ ::
      Numeral.run 18 2 (parameters ++ data) ++ [⟨.count, [(26, 1)], f.setup.length⟩]

theorem truncates_words (f : RequestFrame) :
    ∀ n ∈ f.numerals start unicode, n.Truncates (f.words.bytesAt start unicode) := by
  unfold numerals words
  simp only [Encoder.bytesAt_positioned]
  by_cases secondary : f.secondary = true
  · simp only [if_pos secondary, secondaryWords, secondaryCounts]
    cases kind : f.kind with
    | ntTransact =>
      simp only [if_true, Numeral.run, partCounts, List.cons_append, List.nil_append,
        List.forall_mem_cons, List.not_mem_nil, false_imp_iff, implies_true, and_true]
      exact ⟨.u32 rfl, .u32 rfl, .u32 rfl, .u32 rfl, .u32 rfl, .u32 rfl, .u32 rfl, .u32 rfl⟩
    | transaction | transaction2 =>
      simp only [reduceCtorEq, if_false, Numeral.run, partCounts, List.cons_append,
        List.nil_append, List.forall_mem_cons, List.not_mem_nil, false_imp_iff, implies_true,
        and_true]
      exact ⟨.u16 rfl, .u16 rfl, .u16 rfl, .u16 rfl, .u16 rfl, .u16 rfl, .u16 rfl, .u16 rfl⟩
  · simp only [if_neg secondary, primaryWords]
    by_cases nt : f.kind = .ntTransact
    · simp only [if_pos nt, Encoder.bytesAt_append, Encoder.bytesAt_u8, Encoder.bytesAt_u16,
        Encoder.bytesAt_u32, List.append_assoc, Numeral.run, partCounts, List.cons_append,
        List.nil_append, List.forall_mem_cons, List.not_mem_nil, false_imp_iff, implies_true,
        and_true]
      exact ⟨.word f.maxSetupCount rfl, .word f.totalParameterCount rfl,
        .word f.totalDataCount rfl, .word f.maxParameterCount rfl, .word f.maxDataCount rfl,
        .u32 rfl, .u32 rfl, .u32 rfl, .u32 rfl, .u8 rfl⟩
    · simp only [if_neg nt, Encoder.bytesAt_append, Encoder.bytesAt_u8, Encoder.bytesAt_u16,
        Encoder.bytesAt_u32, List.append_assoc, Numeral.run, partCounts, List.cons_append,
        List.nil_append, List.forall_mem_cons, List.not_mem_nil, false_imp_iff, implies_true,
        and_true]
      exact ⟨.u16 rfl, .u16 rfl, .u16 rfl, .u16 rfl, .word f.maxSetupCount rfl, .u16 rfl,
        .u16 rfl, .u16 rfl, .u16 rfl, .u8 rfl⟩

theorem describes_bytes (f : RequestFrame) :
    let bytesStart := start + f.wordsLength + 2
    ∀ n ∈ f.numerals start unicode,
      n.Describes bytesStart (f.bytes.bytesAt bytesStart unicode) := by
  intro bytesStart
  have split : f.bytes.bytesAt bytesStart unicode = f.nameBytes.bytesAt bytesStart unicode ++
      (payloads f.kind.alignment f.parameters f.data).bytesAt
        (f.payloadsStart start unicode) unicode := by
    rw [bytes_eq, Encoder.bytesAt_append]
    rfl
  have parts := describes_payloads f.kind.alignment f.parameters f.data _ rfl split
  have offsets := f.offsets_eq start unicode
  unfold numerals partCounts
  rw [offsets]
  split
  · split <;>
    · simp only [Numeral.run, List.cons_append, List.nil_append, List.forall_mem_cons,
        Numeral.Describes, Nat.zero_add, List.not_mem_nil, false_imp_iff, implies_true,
        and_true, true_and]
      exact parts
  · split <;>
    · simp only [Numeral.run, List.cons_append, List.nil_append, List.forall_mem_cons,
        Numeral.Describes, Nat.zero_add, List.not_mem_nil, false_imp_iff, implies_true,
        and_true, true_and]
      exact parts

end RequestFrame

variable {data front back : Bytes} {count : Nat}

theorem LiesAt.left (lies : LiesAt (front ++ back) data start) : LiesAt front data start := by
  obtain ⟨before, after, rfl, here⟩ := lies
  exact ⟨before, back ++ after, by simp only [List.append_assoc], here⟩

theorem LiesAt.right (wide : front.length = count) (lies : LiesAt (front ++ back) data start) :
    LiesAt back data (start + count) := by
  obtain ⟨before, after, rfl, here⟩ := lies
  exact ⟨before ++ front, after, by simp only [List.append_assoc],
    by rw [List.length_append, here, wide]⟩

theorem LiesAt.slice (lies : LiesAt front data start) (wide : front.length = count) :
    Wire.slice data (start, count) = front := by
  obtain ⟨before, after, rfl, rfl⟩ := lies
  rw [Wire.slice, List.append_assoc, List.drop_left, ← wide, List.take_left]

theorem LiesAt.truncates {n : Numeral} (lies : LiesAt front data start)
    (truncates : n.Truncates front) : (n.shift start).Truncates data := by
  obtain ⟨before, after, rfl, rfl⟩ := lies
  exact truncates.within before after

theorem LiesAt.describes {n : Numeral} (lies : LiesAt front data start)
    (describes : n.Describes start front) (moved : Nat) : (n.shift moved).Describes 0 data := by
  obtain ⟨before, after, rfl, here⟩ := lies
  exact describes.within moved here after

/-- A number of a referral is cut down to its field unless it stays whole, and tells what it
should. -/
structure Sent (data : Bytes) (n : Numeral) : Prop where
  truncates : n.Truncates data
  describes : n.Describes 0 data
  whole : n.quantity.Whole → n.Fits

namespace ReferralEntry

variable {distance : Nat} {strings strings' : Bytes} {e : ReferralEntry}

/-- Offsets from `origin`, one behind the other from `position` on, to texts that lie one behind
the other from `next` on. -/
def placings (origin : Nat) : (position next : Nat) → List Bytes → List Numeral
  | _, _, [] => []
  | position, next, text :: texts =>
    ⟨.offset origin text, [(position, 2)], next - origin⟩ ::
      placings origin (position + 2) (next + text.length) texts

/-- The texts that an entry points to. -/
def texts (unicode : Bool) (e : ReferralEntry) : List Bytes :=
  if e.version = 1 then []
  else if e.version = 2 then e.targets unicode
  else if e.isNameList then
    [terminated unicode e.specialName, e.expandedNames.flatMap (terminated unicode)]
  else e.targets unicode

/-- The numbers of an entry at `start` whose texts lie from `next` on. -/
def numerals (unicode : Bool) (start next : Nat) (e : ReferralEntry) : List Numeral :=
  ⟨.entrySize, [(start + 2, 2)], e.size unicode⟩ ::
    if e.version = 1 then []
    else if e.version = 2 then placings start (start + 16) next (e.targets unicode)
    else if e.isNameList then
      placings start (start + 12) next [terminated unicode e.specialName] ++
        ⟨.count, [(start + 14, 2)], e.expandedNames.length⟩ ::
          placings start (start + 16) (next + (terminated unicode e.specialName).length)
            [e.expandedNames.flatMap (terminated unicode)]
    else placings start (start + 12) next (e.targets unicode)

/-- Offsets that are written lead to their texts. -/
theorem placings_sent {texts : List Bytes} {offsets : List UInt16} {position next : Nat}
    (placed : place distance texts strings = .ok (offsets, strings'))
    (behind : next = start + distance + strings.length)
    (fields : LiesAt (offsets.flatMap Word.encode) data position)
    (area : LiesAt strings' data (start + distance)) :
    ∀ n ∈ placings start position next texts, Sent data n := by
  -- The strings grow by one text a step; where the area starts does not depend on them.
  induction texts generalizing offsets strings position next with
  | nil => nofun
  | cons text texts ih =>
    rw [place] at placed
    split at placed
    · cases placed
    next small =>
      obtain ⟨⟨offsets, more⟩, later, done⟩ := ok_of_bind placed
      cases done
      have value : next - start = distance + strings.length := by omega
      rw [List.flatMap_cons] at fields
      rintro n (_ | ⟨_, among⟩)
      · refine ⟨?_, fun _ => ?_, fun _ => ?_⟩
        · rw [value]
          exact .u16 (fields.left.slice (Word.length_encode _))
        · obtain ⟨rfl, -⟩ := place_eq_ok later
          rw [List.append_assoc] at area
          obtain ⟨before, after, split, here⟩ := (area.right rfl).left
          refine ⟨before, after, split, ?_⟩
          show start + (next - start) = 0 + before.length
          omega
        · show next - start < 0x10000
          omega
      · refine ih later ?_ (fields.right (Word.length_encode _)) n among
        rw [List.length_append]
        omega

/-- An entry that is written puts its texts behind the others, and what its numbers say is so. -/
theorem numerals_sent {entry : Bytes}
    (encoded : e.encode unicode distance strings = .ok (entry, strings')) :
    entry.length = e.size unicode ∧ strings' = strings ++ (e.texts unicode).flatten ∧
      ∀ {data : Bytes} {start : Nat}, LiesAt entry data start →
        LiesAt strings' data (start + distance) →
        ∀ n ∈ e.numerals unicode start (start + distance + strings.length), Sent data n := by
  have size {data : Bytes} {start : Nat}
      (fields : LiesAt (e.head (UInt16.ofNat (e.size unicode))) data start) :
      Sent data ⟨.entrySize, [(start + 2, 2)], e.size unicode⟩ :=
    ⟨.u16 ((fields.left.left.right (Word.length_encode _)).slice (Word.length_encode _)), trivial,
      False.elim⟩
  unfold ReferralEntry.encode at encoded
  split at encoded
  next first =>
    cases encoded
    refine ⟨?_, by simp [texts, first], fun fields _ => ?_⟩
    · rw [ReferralEntry.size, if_pos first]
      exact (List.length_append ..).trans (congrArg (· + _) length_head)
    · rw [numerals, if_pos first]
      exact List.forall_mem_singleton.mpr (size fields.left)
  next first =>
  split at encoded
  next second =>
    obtain ⟨⟨offsets, more⟩, placed, done⟩ := ok_of_bind encoded
    cases done
    obtain ⟨rfl, leads⟩ := place_eq_ok placed
    refine ⟨?_, by simp [texts, second, targets], fun fields area => ?_⟩
    · obtain ⟨path, alternatePath, node, rfl⟩ := targets_offsets leads
      simp [ReferralEntry.size, second]
    · rw [numerals, if_neg first, if_pos second, List.forall_mem_cons]
      exact ⟨size fields.left.left.left, placings_sent placed rfl (fields.right (by simp)) area⟩
  next second =>
  split at encoded
  next later =>
    split at encoded
    next list =>
      obtain ⟨⟨specials, behind⟩, placed, rest⟩ := ok_of_bind encoded
      obtain ⟨⟨names, more⟩, placedNames, done⟩ := ok_of_bind rest
      cases done
      obtain ⟨rfl, leads⟩ := place_eq_ok placed
      obtain ⟨rfl, leadsNames⟩ := place_eq_ok placedNames
      -- Each of the two lists of texts has one text, and so one offset.
      obtain ⟨toSpecial, rfl⟩ := List.length_eq_one_iff.mp leads.length_eq.symm
      obtain ⟨toNames, rfl⟩ := List.length_eq_one_iff.mp leadsNames.length_eq.symm
      refine ⟨by simp [ReferralEntry.size, *], by simp [texts, *], fun fields area => ?_⟩
      rw [numerals, if_neg first, if_neg second, if_pos list, List.forall_mem_cons,
        List.forall_mem_append, List.forall_mem_cons]
      refine ⟨size fields.left.left.left.left,
        placings_sent placed rfl (fields.left.left.right (by simp)) area.left,
        ⟨.u16 ((fields.left.right (by simp)).slice (Word.length_encode _)), trivial, False.elim⟩,
        placings_sent placedNames ?_ (fields.right (by simp)) area⟩
      simp [Nat.add_assoc]
    next plain =>
      obtain ⟨⟨offsets, more⟩, placed, done⟩ := ok_of_bind encoded
      cases done
      obtain ⟨rfl, leads⟩ := place_eq_ok placed
      refine ⟨?_, by simp [texts, targets, *], fun fields area => ?_⟩
      · obtain ⟨path, alternatePath, node, rfl⟩ := targets_offsets leads
        have wide := e.serviceSiteGuid.property
        simp [ReferralEntry.size, *]
      · rw [numerals, if_neg first, if_neg second, if_neg plain, List.forall_mem_cons]
        exact ⟨size fields.left.left.left,
          placings_sent placed rfl (fields.left.right (by simp)) area⟩
  · cases encoded

end ReferralEntry

namespace ReferralResponse

/-- The numbers of some entries from `start` on whose texts lie from `next` on. -/
def entryNumerals (unicode : Bool) : (start next : Nat) → List ReferralEntry → List Numeral
  | _, _, [] => []
  | start, next, e :: rest =>
    e.numerals unicode start next ++
      entryNumerals unicode (start + e.size unicode) (next + (e.texts unicode).flatten.length) rest

def numerals (unicode : Bool) (r : ReferralResponse) : List Numeral :=
  ⟨.consumed, [(0, 2)], r.pathConsumed.toNat * if unicode then 2 else 1⟩ ::
    ⟨.count, [(2, 2)], r.entries.length⟩ ::
    entryNumerals unicode headLength (headLength + sizes unicode r.entries) r.entries

theorem entryNumerals_sent {entries : List ReferralEntry} {bytes strings strings' : Bytes}
    (encoded : encodeEntries unicode entries (sizes unicode entries) strings =
      .ok (bytes, strings')) :
    bytes.length = sizes unicode entries ∧ (∃ added, strings' = strings ++ added) ∧
      ∀ {data : Bytes} {start : Nat}, LiesAt bytes data start →
        LiesAt strings' data (start + sizes unicode entries) →
        ∀ n ∈ entryNumerals unicode start (start + sizes unicode entries + strings.length) entries,
          Sent data n := by
  -- What an entry adds to the start it takes off the distance, so the area stays in place.
  induction entries generalizing strings bytes with
  | nil =>
    cases encoded
    exact ⟨rfl, ⟨[], (List.append_nil _).symm⟩, nofun⟩
  | cons e rest ih =>
    obtain ⟨⟨entry, strings₁⟩, first, encoded⟩ := ok_of_bind encoded
    obtain ⟨⟨others, strings₂⟩, second, done⟩ := ok_of_bind encoded
    cases done
    obtain ⟨len, rfl, here⟩ := ReferralEntry.numerals_sent first
    have total : sizes unicode (e :: rest) = e.size unicode + sizes unicode rest := rfl
    rw [total, len, Nat.add_sub_cancel_left] at second
    obtain ⟨lens, ⟨added, rfl⟩, later⟩ := ih second
    refine ⟨by rw [List.length_append, len, lens, total],
      ⟨(e.texts unicode).flatten ++ added, List.append_assoc ..⟩, fun fields area => ?_⟩
    rw [entryNumerals, List.forall_mem_append]
    refine ⟨here fields.left area.left, ?_⟩
    rw [total, ← Nat.add_assoc] at area ⊢
    have others := later (fields.right len) area
    rwa [List.length_append, ← Nat.add_assoc] at others

theorem toNat_consumed {r : ReferralResponse} {consumed : UInt16}
    (counted : r.consumedBytes unicode = .ok consumed) :
    consumed.toNat = r.pathConsumed.toNat * if unicode then 2 else 1 := by
  unfold consumedBytes at counted
  cases unicode with
  | false =>
    cases counted
    exact (Nat.mul_one _).symm
  | true =>
    simp only [Bool.not_true, Bool.false_eq_true, if_false] at counted
    split at counted
    next fits =>
      cases counted
      rw [UInt16.toNat_mul]
      exact Nat.mod_eq_of_lt fits
    · cases counted

/-- What the numbers of a referral say is so, and some of them are never cut down. -/
theorem numerals_sent {r : ReferralResponse} {bytes : Bytes}
    (encoded : r.encode unicode = .ok bytes) : ∀ n ∈ r.numerals unicode, Sent bytes n := by
  obtain ⟨consumed, counted, encoded⟩ := ok_of_bind encoded
  obtain ⟨⟨entries, strings⟩, listed, done⟩ := ok_of_bind encoded
  obtain ⟨len, -, sent⟩ := entryNumerals_sent listed
  have whole : LiesAt bytes bytes 0 := ⟨[], [], (List.append_nil _).symm, rfl⟩
  obtain rfl := Except.ok.inj done
  have list : LiesAt entries _ (0 + headLength) := whole.left.right (by simp [headLength])
  have area : LiesAt strings _ (0 + (headLength + sizes unicode r.entries)) :=
    whole.right (by simp [headLength, len]; omega)
  rw [Nat.zero_add] at list area
  rw [numerals, List.forall_mem_cons, List.forall_mem_cons]
  refine ⟨⟨?_, trivial, fun _ => ?_⟩, ⟨?_, trivial, False.elim⟩, sent list area⟩
  · rw [← toNat_consumed counted]
    exact .word consumed rfl
  · show _ < 0x10000
    rw [← toNat_consumed counted]
    exact consumed.toNat_lt
  · have field := whole.left.left.left.right (Word.length_encode _)
    rw [Nat.zero_add] at field
    exact .u16 (field.slice (Word.length_encode _))

end ReferralResponse

end Smb1.Transaction
