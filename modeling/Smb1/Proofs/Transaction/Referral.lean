import Mathlib.Data.List.Forall2
import Smb1.Proofs.Wire.Text
import Smb1.Transaction.Referral

/-! Referral responses come back from their bytes. Entries grow at the front and their strings at
the back, and every offset that is written leads from the start of its entry to where the string
lies in the end. -/
namespace Smb1.Transaction

open Wire
open Text (Terminable)

/-- Bytes lie at a position of a message. -/
def LiesAt (bytes data : Bytes) (position : Nat) : Prop :=
  ∃ before after, data = before ++ bytes ++ after ∧ before.length = position

variable {unicode : Bool} {data strings strings' : Bytes} {text : String} {names : List String}
  {start distance : Nat}

theorem bytesAt_stringUnaligned (text : String) (start : Nat) (unicode : Bool) :
    (Encoder.stringUnaligned text).bytesAt start unicode = terminated unicode text := by
  rw [Encoder.stringUnaligned, Encoder.bytesAt_positioned]
  cases unicode
  · exact Encoder.bytesAt_oemString text start false
  · exact Encoder.bytesAt_utf16 text start true

theorem bytesAt_names (names : List String) (start : Nat) (unicode : Bool) :
    (Encoder.concat (names.map .stringUnaligned)).bytesAt start unicode =
      names.flatMap (terminated unicode) := by
  induction names generalizing start with
  | nil => rfl
  | cons name names ih =>
    rw [List.map_cons, Encoder.concat_cons, Encoder.bytesAt_append, bytesAt_stringUnaligned, ih,
      List.flatMap_cons]

theorem drop_encode {W : Type} [Word W] (w : W) {count : Nat} (past : Word.size W ≤ count) :
    (Word.encode w).drop count = [] :=
  List.drop_eq_nil_of_le (Nat.le_trans (Nat.le_of_eq (Word.length_encode w)) past)

namespace ReferralEntry

theorem start_add {offset : Nat} {bytes : Bytes} (lies : LiesAt bytes data (start + offset))
    (held : data.length < memoryLimit) : Position.add start offset = .ok (start + offset) := by
  obtain ⟨before, after, rfl, here⟩ := lies
  simp only [List.length_append, here] at held
  exact Position.add_eq_ok_iff.mpr ⟨rfl, sum_lt_limit (by omega) (by omega)⟩

theorem textAt_eq_ok {offset : Nat} (lies : LiesAt (terminated unicode text) data (start + offset))
    (terminable : Terminable unicode text) (held : data.length < memoryLimit) :
    textAt data unicode start offset = .ok text := by
  have place := start_add lies held
  obtain ⟨before, after, rfl, here⟩ := lies
  rw [← bytesAt_stringUnaligned text (start + offset) unicode] at held ⊢
  have fits : start + offset + ((Encoder.stringUnaligned text).bytesAt (start + offset)
      unicode).length ≤ (before ++ (Encoder.stringUnaligned text).bytesAt (start + offset) unicode ++
        after).length := by
    simp only [List.length_append, here]
    omega
  have read := Reads.stringUnaligned terminable before after here fits held
  simp only [textAt, place, Reader.start, Reader.seek, bind, Except.bind, read]
  rfl

theorem textsAt_eq_ok {offset : Nat}
    (lies : LiesAt (names.flatMap (terminated unicode)) data (start + offset))
    (terminable : ∀ name ∈ names, Terminable unicode name) (held : data.length < memoryLimit) :
    textsAt data unicode names.length start offset = .ok names := by
  have place := start_add lies held
  obtain ⟨before, after, rfl, here⟩ := lies
  rw [← bytesAt_names names (start + offset) unicode] at held ⊢
  have each : ∀ limit position, ∀ name ∈ names, Reads limit position unicode
      (Encoder.stringUnaligned name) (Decoder.stringUnaligned limit) name :=
    fun _ _ name among => .stringUnaligned (terminable name among)
  have fits : start + offset + ((Encoder.concat (names.map .stringUnaligned)).bytesAt
      (start + offset) unicode).length ≤ (before ++ (Encoder.concat
        (names.map .stringUnaligned)).bytesAt (start + offset) unicode ++ after).length := by
    simp only [List.length_append, here]
    omega
  have read := Reads.times rfl (each _) before after here fits held
  simp only [textsAt, place, Reader.start, Reader.seek, bind, Except.bind, read]
  rfl

/-- From the start of an entry that lies `distance` bytes before `strings`, the offset leads to
`bytes` among them. -/
def LeadsTo (distance : Nat) (strings bytes : Bytes) (offset : UInt16) : Prop :=
  ∀ (front back : Bytes) (start : Nat), front.length = start + distance →
    LiesAt bytes (front ++ strings ++ back) (start + offset.toNat)

theorem LeadsTo.append {bytes : Bytes} {offset : UInt16} (leads : LeadsTo distance strings bytes
    offset) (more : Bytes) : LeadsTo distance (strings ++ more) bytes offset := by
  intro front back start len
  rw [← List.append_assoc, List.append_assoc]
  exact leads front (more ++ back) start len

/-- Texts are put behind the strings, and offsets lead to them. -/
theorem place_eq_ok {texts : List Bytes} {offsets : List UInt16}
    (placed : place distance texts strings = .ok (offsets, strings')) :
    strings' = strings ++ texts.flatten ∧
      List.Forall₂ (LeadsTo distance strings') texts offsets := by
  induction texts generalizing strings offsets with
  | nil =>
    cases placed
    exact ⟨(List.append_nil _).symm, .nil⟩
  | cons text texts ih =>
    rw [place] at placed
    split at placed
    · cases placed
    next small =>
      obtain ⟨⟨offsets, more⟩, later, done⟩ := ok_of_bind placed
      cases done
      obtain ⟨rfl, others⟩ := ih later
      refine ⟨by rw [List.flatten_cons, List.append_assoc], .cons ?_ others⟩
      intro front back start len
      refine ⟨front ++ strings, texts.flatten ++ back, by simp, ?_⟩
      rw [UInt16.toNat_ofNat_of_lt' (show _ < 0x10000 by omega), List.length_append, len,
        Nat.add_assoc]

/-- The first bytes of an entry. -/
def head (e : ReferralEntry) (size : UInt16) : Bytes :=
  Word.encode e.version ++ Word.encode size ++ Word.encode e.serverType ++ Word.encode e.flags.bits

/-- The fields that the first bytes show. -/
def headed (e : ReferralEntry) : ReferralEntry :=
  { blank with version := e.version, serverType := e.serverType, flags := e.flags }

/-- The fields that the version of an entry carries, and its form. The others have their
defaults. -/
def carried (e : ReferralEntry) : ReferralEntry :=
  if e.version = 1 then { e.headed with node := e.node }
  else if e.version = 2 then
    { e with specialName := "", expandedNames := [], serviceSiteGuid := Octets.zero 16 }
  else if e.isNameList then
    { e.headed with ttl := e.ttl, specialName := e.specialName, expandedNames := e.expandedNames }
  else { e with proximity := 0, specialName := "", expandedNames := [] }

/-- An entry that its bytes show whole. -/
structure Shown (unicode : Bool) (e : ReferralEntry) : Prop where
  carried : e.carried = e
  texts : ∀ text ∈ [e.path, e.alternatePath, e.node, e.specialName] ++ e.expandedNames,
    Terminable unicode text
  names : e.expandedNames.length < UInt16.size
  size : e.version = 1 → e.size unicode < UInt16.size

instance (unicode : Bool) (e : ReferralEntry) : Decidable (e.Shown unicode) :=
  decidable_of_iff (e.carried = e ∧ (∀ text ∈ [e.path, e.alternatePath, e.node, e.specialName] ++
      e.expandedNames, Terminable unicode text) ∧ e.expandedNames.length < UInt16.size ∧
        (e.version = 1 → e.size unicode < UInt16.size))
    ⟨fun h => ⟨h.1, h.2.1, h.2.2.1, h.2.2.2⟩, fun h => ⟨h.carried, h.texts, h.names, h.size⟩⟩

variable {e : ReferralEntry} {size : UInt16} {rest : Bytes}

@[simp] theorem length_head : (e.head size).length = headLength := by simp [head, headLength]

theorem require_eq_ok {bytes : Bytes} {count : Nat} (enough : count ≤ bytes.length) :
    require bytes count = .ok () := if_neg (Nat.not_lt.mpr enough)

/-- The first bytes decide how the rest of an entry is read. -/
theorem decode_of_drop (here : data.drop start = e.head size ++ rest) :
    decode data unicode start = (·, size) <$> e.headed.decodeBody data unicode start rest := by
  have len := congrArg List.length here
  rw [List.length_drop, List.length_append, length_head] at len
  have inside : ¬data.length < start := by unfold headLength at len; omega
  have whole : headLength ≤ (data.drop start).length := by
    rw [List.length_drop]
    omega
  have fields : Word.decode (data.drop start) = e.version ∧
      (Word.decode ((data.drop start).drop 2) : UInt16) = size ∧
      Word.decode ((data.drop start).drop 4) = e.serverType ∧
      Word.decode ((data.drop start).drop 6) = e.flags.bits ∧
      (data.drop start).drop headLength = rest := by
    rw [here]
    refine ⟨?_, ?_, ?_, ?_, List.drop_left' length_head⟩ <;>
      simp [head, List.drop_append, drop_encode]
  obtain ⟨version, size, serverType, flags, behind⟩ := fields
  simp only [decode, inside, require_eq_ok whole, version, size, serverType, flags, behind]
  rfl

/-- The three strings that most entries point to. -/
def targets (unicode : Bool) (e : ReferralEntry) : List Bytes :=
  [terminated unicode e.path, terminated unicode e.alternatePath, terminated unicode e.node]

/-- What the bytes of an entry say, whatever stands between them and the strings. -/
def Tells (unicode : Bool) (distance : Nat) (e : ReferralEntry) (entry strings : Bytes) : Prop :=
  ∀ before gap after : Bytes, (entry ++ gap).length = distance →
    (before ++ entry ++ gap ++ strings ++ after).length < memoryLimit →
    decode (before ++ entry ++ gap ++ strings ++ after) unicode before.length =
      .ok (e, UInt16.ofNat (e.size unicode))

/-- A message that holds an entry and what its offsets lead to. -/
structure Holds (distance : Nat) (body strings data : Bytes) (start : Nat) : Prop where
  body : LiesAt body data (start + headLength)
  leads {bytes : Bytes} {offset : UInt16} :
    LeadsTo distance strings bytes offset → LiesAt bytes data (start + offset.toNat)
  small : data.length < memoryLimit

variable {body : Bytes} {offset : UInt16} {offsets : List UInt16}

theorem tells_of_body (read : ∀ data start rest, Holds distance body strings data start →
      e.headed.decodeBody data unicode start (body ++ rest) = .ok e) :
    Tells unicode distance e (e.head (UInt16.ofNat (e.size unicode)) ++ body) strings := by
  intro before gap after len held
  generalize sizeIs : UInt16.ofNat (e.size unicode) = size at *
  generalize dataIs : before ++ (e.head size ++ body) ++ gap ++ strings ++ after = data at held ⊢
  have here : data.drop before.length = e.head size ++ (body ++ (gap ++ strings ++ after)) := by
    rw [← dataIs]
    simp
  rw [decode_of_drop here, read data before.length (gap ++ strings ++ after) ⟨?_, ?_, held⟩]
  · rfl
  · refine ⟨before ++ e.head size, gap ++ strings ++ after, ?_, ?_⟩
    · rw [← dataIs]
      simp
    · rw [List.length_append, length_head]
  · intro bytes offset leads
    have front : (before ++ (e.head size ++ body) ++ gap).length = before.length + distance := by
      rw [List.append_assoc, List.length_append, len]
    exact dataIs ▸ leads _ after _ front

theorem Holds.textAt (holds : Holds distance body strings data start)
    (terminable : Terminable unicode text)
    (leads : LeadsTo distance strings (terminated unicode text) offset) :
    textAt data unicode start offset.toNat = .ok text :=
  textAt_eq_ok (holds.leads leads) terminable holds.small

theorem Holds.targets {path alternatePath node : UInt16}
    (holds : Holds distance body strings data start) (shown : e.Shown unicode)
    (leads : List.Forall₂ (LeadsTo distance strings) (e.targets unicode)
      [path, alternatePath, node]) :
    ReferralEntry.textAt data unicode start path.toNat = .ok e.path ∧
      ReferralEntry.textAt data unicode start alternatePath.toNat = .ok e.alternatePath ∧
      ReferralEntry.textAt data unicode start node.toNat = .ok e.node := by
  match leads with
  | .cons toPath (.cons toAlternate (.cons toNode .nil)) =>
    exact ⟨holds.textAt (shown.texts e.path (by simp)) toPath,
      holds.textAt (shown.texts e.alternatePath (by simp)) toAlternate,
      holds.textAt (shown.texts e.node (by simp)) toNode⟩

theorem targets_offsets (leads : List.Forall₂ (LeadsTo distance strings) (e.targets unicode)
    offsets) : ∃ path alternatePath node, offsets = [path, alternatePath, node] := by
  match offsets, leads with
  | [path, alternatePath, node], _ => exact ⟨path, alternatePath, node, rfl⟩

/-- The first version has its target right behind its first bytes. -/
theorem tells_inline (shown : e.Shown unicode) (first : e.version = 1) (strings : Bytes) :
    Tells unicode distance e
      (e.head (UInt16.ofNat (e.size unicode)) ++ terminated unicode e.node) strings := by
  refine tells_of_body fun data start rest holds => ?_
  have node : ReferralEntry.textAt data unicode start headLength = .ok e.node :=
    textAt_eq_ok holds.body (shown.texts e.node (by simp)) holds.small
  have carried := shown.carried
  rw [ReferralEntry.carried, if_pos first] at carried
  simp only [decodeBody, headed, if_pos first, node]
  exact congrArg Except.ok carried

/-- The second version points to three strings. -/
theorem tells_targets (shown : e.Shown unicode) (second : e.version = 2)
    (leads : List.Forall₂ (LeadsTo distance strings) (e.targets unicode) offsets) :
    Tells unicode distance e (e.head (UInt16.ofNat (e.size unicode)) ++ (Word.encode e.proximity ++
      Word.encode e.ttl ++ offsets.flatMap Word.encode)) strings := by
  obtain ⟨path, alternatePath, node, rfl⟩ := targets_offsets leads
  refine tells_of_body fun data start rest holds => ?_
  obtain ⟨pathRead, alternateRead, nodeRead⟩ := holds.targets shown leads
  generalize bodyIs : Word.encode e.proximity ++ Word.encode e.ttl ++
    [path, alternatePath, node].flatMap Word.encode ++ rest = body
  have enough : require body 14 = .ok () := require_eq_ok (by simp [← bodyIs]; omega)
  obtain ⟨proximity, ttl, atPath, atAlternate, atNode⟩ : Word.decode body = e.proximity ∧
      Word.decode (body.drop 4) = e.ttl ∧ offsetAt body 8 = path.toNat ∧
      offsetAt body 10 = alternatePath.toNat ∧ offsetAt body 12 = node.toNat := by
    simp [← bodyIs, offsetAt, List.drop_append, drop_encode]
  have first : e.version ≠ 1 := by simp [second]
  have carried := shown.carried
  rw [ReferralEntry.carried, if_neg first, if_pos second] at carried
  simp only [decodeBody, headed, if_neg first, if_pos second, enough, proximity, ttl, atPath,
    atAlternate, atNode, pathRead, alternateRead, nodeRead]
  exact congrArg Except.ok carried

/-- A later version points to the same strings and names a site, -/
theorem tells_sites (shown : e.Shown unicode) (later : e.version = 3 ∨ e.version = 4)
    (plain : e.isNameList ≠ true)
    (leads : List.Forall₂ (LeadsTo distance strings) (e.targets unicode) offsets) :
    Tells unicode distance e (e.head (UInt16.ofNat (e.size unicode)) ++ (Word.encode e.ttl ++
      offsets.flatMap Word.encode ++ e.serviceSiteGuid.val)) strings := by
  obtain ⟨path, alternatePath, node, rfl⟩ := targets_offsets leads
  refine tells_of_body fun data start rest holds => ?_
  obtain ⟨pathRead, alternateRead, nodeRead⟩ := holds.targets shown leads
  have wide := e.serviceSiteGuid.property
  generalize bodyIs : Word.encode e.ttl ++ [path, alternatePath, node].flatMap Word.encode ++
    e.serviceSiteGuid.val ++ rest = body
  have enough : require body 26 = .ok () := require_eq_ok (by simp [← bodyIs, wide]; omega)
  have some : require body 4 = .ok () := require_eq_ok (by simp [← bodyIs])
  obtain ⟨ttl, atPath, atAlternate, atNode, guid⟩ : Word.decode body = e.ttl ∧
      offsetAt body 4 = path.toNat ∧ offsetAt body 6 = alternatePath.toNat ∧
      offsetAt body 8 = node.toNat ∧ (body.drop 10).take 16 = e.serviceSiteGuid.val := by
    simp [← bodyIs, offsetAt, List.drop_append, drop_encode, wide]
  have first : e.version ≠ 1 := by rcases later with h | h <;> simp [h]
  have second : e.version ≠ 2 := by rcases later with h | h <;> simp [h]
  have carried := shown.carried
  rw [ReferralEntry.carried, if_neg first, if_neg second, if_neg plain] at carried
  simp only [decodeBody, headed, if_neg first, if_neg second, if_pos later, some, enough, ttl,
    atPath, atAlternate, atNode, guid, pathRead, alternateRead, nodeRead,
    Buffer.field_eq_ok wide]
  exact (if_neg plain).trans (congrArg Except.ok carried)

/-- or it points to a name and to a list of names. -/
theorem tells_names (shown : e.Shown unicode) (later : e.version = 3 ∨ e.version = 4)
    (list : e.isNameList = true) {special first : UInt16}
    (toSpecial : LeadsTo distance strings (terminated unicode e.specialName) special)
    (toFirst : LeadsTo distance strings (e.expandedNames.flatMap (terminated unicode)) first) :
    Tells unicode distance e (e.head (UInt16.ofNat (e.size unicode)) ++ (Word.encode e.ttl ++
      Word.encode special ++ Word.encode (UInt16.ofNat e.expandedNames.length) ++
        Word.encode first)) strings := by
  refine tells_of_body fun data start rest holds => ?_
  have nameRead := holds.textAt (shown.texts e.specialName (by simp)) toSpecial
  have namesRead := textsAt_eq_ok (holds.leads toFirst)
    (fun name among => shown.texts name (by simp [among])) holds.small
  generalize bodyIs : Word.encode e.ttl ++ Word.encode special ++
    Word.encode (UInt16.ofNat e.expandedNames.length) ++ Word.encode first ++ rest = body
  have enough : require body 10 = .ok () := require_eq_ok (by simp [← bodyIs]; omega)
  have some : require body 4 = .ok () := require_eq_ok (by simp [← bodyIs])
  obtain ⟨ttl, atSpecial, count, atFirst⟩ : Word.decode body = e.ttl ∧
      offsetAt body 4 = special.toNat ∧ offsetAt body 6 = e.expandedNames.length ∧
      offsetAt body 8 = first.toNat := by
    have value := UInt16.toNat_ofNat_of_lt' shown.names
    simp [← bodyIs, offsetAt, List.drop_append, drop_encode, value]
  have notFirst : e.version ≠ 1 := by rcases later with h | h <;> simp [h]
  have notSecond : e.version ≠ 2 := by rcases later with h | h <;> simp [h]
  have carried := shown.carried
  rw [ReferralEntry.carried, if_neg notFirst, if_neg notSecond, if_pos list] at carried
  simp only [decodeBody, headed, if_neg notFirst, if_neg notSecond, if_pos later, some, enough,
    ttl, atSpecial, count, atFirst, nameRead, namesRead]
  exact (if_pos list).trans (congrArg Except.ok carried)

/-- An entry puts its strings behind those of the entries before it, and its bytes lead to them. -/
theorem encode_eq_ok {entry : Bytes} (shown : e.Shown unicode)
    (encoded : e.encode unicode distance strings = .ok (entry, strings')) :
    entry.length = e.size unicode ∧ strings <+: strings' ∧
      Tells unicode distance e entry strings' := by
  unfold ReferralEntry.encode at encoded
  split at encoded
  next first =>
    cases encoded
    refine ⟨?_, List.prefix_rfl, tells_inline shown first strings⟩
    rw [size, if_pos first]
    exact (List.length_append ..).trans (congrArg (· + _) length_head)
  next first =>
  split at encoded
  next second =>
    obtain ⟨⟨offsets, more⟩, placed, done⟩ := ok_of_bind encoded
    cases done
    obtain ⟨rfl, leads⟩ := place_eq_ok placed
    refine ⟨?_, List.prefix_append .., ?_⟩
    · obtain ⟨path, alternatePath, node, rfl⟩ := targets_offsets leads
      simp [size, second]
    · simpa only [head, List.append_assoc] using tells_targets shown second leads
  next second =>
  split at encoded
  next later =>
    split at encoded
    next list =>
      obtain ⟨⟨special, behind⟩, placed, rest⟩ := ok_of_bind encoded
      obtain ⟨⟨first, more⟩, placedFirst, done⟩ := ok_of_bind rest
      cases done
      obtain ⟨rfl, leads⟩ := place_eq_ok placed
      obtain ⟨rfl, leadsFirst⟩ := place_eq_ok placedFirst
      match special, first, leads, leadsFirst with
      | [special], [first], .cons toSpecial .nil, .cons toFirst .nil =>
      refine ⟨?_, ⟨_, (List.append_assoc ..).symm⟩, ?_⟩
      · simp [size, *]
      · simpa [head] using tells_names shown later list (toSpecial.append _) toFirst
    next plain =>
      obtain ⟨⟨offsets, more⟩, placed, done⟩ := ok_of_bind encoded
      cases done
      obtain ⟨rfl, leads⟩ := place_eq_ok placed
      refine ⟨?_, List.prefix_append .., ?_⟩
      · obtain ⟨path, alternatePath, node, rfl⟩ := targets_offsets leads
        have wide := e.serviceSiteGuid.property
        simp [size, *]
      · simpa only [head, List.append_assoc] using tells_sites shown later plain leads
  · cases encoded

theorem Tells.mono {entry : Bytes} (tells : Tells unicode distance e entry strings)
    (more : strings <+: strings') : Tells unicode distance e entry strings' := by
  obtain ⟨added, rfl⟩ := more
  intro before gap after len held
  simpa only [List.append_assoc] using
    tells before gap (added ++ after) len (by simpa only [List.append_assoc] using held)

theorem size_pos (e : ReferralEntry) (unicode : Bool) : 0 < e.size unicode := by
  unfold size headLength
  split_ifs <;> omega

theorem Shown.size_lt (shown : e.Shown unicode) : e.size unicode < UInt16.size := by
  by_cases first : e.version = 1
  · exact shown.size first
  · unfold ReferralEntry.size UInt16.size
    split_ifs <;> omega

end ReferralEntry

namespace ReferralResponse

variable {entries : List ReferralEntry}

/-- Bytes of all entries. -/
def sizes (unicode : Bool) (entries : List ReferralEntry) : Nat :=
  entries.foldr (fun entry rest => entry.size unicode + rest) 0

/-- The list is read entry by entry, each from where the one before it says that it ends. -/
theorem encodeEntries_eq_ok {bytes : Bytes} (shown : ∀ e ∈ entries, e.Shown unicode)
    (encoded : encodeEntries unicode entries (sizes unicode entries) strings =
      .ok (bytes, strings')) :
    bytes.length = sizes unicode entries ∧ strings <+: strings' ∧
      ∀ (before after : Bytes) (read : List ReferralEntry),
        (before ++ bytes ++ strings' ++ after).length < memoryLimit →
        entriesFrom (before ++ bytes ++ strings' ++ after) unicode entries.length before.length
          read = .ok (read.reverse ++ entries) := by
  induction entries generalizing strings bytes with
  | nil =>
    cases encoded
    exact ⟨rfl, List.prefix_rfl, fun _ _ read _ => congrArg Except.ok (List.append_nil _).symm⟩
  | cons e rest ih =>
    obtain ⟨⟨entry, strings₁⟩, first, encoded⟩ := ok_of_bind encoded
    obtain ⟨⟨others, strings₂⟩, second, done⟩ := ok_of_bind encoded
    cases done
    have here := shown e List.mem_cons_self
    obtain ⟨len, grown, tells⟩ := ReferralEntry.encode_eq_ok here first
    have left : sizes unicode (e :: rest) - entry.length = sizes unicode rest := by
      rw [len]
      exact Nat.add_sub_cancel_left ..
    rw [left] at second
    obtain ⟨lens, more, others_read⟩ := ih (fun e among => shown e (List.mem_cons_of_mem _ among))
      second
    have total : (entry ++ others).length = sizes unicode (e :: rest) := by
      rw [List.length_append, len, lens]
      rfl
    refine ⟨total, grown.trans more, fun before after read held => ?_⟩
    have size : (UInt16.ofNat (e.size unicode)).toNat = entry.length := by
      rw [len]
      exact UInt16.toNat_ofNat_of_lt' here.size_lt
    have some : UInt16.ofNat (e.size unicode) ≠ 0 := by
      have positive := e.size_pos unicode
      intro zero
      rw [zero, len] at size
      simp at size
      omega
    have decoded := tells.mono more before others after total (by simpa using held)
    have step : Position.add before.length entry.length = .ok (before ++ entry).length := by
      simp only [List.length_append] at held ⊢
      exact Position.add_eq_ok_iff.mpr ⟨rfl, sum_lt_limit (by omega) (by omega)⟩
    have next := others_read (before ++ entry) after (e :: read)
      (by simpa only [List.append_assoc] using held)
    simp only [List.append_assoc] at decoded next ⊢
    rw [List.length_cons, entriesFrom, decoded]
    simp only [if_neg some, size, step]
    rw [next]
    simp

/-- A response that its bytes show whole. -/
structure Shown (unicode : Bool) (r : ReferralResponse) : Prop where
  entries : ∀ e ∈ r.entries, e.Shown unicode
  count : r.entries.length < UInt16.size

/-- A consumed length that fits its field is the same on both sides. -/
theorem halved_consumedBytes {r : ReferralResponse} {consumed : UInt16}
    (counted : r.consumedBytes unicode = .ok consumed) :
    (if unicode then consumed / 2 else consumed) = r.pathConsumed := by
  unfold consumedBytes at counted
  cases unicode with
  | false =>
    cases counted
    rfl
  | true =>
    split at counted
    · contradiction
    · split at counted
      next fits =>
        cases counted
        have value : (r.pathConsumed * 2).toNat = r.pathConsumed.toNat * 2 := by
          rw [UInt16.toNat_mul]
          exact Nat.mod_eq_of_lt fits
        rw [if_pos rfl, ← UInt16.toNat_inj, UInt16.toNat_div, value]
        exact Nat.mul_div_cancel _ (by decide)
      · cases counted

/-- A response comes back from its bytes, whatever the versions of its entries. -/
theorem decode_of_encode {r : ReferralResponse} {bytes : Bytes}
    (encoded : r.encode unicode = .ok bytes) (shown : r.Shown unicode)
    (held : bytes.length < memoryLimit) : decode bytes unicode = .ok r := by
  obtain ⟨consumed, counted, encoded⟩ := ok_of_bind encoded
  obtain ⟨⟨entries, strings⟩, listed, done⟩ := ok_of_bind encoded
  obtain ⟨-, -, read⟩ := encodeEntries_eq_ok shown.entries listed
  have count := UInt16.toNat_ofNat_of_lt' shown.count
  generalize headIs : Word.encode consumed ++ Word.encode (UInt16.ofNat r.entries.length) ++
    Word.encode r.flags.bits = head at done
  have len : head.length = headLength := by simp [← headIs, headLength]
  obtain rfl : head ++ entries ++ strings = bytes := Except.ok.inj done
  have whole := read head [] [] (by simpa using held)
  rw [List.append_nil, len] at whole
  obtain ⟨inConsumed, inCount, inFlags⟩ : Word.decode (head ++ entries ++ strings) = consumed ∧
      Word.decode ((head ++ entries ++ strings).drop 2) = UInt16.ofNat r.entries.length ∧
      Word.decode ((head ++ entries ++ strings).drop 4) = r.flags.bits := by
    simp [← headIs, List.drop_append, drop_encode]
  have long : ¬(head ++ entries ++ strings).length < headLength := by
    simp only [List.length_append, len]
    omega
  simp only [decode, if_neg long, inConsumed, inCount, inFlags, count, whole,
    halved_consumedBytes counted]
  rfl

/-- One entry of every version and form. -/
def mixed : ReferralResponse where
  pathConsumed := 14
  flags := ⟨2⟩
  entries := [
    { ReferralEntry.blank with version := 1, node := "\\fs1\\docs" },
    { ReferralEntry.blank with
      version := 2, proximity := 7, ttl := 600, path := "\\c\\d", node := "\\fs2\\docs" },
    { ReferralEntry.blank with
      version := 3, ttl := 600, path := "\\c\\d", alternatePath := "\\c\\e", node := "\\fs3\\docs" },
    { ReferralEntry.blank with
      version := 3, flags := ReferralEntryFlags.nameList, specialName := "\\C"
      expandedNames := ["\\dc1.c", "\\dc2.c"] },
    { ReferralEntry.blank with
      version := 4, node := "\\fs4\\docs", serviceSiteGuid := ⟨List.replicate 16 9, rfl⟩ }]

theorem decode_of_encode_mixed : ∃ bytes, mixed.encode true = .ok bytes ∧ bytes.length = 274 ∧
    decode bytes true = .ok mixed := by
  have size : (mixed.encode true).toOption.map (·.length) = some 274 := by decide +kernel
  cases encoded : mixed.encode true with
  | error e =>
    rw [encoded] at size
    cases size
  | ok bytes =>
    rw [encoded] at size
    have len : bytes.length = 274 := Option.some.inj size
    exact ⟨bytes, rfl, len, decode_of_encode encoded ⟨by decide +kernel, by decide⟩
      (lt_memoryLimit (by omega))⟩

end ReferralResponse

end Smb1.Transaction
