import Smb1.Flags
import Smb1.Wire.Encoder
import Smb1.Wire.Reader

/-! Asking where a path really lies. A response is a list of entries in up to four versions. The
first version has its target behind the entry's head; the later ones point to strings behind all
entries, counting from the start of the entry. -/
namespace Smb1.Transaction

structure ReferralRequest where
  path : String
  maxReferralLevel : UInt16
  maxDataCount : UInt16
  deriving DecidableEq, Repr

/-- A text and its terminator, without padding. -/
def terminated (unicode : Bool) (text : String) : Bytes :=
  if unicode then Text.Utf16.encode text ++ [0, 0] else Text.Latin1.encode text ++ [0]

namespace ReferralRequest

def function : UInt16 := 0x10

def standardMaxReferralLevel : UInt16 := 3

def standardMaxDataCount : UInt16 := 4096

def ofPath (path : String) (maxReferralLevel : UInt16) : ReferralRequest :=
  ⟨path, maxReferralLevel, standardMaxDataCount⟩

/-- The highest version understood, then the path. -/
def parameters (r : ReferralRequest) (unicode : Bool) : Bytes :=
  Word.encode r.maxReferralLevel ++ terminated unicode r.path

open Wire.Decoder in
/-- The request that a parameter block describes. -/
def ofParameters (parameters : Bytes) (unicode : Bool) : Except Error ReferralRequest := do
  let (request, _) ← (do
    let maxReferralLevel ← u16
    let path ← stringUnaligned parameters.length
    return ofPath path maxReferralLevel : Wire.Decoder ReferralRequest)
    (Wire.Reader.start parameters unicode)
  return request

end ReferralRequest

abbrev ReferralFlags := Flags UInt32 0x07

abbrev ReferralEntryFlags := Flags UInt16 0x06

namespace ReferralEntryFlags

def nameList : ReferralEntryFlags := ⟨0x02⟩

end ReferralEntryFlags

/-- One entry. Fields that its version does not carry keep their defaults. -/
structure ReferralEntry where
  version : UInt16
  serverType : UInt16
  flags : ReferralEntryFlags
  proximity : UInt32
  /-- Seconds. -/
  ttl : UInt32
  path : String
  alternatePath : String
  /-- The target, `\server\share` with an optional path. -/
  node : String
  specialName : String
  expandedNames : List String
  serviceSiteGuid : Octets 16
  deriving DecidableEq, Repr

namespace ReferralEntry

def blank : ReferralEntry := ⟨0, 0, ⟨0⟩, 0, 0, "", "", "", "", [], Octets.zero 16⟩

def isNameList (e : ReferralEntry) : Bool :=
  3 ≤ e.version && e.flags.contains ReferralEntryFlags.nameList

def headLength : Nat := 8

/-- Bytes of an entry in the list of entries. -/
def size (e : ReferralEntry) (unicode : Bool) : Nat :=
  if e.version = 1 then headLength + (terminated unicode e.node).length
  else if e.version = 2 then 22
  else if e.isNameList then 18
  else 34

/-- Places texts behind those in `strings`. Offsets count from the start of the entry, which lies
`distance` bytes before the string area. -/
def place (distance : Nat) : (texts : List Bytes) → (strings : Bytes) →
    Except Error (List UInt16 × Bytes)
  | [], strings => .ok ([], strings)
  | text :: texts, strings =>
    let offset := distance + strings.length
    if 0xFFFF < offset then .error (.precondition .referralTooLarge)
    else do
      let (offsets, strings) ← place distance texts (strings ++ text)
      .ok (UInt16.ofNat offset :: offsets, strings)

/-- The entry and the string area with the entry's strings added. -/
def encode (e : ReferralEntry) (unicode : Bool) (distance : Nat) (strings : Bytes) :
    Except Error (Bytes × Bytes) :=
  let head := Word.encode e.version ++ Word.encode (UInt16.ofNat (e.size unicode)) ++
    Word.encode e.serverType ++ Word.encode e.flags.bits
  let targets := [terminated unicode e.path, terminated unicode e.alternatePath,
    terminated unicode e.node]
  if e.version = 1 then .ok (head ++ terminated unicode e.node, strings)
  else if e.version = 2 then do
    let (offsets, strings) ← place distance targets strings
    .ok (head ++ Word.encode e.proximity ++ Word.encode e.ttl ++ offsets.flatMap Word.encode,
      strings)
  else if e.version = 3 ∨ e.version = 4 then
    if e.isNameList then do
      let (special, strings) ← place distance [terminated unicode e.specialName] strings
      let expanded := e.expandedNames.flatMap (terminated unicode)
      let (first, strings) ← place distance [expanded] strings
      .ok (head ++ Word.encode e.ttl ++ special.flatMap Word.encode ++
        Word.encode (UInt16.ofNat e.expandedNames.length) ++ first.flatMap Word.encode, strings)
    else do
      let (offsets, strings) ← place distance targets strings
      .ok (head ++ Word.encode e.ttl ++ offsets.flatMap Word.encode ++ e.serviceSiteGuid.val,
        strings)
  else .error (.precondition (.referralVersion e.version))

/-- The unaligned strings at an offset from an entry's start. -/
def textsAt (data : Bytes) (unicode : Bool) (count start offset : Nat) :
    Except Error (List String) := do
  let position ← Wire.Position.add start offset
  let (texts, _) ← Wire.Decoder.times count (Wire.Decoder.stringUnaligned data.length)
    ((Wire.Reader.start data unicode).seek position)
  return texts

/-- The unaligned string at an offset from an entry's start. -/
def textAt (data : Bytes) (unicode : Bool) (start offset : Nat) : Except Error String := do
  let position ← Wire.Position.add start offset
  let (text, _) ← Wire.Decoder.stringUnaligned data.length
    ((Wire.Reader.start data unicode).seek position)
  return text

/-- Checks that the fixed part of an entry is there. -/
def require (bytes : Bytes) (count : Nat) : Except Error Unit :=
  if bytes.length < count then .error (.parse .malformedReferral) else .ok ()

/-- The offset at an index of the fixed part of an entry. -/
def offsetAt (body : Bytes) (index : Nat) : Nat := (Word.decode (body.drop index) : UInt16).toNat

/-- What the version of an entry at `start` makes of the fixed part behind its head. -/
def decodeBody (e : ReferralEntry) (data : Bytes) (unicode : Bool) (start : Nat) (body : Bytes) :
    Except Error ReferralEntry := do
  let text (index : Nat) := textAt data unicode start (offsetAt body index)
  if e.version = 1 then
    return { e with node := ← textAt data unicode start headLength }
  else if e.version = 2 then
    require body 14
    let path ← text 8
    let alternatePath ← text 10
    let node ← text 12
    return { e with
      proximity := Word.decode body, ttl := Word.decode (body.drop 4), path, alternatePath, node }
  else if e.version = 3 ∨ e.version = 4 then
    require body 4
    let e := { e with ttl := Word.decode body }
    if e.isNameList then
      require body 10
      let specialName ← text 4
      let expandedNames ← textsAt data unicode (offsetAt body 6) start (offsetAt body 8)
      return { e with specialName, expandedNames }
    else
      require body 26
      let path ← text 4
      let alternatePath ← text 6
      let node ← text 8
      let serviceSiteGuid ← Wire.Buffer.field 16 ((body.drop 10).take 16)
      return { e with path, alternatePath, node, serviceSiteGuid }
  else throw (.parse (.referralVersion e.version))

/-- The entry at `start`, and the size it names. -/
def decode (data : Bytes) (unicode : Bool) (start : Nat) :
    Except Error (ReferralEntry × UInt16) := do
  if data.length < start then throw (.tooSmall start data.length)
  let entry := data.drop start
  require entry headLength
  let e := { blank with
    version := Word.decode entry, serverType := Word.decode (entry.drop 4)
    flags := ⟨Word.decode (entry.drop 6)⟩ }
  let e ← e.decodeBody data unicode start (entry.drop headLength)
  return (e, Word.decode (entry.drop 2))

end ReferralEntry

structure ReferralResponse where
  /-- Characters of the request path that the referral resolves. -/
  pathConsumed : UInt16
  flags : ReferralFlags
  entries : List ReferralEntry
  deriving DecidableEq, Repr

namespace ReferralResponse

def blank : ReferralResponse := ⟨0, ⟨0⟩, []⟩

instance : Inhabited ReferralResponse := ⟨blank⟩

def headLength : Nat := 8

/-- At most `count` entries from `start` on, after those in `read`, latest first. An entry without
a size ends the list. -/
def entriesFrom (data : Bytes) (unicode : Bool) : (count start : Nat) →
    (read : List ReferralEntry) → Except Error (List ReferralEntry)
  | 0, _, read => .ok read.reverse
  | count + 1, start, read =>
    match ReferralEntry.decode data unicode start with
    | .error e => .error e
    | .ok (entry, size) =>
      if size = 0 then .ok (entry :: read).reverse
      else
        match Wire.Position.add start size.toNat with
        | .error e => .error e
        | .ok next => entriesFrom data unicode count next (entry :: read)

/-- The consumed length counts bytes on the wire, and characters here. -/
def decode (data : Bytes) (unicode : Bool) : Except Error ReferralResponse := do
  if data.length < headLength then throw (.parse .shortReferral)
  let pathConsumed : UInt16 := Word.decode data
  let count : UInt16 := Word.decode (data.drop 2)
  let entries ← entriesFrom data unicode count.toNat headLength []
  return {
    pathConsumed := if unicode then pathConsumed / 2 else pathConsumed
    flags := ⟨Word.decode (data.drop 4)⟩
    entries }

/-- Entries in order, then the strings they point to. `distance` is what lies between the first
entry and the string area. -/
def encodeEntries (unicode : Bool) : (entries : List ReferralEntry) → (distance : Nat) →
    (strings : Bytes) → Except Error (Bytes × Bytes)
  | [], _, strings => .ok ([], strings)
  | e :: rest, distance, strings => do
    let (entry, strings) ← e.encode unicode distance strings
    let (entries, strings) ← encodeEntries unicode rest (distance - entry.length) strings
    .ok (entry ++ entries, strings)

/-- The consumed length as it is sent. Unicode characters count two bytes each. The doubling is done
in the width of the field, and nothing compares its result. -/
def consumedBytes (r : ReferralResponse) (unicode : Bool) : Except Error UInt16 :=
  if !unicode then .ok r.pathConsumed
  else if r.pathConsumed.toNat * 2 < UInt16.size then .ok (r.pathConsumed * 2)
  else .error (.outOfRange (.pathConsumed r.pathConsumed.toNat))

def encode (r : ReferralResponse) (unicode : Bool) : Except Error Bytes := do
  let consumed ← r.consumedBytes unicode
  let distance := r.entries.foldr (fun entry rest => entry.size unicode + rest) 0
  let (entries, strings) ← encodeEntries unicode r.entries distance []
  return Word.encode consumed ++ Word.encode (UInt16.ofNat r.entries.length) ++
    Word.encode r.flags.bits ++ entries ++ strings

end ReferralResponse

end Smb1.Transaction
