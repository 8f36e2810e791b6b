import Smb1.Proofs.Wire.Fields
import Smb1.Proofs.Wire.Text
import Smb1.Setup.Logon
import Smb1.Setup.Negotiate
import Smb1.Setup.Tree

/-! Bodies of the dialogue that sets a session up read back what they wrote. Where a body has two
forms, `onWire` keeps the fields of the one it is in. -/
namespace Smb1

open Wire

variable {limit start : Nat} {unicode : Bool}

/-- What stands for bytes of which only the length has been read. -/
theorem replicate_announced {bytes : Bytes} (small : bytes.length ≤ 0xFFFF) :
    List.replicate (UInt16.ofNat bytes.length).toNat (0 : UInt8) =
      List.replicate bytes.length 0 := by
  rw [UInt16.toNat_ofNat_of_lt' (show _ < 0x10000 by omega)]

namespace NegotiateRequest

structure Expressible (b : NegotiateRequest) : Prop where
  nonempty : b.dialects ≠ []
  dialects : ∀ dialect ∈ b.dialects, Text.Terminable false dialect

/-- The dialects end where the bytes do, so the limit is exact. -/
theorem reads_dialects (dialects : List String) (h : ∀ d ∈ dialects, Text.Terminable false d)
    (count : Nat) (enough : dialects.length ≤ count)
    (exact : limit = start + ((bytes ⟨dialects⟩).bytesAt start unicode).length) :
    Reads limit start unicode (bytes ⟨dialects⟩) (dialectsUpTo limit count) dialects := by
  induction dialects generalizing count start with
  | nil =>
    have stop : limit = start := by simpa [bytes, Encoder.concat_nil] using exact
    cases count with
    | zero => exact .pure
    | succ count => exact .full stop .pure
  | cons dialect rest ih =>
    obtain ⟨count, rfl⟩ : ∃ n, count = n + 1 := ⟨count - 1, by simp at enough; omega⟩
    have text := h dialect List.mem_cons_self
    have split : bytes ⟨dialect :: rest⟩ =
        Encoder.u8 dialectFormat ++ (Encoder.oemString dialect ++ bytes ⟨rest⟩) := by
      simp only [bytes, List.map_cons, Encoder.concat_cons, Encoder.append_assoc]
    rw [split] at exact ⊢
    simp only [Encoder.bytesAt_append, List.length_append] at exact
    have some : 0 < ((Encoder.u8 dialectFormat ++ (Encoder.oemString dialect ++
        bytes ⟨rest⟩)).bytesAt start unicode).length := by
      rw [Encoder.bytesAt_append, List.length_append, Encoder.bytesAt_u8, Word.length_encode]
      exact Nat.add_pos_left Nat.zero_lt_one _
    refine .room some (.bindAt .u8 ?_)
    simp only [ne_eq, not_true_eq_false, if_false]
    have others : ∀ d ∈ rest, Text.Terminable false d :=
      fun d member => h d (List.mem_cons_of_mem _ member)
    refine .bindAt (.oemString text) (.map (ih others count (by simp at enough; omega) ?_))
    omega

theorem length_le (dialects : List String) :
    dialects.length ≤ ((bytes ⟨dialects⟩).bytesAt start unicode).length := by
  induction dialects generalizing start with
  | nil => exact Nat.zero_le _
  | cons dialect rest ih =>
    have later (position : Nat) :
        rest.length ≤ ((bytes ⟨rest⟩).bytesAt position unicode).length := ih
    simp only [bytes, List.map_cons, Encoder.concat_cons, Encoder.bytesAt_append,
      Encoder.bytesAt_u8, Encoder.bytesAt_oemString, List.length_append, Word.length_encode,
      size_u8, List.length_cons, List.length_nil] at later ⊢
    have := later (start + (1 + ((Text.Latin1.encode dialect).length + (0 + 1))))
    omega

theorem reads_bytes {b : NegotiateRequest} (h : b.Expressible) (t : NegotiateRequest) :
    Reads limit start unicode b.bytes
      (t.readBytes (b.bytes.bytesAt start unicode).length) b :=
  .ahead rfl (.map (reads_dialects b.dialects h.dialects _ (length_le b.dialects) rfl))

end NegotiateRequest

namespace NegotiateResponse

structure Expressible (unicode : Bool) (b : NegotiateResponse) : Prop where
  securityMode : b.securityMode.Defined
  capabilities : b.capabilities.Defined
  systemTime : Time.Shown b.systemTime
  challenge : b.challenge.length ≤ 255
  domainName : Text.Terminable unicode b.domainName
  serverName : Text.Terminable unicode b.serverName

/-- The challenge says itself how long it is. -/
def onWire (b : NegotiateResponse) : NegotiateResponse :=
  if b.isExtendedSecurity then
    { b with challenge := [], domainName := "", serverName := "", challengeLength := 0 }
  else { b with serverGuid := Octets.zero 16, securityBlob := [], challengeLength := 0 }

/-- What the parameter words say. -/
def announced (b : NegotiateResponse) : NegotiateResponse :=
  { b with
    challenge := [], domainName := "", serverName := "", serverGuid := Octets.zero 16
    securityBlob := []
    challengeLength := if b.isExtendedSecurity then 0 else UInt8.ofNat b.challenge.length }

theorem reads_words {b : NegotiateResponse} (h : b.Expressible unicode) (count : UInt8) :
    Reads limit start unicode b.words (blank.readWords count) b.announced := by
  simp only [words, Encoder.append_assoc]
  refine .bind .u16 fun _ => .bind .u8 fun _ => .bind .u16 fun _ => .bind .u16 fun _ => ?_
  refine .bind .u32 fun _ => .bind .u32 fun _ => .bind .u32 fun _ => .bind .u32 fun _ => ?_
  refine .bind (.fileTime h.systemTime) fun _ => .bind .u16 fun _ => .last .u8 ?_
  simp only [Flags.ofBits_bits h.securityMode, Flags.ofBits_bits h.capabilities,
    Time.ofFileTime_ticks h.systemTime, Time.zoneMinutes]
  rfl

/-- What reading the bytes makes of the words. -/
def received (b : NegotiateResponse) : NegotiateResponse :=
  { b.onWire with challengeLength := b.announced.challengeLength }

theorem reads_bytes {b : NegotiateResponse} (h : b.Expressible unicode) :
    Reads limit start unicode b.bytes
      (b.announced.readBytes (b.bytes.bytesAt start unicode).length) b.received := by
  have form : b.announced.isExtendedSecurity = b.isExtendedSecurity := rfl
  refine .ahead rfl ?_
  by_cases extended : b.isExtendedSecurity = true
  · simp only [form, extended, if_true, bytes]
    refine .bind (.octets b.serverGuid) fun _ => .last (.take ?_) ?_
    · simp [b.serverGuid.property]
    · simp only [received, onWire, extended, if_true]
      rfl
  · have length : b.announced.challengeLength.toNat = b.challenge.length := by
      simp only [announced, extended]
      exact UInt8.toNat_ofNat_of_lt' (show _ < 256 from Nat.lt_succ_of_le h.challenge)
    simp only [form, extended, bytes, Encoder.append_assoc]
    refine .bind (.take length.symm) fun _ => .bind (.stringUnaligned h.domainName) fun _ => ?_
    refine .room ?_ (.last (.stringUnaligned h.serverName) ?_)
    · cases unicode <;> simp [Encoder.stringUnaligned, Word.size]
    · simp only [received, onWire, extended]
      rfl

theorem onWire_received (b : NegotiateResponse) : b.received.onWire = b.onWire := by
  have form : b.received.isExtendedSecurity = b.isExtendedSecurity := by
    unfold received onWire isExtendedSecurity
    split <;> rfl
  unfold onWire
  rw [form]
  unfold received onWire
  split <;> rfl

end NegotiateResponse

namespace SessionSetupRequest

structure Expressible (unicode : Bool) (b : SessionSetupRequest) : Prop where
  capabilities : b.capabilities.Defined
  accountName : Text.Terminable unicode b.accountName
  primaryDomain : Text.Terminable unicode b.primaryDomain
  nativeOs : Text.Terminable unicode b.nativeOs
  nativeLanman : Text.Terminable unicode b.nativeLanman

/-- A security blob takes the place of passwords and names. -/
def onWire (b : SessionSetupRequest) : SessionSetupRequest :=
  match b.securityBlob with
  | some _ => { b with
      caseInsensitivePassword := [], caseSensitivePassword := [], accountName := ""
      primaryDomain := "" }
  | none => b

theorem onWire_onWire (b : SessionSetupRequest) : b.onWire.onWire = b.onWire := by
  cases blob : b.securityBlob <;> simp only [onWire, blob]

/-- What the parameter words say. -/
def announced (b : SessionSetupRequest) : SessionSetupRequest :=
  { b.onWire with
    caseInsensitivePassword := List.replicate b.onWire.caseInsensitivePassword.length 0
    caseSensitivePassword := List.replicate b.onWire.caseSensitivePassword.length 0
    securityBlob := b.securityBlob.map fun blob => List.replicate blob.length 0
    accountName := "", primaryDomain := "", nativeOs := "", nativeLanman := "" }

theorem reads_words {b : SessionSetupRequest} (h : b.Expressible unicode) {count : UInt8}
    (form : count = extendedWordCount ↔ b.securityBlob.isSome)
    (small : (b.bytes.bytesAt position unicode).length ≤ 0xFFFF) :
    Reads limit start unicode b.words (blank.readWords count) b.announced := by
  simp only [words, Encoder.append_assoc, readWords, pure_bind]
  refine .bind .u16 fun _ => .bind .u16 fun _ => .bind .u16 fun _ => .bind .u32 fun _ => ?_
  cases blob : b.securityBlob with
  | some blob' =>
    have extended : count = extendedWordCount := form.mpr (by simp [blob])
    have length : blob'.length ≤ 0xFFFF := by
      simp only [bytes, blob, Encoder.bytesAt_append, Encoder.bytesAt_piece,
        List.length_append] at small
      omega
    simp only [extended, if_true]
    refine .bind .u16 fun _ => .bind (.skip rfl) fun _ => .last .u32 ?_
    simp only [Flags.ofBits_bits h.capabilities, replicate_announced length]
    simp only [announced, onWire, blob]
    rfl
  | none =>
    have plain : count ≠ extendedWordCount := fun same => by simpa [blob] using form.mp same
    have lengths : b.caseInsensitivePassword.length ≤ 0xFFFF ∧
        b.caseSensitivePassword.length ≤ 0xFFFF := by
      simp only [bytes, blob, Encoder.bytesAt_append, Encoder.bytesAt_piece,
        List.length_append] at small
      omega
    simp only [plain, if_false]
    simp only [Encoder.append_assoc]
    refine .bind .u16 fun _ => .bind .u16 fun _ => .bind (.skip rfl) fun _ => .last .u32 ?_
    simp only [Flags.ofBits_bits h.capabilities, replicate_announced lengths.1,
      replicate_announced lengths.2]
    simp only [announced, onWire, blob]
    rfl

theorem reads_bytes {b : SessionSetupRequest} (h : b.Expressible unicode) :
    Reads limit start unicode b.bytes
      (b.announced.readBytes (b.bytes.bytesAt start unicode).length) b.onWire := by
  refine .ahead rfl ?_
  cases blob : b.securityBlob with
  | some blob' =>
    have length : (List.replicate blob'.length (0 : UInt8)).length = blob'.length :=
      List.length_replicate
    simp only [announced, onWire, blob, bytes, Option.map_some, Encoder.append_assoc, length,
      pure_bind]
    refine .bind (.take rfl) fun _ => .bind (.string h.nativeOs) fun _ => ?_
    exact .last (.string h.nativeLanman) rfl
  | none =>
    simp only [announced, onWire, blob, bytes, Option.map_none, Encoder.append_assoc, pure_bind,
      List.length_replicate]
    refine .bind (.take rfl) fun _ => .bind (.take rfl) fun _ => ?_
    refine .bind (.string h.accountName) fun _ => .bind (.string h.primaryDomain) fun _ => ?_
    refine .bind (.string h.nativeOs) fun _ => .last (.string h.nativeLanman) ?_
    rw [← blob]

end SessionSetupRequest

namespace SessionSetupResponse

structure Expressible (unicode : Bool) (b : SessionSetupResponse) : Prop where
  nativeOs : Text.Terminable unicode b.nativeOs
  nativeLanman : Text.Terminable unicode b.nativeLanman
  primaryDomain : Text.Terminable unicode b.primaryDomain

/-- What the parameter words say. -/
def announced (b : SessionSetupResponse) : SessionSetupResponse :=
  { blank with
    action := b.action
    securityBlob := b.securityBlob.map fun blob => List.replicate blob.length 0 }

theorem reads_words {b : SessionSetupResponse} {count : UInt8}
    (form : 4 ≤ count ↔ b.securityBlob.isSome)
    (small : (b.bytes.bytesAt position unicode).length ≤ 0xFFFF) :
    Reads limit start unicode b.words (blank.readWords count) b.announced := by
  simp only [words, readWords]
  refine .bind .u16 fun _ => ?_
  cases blob : b.securityBlob with
  | some blob' =>
    have extended : 4 ≤ count := form.mpr (by simp [blob])
    have length : blob'.length ≤ 0xFFFF := by
      simp only [bytes, blob, Encoder.bytesAt_append, Encoder.bytesAt_piece,
        List.length_append] at small
      omega
    simp only [extended, if_true]
    exact .last .u16 (by simp only [replicate_announced length, announced, blob, Option.map_some])
  | none =>
    have plain : ¬4 ≤ count := fun le => by simpa [blob] using form.mp le
    simp only [plain, if_false, announced, blob, Option.map_none]
    exact .pure

theorem reads_trailing {text : String} (h : Text.Terminable unicode text) (template : String) :
    Reads limit start unicode (.string text) (trailing limit template) text :=
  .room (Encoder.length_bytesAt_string_pos text start unicode) (.stringOrEmpty h)

theorem reads_bytes {b : SessionSetupResponse} (h : b.Expressible unicode) :
    Reads limit start unicode b.bytes
      (b.announced.readBytes (b.bytes.bytesAt start unicode).length) b := by
  refine .ahead rfl ?_
  have strings (blob : Option Bytes) (position limit : Nat) :
      Reads limit position unicode
        (.string b.nativeOs ++ (.string b.nativeLanman ++ .string b.primaryDomain))
        (do
          let nativeOs ← trailing limit b.announced.nativeOs
          let nativeLanman ← trailing limit b.announced.nativeLanman
          let primaryDomain ← trailing limit b.announced.primaryDomain
          return { b with securityBlob := blob, nativeOs, nativeLanman, primaryDomain })
        { b with securityBlob := blob } :=
    .bind (reads_trailing h.nativeOs _) fun _ => .bind (reads_trailing h.nativeLanman _) fun _ =>
      .last (reads_trailing h.primaryDomain _) rfl
  cases blob : b.securityBlob with
  | some blob' =>
    have length : (List.replicate blob'.length (0 : UInt8)).length = blob'.length :=
      List.length_replicate
    simp only [announced, blob, bytes, Option.map_some, Encoder.append_assoc, length]
    refine .bind (.map (.take rfl)) fun position => ?_
    exact (strings (some blob') position _).congr (by rw [← blob])
  | none =>
    simp only [announced, blob, bytes, Option.map_none, Encoder.append_assoc,
      Encoder.empty_append, pure_bind]
    exact (strings none start _).congr (by rw [← blob])

end SessionSetupResponse

namespace TreeConnectRequest

structure Expressible (unicode : Bool) (b : TreeConnectRequest) : Prop where
  path : Text.Terminable unicode b.path
  service : Text.Terminable false b.service

/-- What the parameter words say to a template. -/
def announced (b t : TreeConnectRequest) : TreeConnectRequest :=
  { t with flags := b.flags, password := List.replicate b.password.length 0 }

theorem reads_words (b t : TreeConnectRequest) (count : UInt8)
    (small : (b.bytes.bytesAt position unicode).length ≤ 0xFFFF) :
    Reads limit start unicode b.words (t.readWords count) (b.announced t) := by
  have length : b.password.length ≤ 0xFFFF := by
    simp only [bytes, Encoder.bytesAt_append, Encoder.bytesAt_piece, List.length_append] at small
    omega
  refine .bind .u16 fun _ => .last .u16 ?_
  rw [replicate_announced length, announced]

theorem reads_bytes {b : TreeConnectRequest} (h : b.Expressible unicode) (t : TreeConnectRequest) :
    Reads limit start unicode b.bytes
      ((b.announced t).readBytes (b.bytes.bytesAt start unicode).length) b := by
  have length : (b.announced t).password.length = b.password.length := List.length_replicate
  refine .ahead rfl ?_
  simp only [bytes, Encoder.append_assoc, length]
  exact .bind (.take rfl) fun _ => .bind (.string h.path) fun _ => .last (.oemString h.service) rfl

end TreeConnectRequest

namespace TreeConnectResponse

structure Expressible (unicode : Bool) (b : TreeConnectResponse) : Prop where
  service : Text.Terminable false b.service
  nativeFileSystem : Text.Terminable unicode b.nativeFileSystem

/-- What the parameter words say. -/
def announced (b : TreeConnectResponse) : TreeConnectResponse :=
  { blank with optionalSupport := b.optionalSupport, accessRights := b.accessRights }

theorem reads_words {b : TreeConnectResponse} {count : UInt8}
    (form : 7 ≤ count ↔ b.accessRights.isSome) :
    Reads limit start unicode b.words (blank.readWords count) b.announced := by
  simp only [words, readWords]
  refine .bind .u16 fun _ => ?_
  cases rights : b.accessRights with
  | some both =>
    have long : 7 ≤ count := form.mpr (by simp [rights])
    simp only [long, if_true]
    exact .bind .u32 fun _ => .last .u32 (by simp only [announced, rights])
  | none =>
    have short : ¬7 ≤ count := fun le => by simpa [rights] using form.mp le
    simp only [short, if_false, announced, rights]
    exact .pure

theorem reads_bytes {b : TreeConnectResponse} (h : b.Expressible unicode) :
    Reads limit start unicode b.bytes
      (b.announced.readBytes (b.bytes.bytesAt start unicode).length) b := by
  refine .ahead rfl (.bind (.oemString h.service) fun position => ?_)
  refine .room (Encoder.length_bytesAt_string_pos b.nativeFileSystem position unicode) ?_
  exact .last (.stringOrEmpty h.nativeFileSystem) rfl

end TreeConnectResponse

end Smb1
