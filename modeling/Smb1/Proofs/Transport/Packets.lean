import Smb1.Proofs.Transport.Split
import Smb1.Transport.Connection

/-! A session stream as the packets it is made of. A reader gets every message of it once and in
order, whatever the bytes look like, and of a stream that breaks off those that are whole. -/
namespace Smb1.Netbios

/-- What may stand on a session stream. -/
inductive Packet
  | message (frame : Bytes)
  | keepAlive (payload : Bytes)
  deriving DecidableEq, Repr

namespace Packet

def payload : Packet → Bytes
  | message frame => frame
  | keepAlive payload => payload

def type : Packet → UInt8
  | message _ => sessionMessage
  | keepAlive _ => Netbios.keepAlive

/-- What the packet is to a reader: a message, or nothing. -/
def frames : Packet → List Bytes
  | message frame => [frame]
  | keepAlive _ => []

/-- The packet on the wire. -/
def bytes (p : Packet) : Bytes := header p.type p.payload.length ++ p.payload

/-- A length field can show how long the payload is. -/
def Fits (p : Packet) : Prop := p.payload.length ≤ maxFrameLength

instance (p : Packet) : Decidable p.Fits := inferInstanceAs (Decidable (_ ≤ _))

/-- A message is sent as such; a keep-alive is put on the wire by hand. -/
def transmit : Packet → Connection.Step Unit
  | message frame => do discard (Connection.send frame)
  | keepAlive payload => Connection.write (bytes (keepAlive payload))

/-- Any number of packets, one behind the other. -/
def transmitAll : List Packet → Connection.Step Unit
  | [] => return ⟨⟩
  | p :: rest => do p.transmit; transmitAll rest

/-- The messages of some packets, the first of which starts at `start`, each behind the position
where it ends. -/
def endings : (start : Nat) → List Packet → List (Nat × Bytes)
  | _, [] => []
  | start, p :: rest =>
    p.frames.map (start + p.bytes.length, ·) ++ endings (start + p.bytes.length) rest

/-- The messages that end in the first `cut` bytes of the packets. -/
def framesBefore (cut : Nat) (packets : List Packet) : List Bytes :=
  ((endings 0 packets).filter (·.1 ≤ cut)).map Prod.snd

end Packet

theorem header_eq (type : UInt8) (length : Nat) : header type length =
    [type, .ofNat (length / 256 / 256), .ofNat (length / 256), .ofNat length] := rfl

theorem length_header (type : UInt8) (length : Nat) :
    (header type length).length = headerLength := rfl

/-- Three bytes hold every length that a packet may have. -/
theorem leNat_header {length : Nat} (fits : length ≤ maxFrameLength) :
    leNat [.ofNat length, .ofNat (length / 256), .ofNat (length / 256 / 256)] = length := by
  have value : leNat (leBytes 3 length) = length % capacity 3 := leNat_leBytes 3 length
  have small : length < capacity 3 := Nat.lt_succ_of_le fits
  rwa [Nat.mod_eq_of_lt small] at value

theorem readHeader_message {length : Nat} (fits : length ≤ maxFrameLength) (rest : Bytes) :
    readHeader (header sessionMessage length ++ rest) = (.ok length, rest) := by
  rw [header_eq]
  simp only [List.cons_append, List.nil_append]
  rw [readHeader, if_pos rfl, leNat_header fits]

/-- A keep-alive is passed over with its payload, and one that is not whole ends the stream. -/
theorem readHeader_keepAlive {length : Nat} (fits : length ≤ maxFrameLength) (rest : Bytes) :
    readHeader (header keepAlive length ++ rest) =
      if length ≤ rest.length then readHeader (rest.drop length)
      else (.error (.io .endOfStream), []) := by
  have other : keepAlive ≠ sessionMessage := by decide
  rw [header_eq]
  simp only [List.cons_append, List.nil_append]
  rw [readHeader, if_neg other, if_pos rfl, leNat_header fits]
  split
  next e after read =>
    by_cases enough : length ≤ rest.length
    · simp [readExact_eq_ok enough] at read
    · rw [readExact_eq_error (Nat.not_le.mp enough)] at read
      cases read
      rw [if_neg enough]
  next _ after read =>
    by_cases enough : length ≤ rest.length
    · rw [readExact_eq_ok enough] at read
      cases read
      rw [if_pos enough]
    · simp [readExact_eq_error (Nat.not_le.mp enough)] at read

/-- A header that is not whole ends the stream. -/
theorem readHeader_short {input : Bytes} (short : input.length < headerLength) :
    readHeader input = (.error (.io .endOfStream), []) := by
  unfold readHeader
  split
  next => simp only [List.length_cons, headerLength] at short; omega
  next => rfl

theorem readFrames_of_error {input rest : Bytes} {e : Error}
    (broken : readFrame input = (.error e, rest)) : readFrames input = ([], rest) := by
  rw [readFrames]
  split
  next _ after read =>
    rw [broken] at read
    cases read
    rfl
  next _ after read =>
    rw [broken] at read
    cases read

theorem readFrames_of_ok {input frame rest : Bytes} (read : readFrame input = (.ok frame, rest)) :
    readFrames input = (frame :: (readFrames rest).1, (readFrames rest).2) := by
  rw [readFrames]
  split
  next _ after failed =>
    rw [read] at failed
    cases failed
  next _ after again =>
    rw [read] at again
    cases again
    rfl

/-- Streams that begin alike for one message are alike for all. -/
theorem readFrames_congr {input other : Bytes} (same : readFrame input = readFrame other) :
    readFrames input = readFrames other := by
  rcases read : readFrame other with ⟨e | frame, rest⟩
  · rw [readFrames_of_error read, readFrames_of_error (same.trans read)]
  · rw [readFrames_of_ok read, readFrames_of_ok (same.trans read)]

namespace Packet

theorem length_bytes (p : Packet) : p.bytes.length = headerLength + p.payload.length := by
  rw [bytes, List.length_append, length_header]

/-- A packet is read, and then what stands behind it. -/
theorem readFrames_append {p : Packet} (fits : p.Fits) (rest : Bytes) :
    readFrames (p.bytes ++ rest) = (p.frames ++ (readFrames rest).1, (readFrames rest).2) := by
  cases p with
  | message frame =>
    have small : frame.length ≤ maxFrameLength := fits
    have read : readFrame (bytes (message frame) ++ rest) = (.ok frame, rest) := by
      have enough : frame.length ≤ (frame ++ rest).length := by simp
      simp only [readFrame, bytes, type, payload, List.append_assoc, readHeader_message small,
        readExact_eq_ok enough, List.take_left, List.drop_left]
    exact readFrames_of_ok read
  | keepAlive payload =>
    have small : payload.length ≤ maxFrameLength := fits
    have skipped : readFrame (bytes (keepAlive payload) ++ rest) = readFrame rest := by
      have enough : payload.length ≤ (payload ++ rest).length := by simp
      simp only [readFrame, bytes, type, Packet.payload, List.append_assoc,
        readHeader_keepAlive small, if_pos enough, List.drop_left]
    exact readFrames_congr skipped

/-- A packet that breaks off is nothing to a reader, and nothing is left behind it. -/
theorem readFrames_cut {p : Packet} (fits : p.Fits) {cut : Nat} (short : cut < p.bytes.length) :
    readFrames (p.bytes.take cut) = ([], []) := by
  have broken : readFrame (p.bytes.take cut) = (.error (.io .endOfStream), []) := by
    rw [length_bytes] at short
    by_cases head : cut < headerLength
    · have none : (p.bytes.take cut).length < headerLength := by
        rw [List.length_take]
        omega
      rw [readFrame, readHeader_short none]
    · obtain ⟨held, rfl⟩ := Nat.exists_eq_add_of_le (Nat.not_lt.mp head)
      have few : (p.payload.take held).length < p.payload.length := by
        rw [List.length_take]
        omega
      have split : p.bytes.take (headerLength + held) =
          header p.type p.payload.length ++ p.payload.take held := by
        rw [bytes, ← length_header p.type p.payload.length, List.take_length_add_append]
      rw [split, readFrame]
      cases p with
      | message frame =>
        rw [type, readHeader_message fits]
        exact readExact_eq_error few
      | keepAlive payload =>
        rw [type, readHeader_keepAlive fits, if_neg (Nat.not_le.mpr few)]
  exact readFrames_of_error broken

theorem le_of_mem_endings {packets : List Packet} {start : Nat} {e : Nat × Bytes}
    (member : e ∈ endings start packets) : start ≤ e.1 := by
  induction packets generalizing start with
  | nil => cases member
  | cons p rest ih =>
    rcases List.mem_append.mp member with first | later
    · obtain ⟨frame, -, rfl⟩ := List.mem_map.mp first
      exact Nat.le_add_right ..
    · exact Nat.le_trans (Nat.le_add_right ..) (ih later)

/-- From a stream that is cut anywhere, a reader gets the messages that end before the cut, and
uses up the rest. -/
theorem readFrames_take {packets : List Packet} (fits : ∀ p ∈ packets, p.Fits) (start cut : Nat) :
    readFrames ((packets.flatMap bytes).take cut) =
      (((endings start packets).filter (·.1 ≤ start + cut)).map Prod.snd, []) := by
  induction packets generalizing start cut with
  | nil =>
    have ended : readFrame [] = (.error (.io .endOfStream), []) := by
      rw [readFrame, readHeader_short (by decide)]
    rw [List.flatMap_nil, List.take_nil]
    exact readFrames_of_error ended
  | cons p rest ih =>
    have own := fits p List.mem_cons_self
    rw [List.flatMap_cons, endings, List.filter_append, List.map_append]
    by_cases whole : p.bytes.length ≤ cut
    · obtain ⟨more, rfl⟩ := Nat.exists_eq_add_of_le whole
      have first : (p.frames.map (start + p.bytes.length, ·)).filter
          (·.1 ≤ start + (p.bytes.length + more)) = p.frames.map (start + p.bytes.length, ·) := by
        rw [List.filter_eq_self]
        intro e member
        obtain ⟨frame, -, rfl⟩ := List.mem_map.mp member
        exact decide_eq_true (by omega)
      have plain : (p.frames.map (start + p.bytes.length, ·)).map Prod.snd = p.frames := by
        rw [List.map_map]
        exact List.map_id _
      rw [List.take_length_add_append, readFrames_append own,
        ih (fun q member => fits q (List.mem_cons_of_mem _ member)) (start + p.bytes.length) more,
        first, plain, Nat.add_assoc]
    · have beyond {e : Nat × Bytes} (far : start + p.bytes.length ≤ e.1) :
          ¬decide (e.1 ≤ start + cut) = true := by
        rw [decide_eq_true_eq]
        omega
      have first : (p.frames.map (start + p.bytes.length, ·)).filter (·.1 ≤ start + cut) = [] := by
        rw [List.filter_eq_nil_iff]
        intro e member
        obtain ⟨frame, -, rfl⟩ := List.mem_map.mp member
        exact beyond (Nat.le_refl _)
      have later : (endings (start + p.bytes.length) rest).filter (·.1 ≤ start + cut) = [] :=
        List.filter_eq_nil_iff.mpr fun e member => beyond (le_of_mem_endings member)
      rw [List.take_append_of_le_length (Nat.le_of_not_le whole),
        readFrames_cut own (Nat.not_le.mp whole), first, later]
      rfl

/-- Cut behind its end, a stream has lost nothing. -/
theorem framesBefore_length (packets : List Packet) :
    framesBefore (packets.flatMap bytes).length packets = packets.flatMap frames := by
  have all (start : Nat) : ((endings start packets).filter
      (·.1 ≤ start + (packets.flatMap bytes).length)).map Prod.snd = packets.flatMap frames := by
    induction packets generalizing start with
    | nil => rfl
    | cons p rest ih =>
      have first : (p.frames.map (start + p.bytes.length, ·)).filter
          (·.1 ≤ start + ((p :: rest).flatMap bytes).length) =
            p.frames.map (start + p.bytes.length, ·) := by
        rw [List.filter_eq_self]
        intro e member
        obtain ⟨frame, -, rfl⟩ := List.mem_map.mp member
        simp [List.flatMap_cons]
      rw [endings, List.filter_append, first, List.map_append, List.map_map, List.flatMap_cons,
        List.flatMap_cons, List.length_append, ← Nat.add_assoc, ih]
      exact congrArg (· ++ _) (List.map_id _)
  have whole := all 0
  rwa [Nat.zero_add] at whole

end Packet
end Smb1.Netbios

namespace Smb1.Connection

open Netbios

/-- At least `count` bytes can still be written. -/
def HasRoom (count : Nat) (c : Connection) : Prop := ∀ room ∈ c.room, count ≤ room

instance (count : Nat) (c : Connection) : Decidable (c.HasRoom count) :=
  inferInstanceAs (Decidable (∀ room ∈ c.room, _))

/-- The connection when it has taken `bytes`. -/
def took (bytes : Bytes) (c : Connection) : Connection :=
  { c with written := bytes :: c.written, room := c.room.map (· - bytes.length) }

theorem write_eq {bytes : Bytes} {c : Connection} (enough : c.HasRoom bytes.length) :
    write bytes c = .ok () (c.took bytes) := by
  rcases c with ⟨name, input, written, _ | room⟩
  · rfl
  · have fits : bytes.length ≤ room := enough room rfl
    have whole : bytes.take room = bytes := List.take_of_length_le fits
    simp [write, took, fits, whole]

theorem output_took (bytes : Bytes) (c : Connection) :
    (c.took bytes).output = c.output ++ bytes := by
  simp [took, output]

theorem HasRoom.mono {count fewer : Nat} {c : Connection} (enough : c.HasRoom count)
    (le : fewer ≤ count) : c.HasRoom fewer :=
  fun room member => Nat.le_trans le (enough room member)

theorem HasRoom.took {bytes : Bytes} {count : Nat} {c : Connection}
    (enough : c.HasRoom (bytes.length + count)) : (c.took bytes).HasRoom count := by
  intro left member
  obtain ⟨room, before, rfl⟩ := Option.map_eq_some_iff.mp member
  have := enough room before
  omega

/-- A packet that its length field can describe is put on the wire whole. -/
theorem transmit_eq {p : Packet} (fits : p.Fits) {count : Nat} {c : Connection}
    (enough : c.HasRoom (p.bytes.length + count)) :
    ∃ sent, p.transmit c = .ok () sent ∧ sent.output = c.output ++ p.bytes ∧
      sent.HasRoom count := by
  cases p with
  | message frame =>
    have small : ¬maxFrameLength < frame.length := Nat.not_lt.mpr fits
    let head := header sessionMessage frame.length
    have length : (Packet.message frame).bytes.length = head.length + frame.length :=
      List.length_append
    rw [length, Nat.add_assoc] at enough
    have first : write head c = .ok () (c.took head) := write_eq (enough.mono (by omega))
    have second : write frame (c.took head) = .ok () ((c.took head).took frame) :=
      write_eq (enough.took.mono (by omega))
    refine ⟨(c.took head).took frame, ?_, ?_, enough.took.took⟩
    · have unfolded : (Packet.message frame).transmit = (do let _ ← send frame; return ⟨⟩) := rfl
      simp [unfolded, send, bind, EStateM.bind, pure, EStateM.pure, small, first, second, head]
    · rw [output_took, output_took, List.append_assoc]
      rfl
  | keepAlive payload =>
    exact ⟨c.took (Packet.keepAlive payload).bytes, write_eq (enough.mono (by omega)),
      output_took .., enough.took⟩

/-- So are any number of them, one behind the other. -/
theorem transmitAll_eq {packets : List Packet} (fits : ∀ p ∈ packets, p.Fits) {c : Connection}
    (enough : c.HasRoom (packets.flatMap Packet.bytes).length) :
    ∃ sent, Packet.transmitAll packets c = .ok ⟨⟩ sent ∧
      sent.output = c.output ++ packets.flatMap Packet.bytes := by
  induction packets generalizing c with
  | nil => exact ⟨c, rfl, (List.append_nil _).symm⟩
  | cons p rest ih =>
    rw [List.flatMap_cons, List.length_append] at enough
    obtain ⟨between, first, written, room⟩ := transmit_eq (fits p List.mem_cons_self) enough
    obtain ⟨sent, later, more⟩ := ih (fun q member => fits q (List.mem_cons_of_mem _ member)) room
    refine ⟨sent, ?_, by rw [more, written, List.flatMap_cons, List.append_assoc]⟩
    simp only [Packet.transmitAll, bind, EStateM.bind, first, later]

theorem receiveAll_of_readFrames {c : Connection} {frames : List Bytes} {rest : Bytes}
    (read : readFrames c.input = (frames, rest)) :
    receiveAll c = .ok frames { c with input := rest } := by
  simp only [receiveAll, reading, read]

/-- What is sent arrives: every message once and in order, whatever keep-alives stand between
the messages and whatever bytes either holds. A stream that breaks off after any number of bytes
delivers the messages that are whole by then. -/
theorem receiveAll_transmitted {packets : List Packet} (fits : ∀ p ∈ packets, p.Fits)
    {sender : Connection} (enough : sender.HasRoom (packets.flatMap Packet.bytes).length) :
    ∃ sent stream, Packet.transmitAll packets sender = .ok ⟨⟩ sent ∧
      sent.output = sender.output ++ stream ∧
      (∀ receiver : Connection, receiver.input = stream →
        receiver.receiveAll = .ok (packets.flatMap Packet.frames) { receiver with input := [] }) ∧
      ∀ (cut : Nat) (receiver : Connection), receiver.input = stream.take cut →
        receiver.receiveAll =
          .ok (Packet.framesBefore cut packets) { receiver with input := [] } := by
  obtain ⟨sent, done, written⟩ := transmitAll_eq fits enough
  have upTo (cut : Nat) : readFrames ((packets.flatMap Packet.bytes).take cut) =
      (Packet.framesBefore cut packets, []) := by
    have read := Packet.readFrames_take fits 0 cut
    rwa [Nat.zero_add] at read
  have all : readFrames (packets.flatMap Packet.bytes) = (packets.flatMap Packet.frames, []) := by
    have read := upTo (packets.flatMap Packet.bytes).length
    rwa [List.take_length, Packet.framesBefore_length] at read
  refine ⟨sent, packets.flatMap Packet.bytes, done, written, ?_, ?_⟩
  · intro receiver whole
    exact receiveAll_of_readFrames (whole ▸ all)
  · intro cut receiver part
    exact receiveAll_of_readFrames (part ▸ upTo cut)

open Packet in
theorem receiveAll_transmitted_headerLike :
    ∃ sent, transmitAll
        [keepAlive [0, 0, 0, 1], message [], message [0x85, 0, 0, 3], keepAlive []]
        (ofInput "client" [] (some 24)) = .ok ⟨⟩ sent ∧
      receiveAll (ofInput "server" sent.output none) =
        .ok [[], [0x85, 0, 0, 3]] (ofInput "server" [] none) ∧
      receiveAll (ofInput "server" (sent.output.take 19) none) =
        .ok [[]] (ofInput "server" [] none) := by
  obtain ⟨sent, stream, done, written, whole, part⟩ := @receiveAll_transmitted
    [keepAlive [0, 0, 0, 1], message [], message [0x85, 0, 0, 3], keepAlive []] (by decide)
    (ofInput "client" [] (some 24)) (by decide)
  obtain rfl : sent.output = stream := written
  exact ⟨sent, done, whole (ofInput "server" sent.output none) rfl,
    part 19 (ofInput "server" (sent.output.take 19) none) rfl⟩

end Smb1.Connection
