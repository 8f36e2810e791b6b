import Smb1.Proofs.Message.Capacity

/-! Messages of one body. Whatever fits the buffer is sent, and a template that takes the body gets
it, whatever status the header shows. -/
namespace Smb1

open Wire

namespace Message

variable {header : Header} {t b mid r : Body}

/-- The frame of a message that has only one body. -/
def alone (header : Header) (b : Body) : Bytes :=
  (header.forLink b.command).encode ++
    (Chain.link b none).bytesAt Header.length header.isUnicode

theorem length_alone (header : Header) (b : Body) :
    (alone header b).length = Chain.stop b Header.length header.isUnicode := by
  rw [alone, List.length_append, Header.length_encode, Chain.length_link]

theorem encode_alone (config : Config) {maxSize : Nat} (timely : b.Timely)
    (fits : Chain.stop b Header.length header.isUnicode ≤ maxSize) :
    ∃ sent, (ofBodies header [b]).encode config maxSize = .ok (alone header b, sent) := by
  have frame : (ofBodies header [b]).frame config b = alone header b := frame_eq _ config b
  have carried : ∀ other ∈ (ofBodies header [b]).frameBodies config, other.Timely :=
    List.forall_mem_singleton.mpr timely
  have room : ((ofBodies header [b]).frame config b).length ≤ maxSize := by
    rw [frame, length_alone]
    exact fits
  exact ⟨_, frame ▸ encode_of_fits config rfl carried room⟩

theorem decode_alone {m : Message} (waiting : m.bodies = [t])
    (takes : t.Takes (Chain.wordsStart b Header.length) header.isUnicode b mid r)
    (small : b.wordCount ≤ 255)
    (fits : Chain.stop b Header.length header.isUnicode ≤ 0xFFFF) :
    m.decode (alone header b) = ({ m with
      header := (header.forLink b.command).received, bodies := [r], links := 1
      length := (alone header b).length }, .ok ()) := by
  have bound : (alone header b).length < Wire.memoryLimit := by
    rw [length_alone]
    exact Wire.lt_memoryLimit fits
  have followed : Chain.Followed b none (Chain.stop b Header.length header.isUnicode) :=
    ⟨nofun, nofun, fits⟩
  have read := Chain.readLink_eq takes small followed []
    (Header.length_encode (header.forLink b.command)) (by rw [List.append_nil]; exact bound)
  rw [List.append_nil] at read
  have decoded : Chain.decode (header.forLink b.command).status m.bodies
      ⟨alone header b, Header.length, header.isUnicode⟩ = ([r], .ok (1,
        ⟨alone header b, Chain.stop b Header.length header.isUnicode, header.isUnicode⟩)) := by
    rw [waiting]
    exact Chain.decode_last read
  rw [length_alone]
  exact decode_of_chain waiting bound takes.command decoded

end Message

end Smb1
