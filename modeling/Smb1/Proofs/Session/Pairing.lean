import Smb1.Session.Basic

/-! The record of a signer. Signed requests count up in steps of two, and a response is checked with
the number behind that of the last request that waits for one. -/
namespace Smb1

/-- A request is signed under a key as the one at `place`, counted from the start of signing. -/
structure Outbound.IsSigned (sent : Outbound) (key : Bytes) (place : Nat) : Prop where
  signSeq : sent.request.signSeq = UInt32.ofNat (2 * place)
  responseSeq : sent.responseSeq = some (UInt32.ofNat (2 * place + 1))
  frame : ∃ plain signed, Signer.sign ⟨key, UInt32.ofNat (2 * place), .disabled⟩
    Security.Md5.digest plain 0 plain.length = .ok signed ∧ sent.frame = signed.buffer

namespace SignatureUse

def request? : SignatureUse → Option Outbound
  | .signed sent _ => some sent
  | .checked _ => none

/-- The request that waits for a response from here on. -/
def waiting? : SignatureUse → Option Outbound
  | .signed sent true => some sent
  | _ => none

/-- The requests of a record that were signed. -/
def requests (uses : List SignatureUse) : List Outbound := uses.filterMap request?

/-- The last request that waits for a response, in a record with the latest use first. -/
def awaited? (uses : List SignatureUse) : Option Outbound := uses.findSome? waiting?

/-- A record with the latest use first in which every number is the one that is due. -/
inductive Numbered (key : Bytes) : List SignatureUse → Prop
  | nil : Numbered key []
  | signed {uses : List SignatureUse} {sent : Outbound} {awaited : Bool}
      (earlier : Numbered key uses) (due : sent.IsSigned key (requests uses).length) :
      Numbered key (.signed sent awaited :: uses)
  | checked {uses : List SignatureUse} {sent : Outbound} {response : Message}
      (earlier : Numbered key uses) (awaited : awaited? uses = some sent)
      (answers : response.header.mid = sent.request.header.mid)
      (due : sent.responseSeq = some response.signSeq) : Numbered key (.checked response :: uses)

/-- A record in the order of time that pairs responses with requests. -/
structure Paired (key : Bytes) (uses : List SignatureUse) : Prop where
  signed : ∀ (place : Nat) (sent : Outbound), (requests uses)[place]? = some sent →
    sent.IsSigned key place
  /-- A response answers the last request before it that waits for one. -/
  checked : ∀ earlier response later, uses = earlier ++ .checked response :: later →
    ∃ before sent between, earlier = before ++ .signed sent true :: between ∧
      (∀ other, .signed other true ∉ between) ∧
      response.header.mid = sent.request.header.mid ∧
      response.signSeq = UInt32.ofNat (2 * (requests before).length + 1)

variable {key : Bytes} {uses : List SignatureUse}

@[simp]
theorem requests_signed (sent : Outbound) (awaited : Bool) :
    requests (.signed sent awaited :: uses) = sent :: requests uses := rfl

@[simp]
theorem requests_reverse (uses : List SignatureUse) :
    requests uses.reverse = (requests uses).reverse :=
  List.filterMap_reverse

namespace Numbered

/-- What came first is numbered without what followed. -/
theorem of_append {later : List SignatureUse} (numbered : Numbered key (later ++ uses)) :
    Numbered key uses := by
  induction later with
  | nil => exact numbered
  | cons last later ih =>
    cases numbered with
    | signed earlier due => exact ih earlier
    | checked earlier awaited answers due => exact ih earlier

theorem isSigned (numbered : Numbered key uses) {place : Nat} {sent : Outbound}
    (found : (requests uses).reverse[place]? = some sent) : sent.IsSigned key place := by
  induction numbered with
  | nil => cases found
  | checked earlier awaited answers due ih => exact ih found
  | @signed uses last awaited earlier due ih =>
    rw [requests_signed, List.reverse_cons, List.getElem?_append] at found
    split at found
    · exact ih found
    · rename_i beyond
      rw [List.length_reverse] at beyond found
      obtain ⟨atEnd, rfl⟩ : place - (requests uses).length = 0 ∧ last = sent := by
        simpa [List.getElem?_singleton] using found
      obtain rfl : place = (requests uses).length := by omega
      exact due

/-- The response that was checked last answers the last request that waits for one. -/
theorem answers {response : Message} (numbered : Numbered key (.checked response :: uses)) :
    ∃ after sent before, uses = after ++ .signed sent true :: before ∧
      (∀ other, .signed other true ∉ after) ∧
      response.header.mid = sent.request.header.mid ∧
      response.signSeq = UInt32.ofNat (2 * (requests before).length + 1) := by
  cases numbered with
  | @checked _ sent _ earlier awaited answers due =>
    obtain ⟨after, use, before, rfl, waiting, quiet⟩ := List.findSome?_eq_some_iff.mp awaited
    obtain rfl : use = .signed sent true := by
      match use with
      | .signed _ true => cases waiting; rfl
      | .signed _ false | .checked _ => cases waiting
    cases earlier.of_append with
    | signed _ place =>
      have number := due.symm.trans place.responseSeq
      refine ⟨after, sent, before, rfl, fun other among => ?_, answers, Option.some.inj number⟩
      cases quiet _ among

theorem paired (numbered : Numbered key uses) : Paired key uses.reverse where
  signed place sent found := by
    rw [requests_reverse] at found
    exact numbered.isSigned found
  checked earlier response later split := by
    have standing : uses = later.reverse ++ .checked response :: earlier.reverse := by
      rw [← uses.reverse_reverse, split]
      simp
    rw [standing] at numbered
    obtain ⟨after, sent, before, shape, quiet, mid, number⟩ := numbered.of_append.answers
    refine ⟨before.reverse, sent, after.reverse, ?_, by simpa using quiet, mid, ?_⟩
    · rw [← earlier.reverse_reverse, shape]
      simp
    · simpa using number

end Numbered

end SignatureUse

end Smb1
