import Smb1.Proofs.Session.Frames
import Smb1.Session.Operation

/-! Sending a chain, frame after frame. Each frame takes links from the front of what is left, one
at least, so that every link goes out once and in order. -/
namespace Smb1.Session

open Std.Do
open Netbios

set_option mvcgen.warning false

variable {bodies : List Body} {before after : Bytes}

/-- Between two states of the output, frames were written that carry some bodies, all of them in
order. -/
def Delivered (bodies : List Body) (before after : Bytes) : Prop :=
  ∃ (frames : List Bytes) (parts : List (List Body)),
    List.Forall₂ Carries frames parts ∧ parts.flatten = bodies ∧
    after = before ++ frames.flatMap packet

/-- A whole frame in front of others. -/
theorem Emitted.behind {frame : Bytes} {links : Nat} (carries : Carries frame (bodies.take links))
    (others : Emitted (bodies.drop links) (before ++ packet frame) after) :
    Emitted bodies before after := by
  obtain ⟨frames, parts, written, each, inOrder, rfl, part, most⟩ := others
  refine ⟨frame :: frames, bodies.take links :: parts, packet frame ++ written,
    .cons carries each, ?_, List.append_assoc .., ?_, ?_⟩
  · have whole := (List.prefix_append_right_inj (bodies.take links)).mpr inOrder
    rw [List.take_append_drop] at whole
    exact whole
  · rw [List.flatMap_cons]
    exact (List.prefix_append_right_inj _).mpr part
  · cases frames with
    | nil => exact List.nil_prefix
    | cons next frames =>
      rw [List.dropLast_cons_cons, List.flatMap_cons]
      exact (List.prefix_append_right_inj _).mpr most

/-- What was delivered was emitted. -/
theorem Delivered.emitted (delivered : Delivered bodies before after) :
    Emitted bodies before after := by
  obtain ⟨frames, parts, each, all, output⟩ := delivered
  refine ⟨frames, parts, frames.flatMap packet, each, ?_, output, List.prefix_refl _, ?_⟩
  · exact all ▸ List.prefix_refl _
  · obtain ⟨last, whole⟩ := List.dropLast_prefix frames
    exact ⟨last.flatMap packet, by rw [← List.flatMap_append, whole]⟩

theorem Delivered.behind {frame : Bytes} {links : Nat}
    (carries : Carries frame (bodies.take links))
    (others : Delivered (bodies.drop links) (before ++ packet frame) after) :
    Delivered bodies before after := by
  obtain ⟨frames, parts, each, all, rfl⟩ := others
  refine ⟨frame :: frames, bodies.take links :: parts, .cons carries each, ?_, ?_⟩
  · rw [List.flatten_cons, all, List.take_append_drop]
  · rw [List.flatMap_cons, List.append_assoc]

namespace Exchange

/-- How many templates an exchange uses up. -/
def answered (x : Exchange) : Nat := min x.request.links x.response.bodies.length

/-- What is given back for the links of the frame. -/
def returned (x : Exchange) : List Body := x.response.bodies.take x.answered

/-- The links that the frame did not take, and the templates for them. -/
def remaining (x : Exchange) : Exchange where
  request := { x.request with bodies := x.request.bodies.drop x.request.links }
  response := { x.response with bodies := x.response.bodies.drop x.answered }

end Exchange

/-- One round of sending: it ends with the last link, or without a template for the next one. -/
theorem sendLinks_succ (frames : Nat) (request response : Message) (answers : List Body)
    (s : Session) :
    sendLinks (frames + 1) request response answers s =
      match exchange request response s with
      | .error e s => .error e s
      | .ok x s =>
        if x.request.bodies.length ≤ x.request.links then
          .ok { x.response with
            bodies := answers ++ x.returned, links := (answers ++ x.returned).length } s
        else if x.remaining.response.bodies = [] then .error (.precondition .noTemplate) s
        else
          sendLinks frames x.remaining.request x.remaining.response (answers ++ x.returned) s := by
  simp only [sendLinks, bind, EStateM.bind]
  cases exchange request response s with
  | error e s => rfl
  | ok x s =>
    by_cases all : x.request.bodies.length ≤ x.request.links
    · simp only [if_pos all]
      rfl
    · simp only [if_neg all, List.isEmpty_iff]
      change _ = if x.response.bodies.drop (min x.request.links x.response.bodies.length) = []
        then _ else _
      by_cases none : x.response.bodies.drop (min x.request.links x.response.bodies.length) = []
      · simp only [if_pos none]
        rfl
      · simp only [if_neg none]
        rfl

/-- The links that were sent so far are never sent again, and the next frame goes on with the link
behind them. -/
theorem sendLinks_frames (frames : Nat) (request response : Message) (answers : List Body)
    (before : Connection) :
    ⦃fun s => ⌜s.connection = before⌝⦄ sendLinks frames request response answers
    ⦃post⟨fun _ s => ⌜Delivered request.bodies before.output s.connection.output⌝,
      fun _ s => ⌜Emitted request.bodies before.output s.connection.output⌝⟩⦄ := by
  rw [triple_iff]
  rintro s rfl
  induction frames generalizing request response answers s with
  | zero => exact .nothing _ _
  | succ frames ih =>
    rw [sendLinks_succ]
    cases exchanged : exchange request response s with
    | error e s' => exact emitted_of_exchange exchanged
    | ok x s' =>
      obtain ⟨kept, links, ⟨frame, carries, output⟩, -⟩ := answered_of_exchange exchanged
      dsimp only
      by_cases all : x.request.bodies.length ≤ x.request.links
      · rw [if_pos all]
        rw [kept] at all
        rw [List.take_of_length_le all] at carries
        exact ⟨[frame], [request.bodies], .cons carries .nil, List.flatten_singleton,
          by rw [List.flatMap_singleton]; exact output⟩
      by_cases none : x.remaining.response.bodies = []
      · have emitted : Emitted request.bodies s.connection.output s'.connection.output := by
          rw [output]
          exact .frame carries (List.prefix_refl _) _
        rw [if_neg all, if_pos none]
        exact emitted
      · have others := ih x.remaining.request x.remaining.response (answers ++ x.returned) s'
        have rest : x.remaining.request.bodies = request.bodies.drop x.request.links :=
          congrArg (List.drop _) kept
        rw [rest, output] at others
        rw [if_neg all, if_neg none]
        cases ended : sendLinks frames x.remaining.request x.remaining.response
          (answers ++ x.returned) s' <;>
        · rw [ended] at others
          exact .behind carries others

theorem exchange_of_empty {request : Message} (empty : request.bodies = []) (response : Message)
    (s : Session) : exchange request response s = .error (.precondition .emptyRequest) s := by
  obtain ⟨header, bodies, length, signSeq, verification, links⟩ := request
  cases empty
  rfl

/-- Every frame takes a link, so that no more frames are used than there are links. -/
theorem sendLinks_enough {fewer frames : Nat} {request : Message} (response : Message)
    (answers : List Body) (s : Session) (enough : request.bodies.length ≤ fewer)
    (more : fewer ≤ frames) :
    sendLinks frames request response answers s = sendLinks fewer request response answers s := by
  induction fewer generalizing frames request response answers s with
  | zero =>
    have empty := List.length_eq_zero_iff.mp (Nat.le_zero.mp enough)
    cases frames with
    | zero => rfl
    | succ frames => rw [sendLinks_succ, exchange_of_empty empty]; rfl
  | succ fewer ih =>
    obtain ⟨frames, rfl⟩ : ∃ n, frames = n + 1 := ⟨frames - 1, by omega⟩
    rw [sendLinks_succ, sendLinks_succ]
    cases exchanged : exchange request response s with
    | error e s' => rfl
    | ok x s' =>
      obtain ⟨kept, links, ⟨frame, carries, -⟩, -⟩ := answered_of_exchange exchanged
      -- The frame took a link, so that fewer are left than frames may be used.
      have taken := links_pos_of_carries carries
      have left : x.remaining.request.bodies.length ≤ fewer := by
        have := congrArg List.length kept
        simp only [Exchange.remaining, List.length_drop]
        omega
      dsimp only
      rw [ih x.remaining.response (answers ++ x.returned) s' left (by omega)]

/-- Whatever the server does, the frames that are written for a chain carry its links in order, each
link once: those of a part of the chain, and of all of it when sending ends well. The loop ends
because every frame carries a link, so it makes no difference how many frames it may use beyond the
number of links. -/
theorem send_carries (s : Session) (request response : Message) :
    let sent := (Operation.send request response).perform s
    Emitted request.bodies s.connection.output sent.2.connection.output ∧
    (sent.1 = .ok () →
      Delivered request.bodies s.connection.output sent.2.connection.output) ∧
    ∀ frames, request.bodies.length ≤ frames →
      sendLinks frames request response [] s = send request response s := by
  have done : ⦃fun s' => ⌜s'.connection = s.connection⌝⦄ (Operation.send request response).step
      ⦃post⟨fun _ s' => ⌜Delivered request.bodies s.connection.output s'.connection.output⌝,
        fun _ s' => ⌜Emitted request.bodies s.connection.output s'.connection.output⌝⟩⦄ := by
    have frames := sendLinks_frames request.bodies.length request response [] s.connection
    mvcgen [Operation.step, Session.send, frames]
  have after := triple_iff.mp done s rfl
  have outputs :
      let sent := (Operation.send request response).perform s
      Emitted request.bodies s.connection.output sent.2.connection.output ∧
      (sent.1 = .ok () →
        Delivered request.bodies s.connection.output sent.2.connection.output) := by
    unfold Operation.perform
    cases ended : (Operation.send request response).step s with
    | ok _ s' =>
      rw [ended] at after
      exact ⟨after.emitted, fun _ => after⟩
    | error e s' =>
      rw [ended] at after
      exact ⟨after, nofun⟩
  exact ⟨outputs.1, outputs.2,
    fun frames enough => sendLinks_enough response [] s (Nat.le_refl _) enough⟩

end Smb1.Session
