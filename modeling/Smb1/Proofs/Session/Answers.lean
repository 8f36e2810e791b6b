import Smb1.Proofs.Session.Run
import Smb1.Proofs.Session.Sending

/-! The answers to a chain. A server decides how many links its frames have. They go into the first
templates that wait, but sending counts its answers by the links of the request. So all the answers
to a frame are read from the links in their places exactly when the frame that answers has no fewer
links; behind those, templates are given back as they were. -/
namespace Smb1

open Wire

/-- A body is what the template at an index became when a link of a frame was read into it: the link
at the same index, where the chain of the frame leads to it. -/
def Body.ReadFrom (b : Body) (templates : List Body) (frame : Bytes) (index : Nat) : Prop :=
  ∃ template reader successor behind, templates[index]? = some template ∧
    (Message.expecting templates).linkAt? frame index = some reader ∧
    Chain.readLink template reader = (b, .ok (successor, behind))

/-- All the links of a frame, and no others, were read into the first of some templates, each into
the one in its place, and the other templates are as they were. -/
structure ReadInto (frame : Bytes) (templates bodies : List Body) (links : Nat) : Prop where
  links_pos : 0 < links
  inside : links ≤ templates.length
  length_eq : bodies.length = templates.length
  read : ∀ index < links, ∃ b, bodies[index]? = some b ∧ b.ReadFrom templates frame index
  ends : ∀ index, links ≤ index → (Message.expecting templates).linkAt? frame index = none
  untouched : bodies.drop links = templates.drop links

/-- The links of a frame lie where its chain leads. -/
theorem Message.TakenFrom.linkAt?_eq {received : Message} {templates : List Body} {frame : Bytes}
    (taken : received.TakenFrom templates frame) (index : Nat) :
    (expecting templates).linkAt? frame index = Chain.linkAt? received.header.status templates
      ((Reader.start frame received.header.isUnicode).seek Header.length) index := by
  obtain ⟨_, _, head, command, -⟩ := taken
  simp only [linkAt?, head]
  exact if_pos command

theorem Message.TakenFrom.readInto {received : Message} {templates : List Body} {frame : Bytes}
    (taken : received.TakenFrom templates frame) :
    ReadInto frame templates received.bodies received.links := by
  have place := taken.linkAt?_eq
  obtain ⟨_, _, -, -, chain⟩ := taken
  refine ⟨chain.links_pos, chain.links_le, chain.length_eq, ?_, ?_, chain.drop_eq⟩
  · intro index inside
    obtain ⟨template, b, reader, successor, behind, waiting, there, leads, link⟩ :=
      chain.exists_link inside
    exact ⟨b, there, template, reader, successor, behind, waiting, (place index).trans leads, link⟩
  · exact fun index outside => (place index).trans (chain.linkAt?_eq_none outside)

/-- Some frames stand in front of the rest of a stream. -/
def Netbios.Brings : (input : Bytes) → (frames : List Bytes) → (rest : Bytes) → Prop
  | input, [], rest => input = rest
  | input, frame :: frames, rest =>
    ∃ behind, readFrame input = (.ok frame, behind) ∧ Brings behind frames rest

namespace Session

/-- One frame of a chain, with the templates that waited and the frame that answered. -/
structure Turn where
  templates : List Body
  exchange : Exchange
  answer : Bytes
  deriving DecidableEq, Repr

namespace Turn

variable {t : Turn}

/-- The links that went out. -/
def sent (t : Turn) : List Body := t.exchange.request.bodies.take t.exchange.request.links

/-- The templates for them. -/
def used (t : Turn) : List Body := t.templates.take t.exchange.answered

/-- What was given back for them. -/
def returned (t : Turn) : List Body := t.exchange.returned

/-- No fewer links came back than went out. -/
def Complete (t : Turn) : Prop := t.exchange.request.links ≤ t.exchange.response.links

/-- As many links came back as went out. -/
def Matched (t : Turn) : Prop := t.exchange.response.links = t.exchange.request.links

theorem Matched.complete (matched : t.Matched) : t.Complete := Nat.le_of_eq matched.symm

instance (t : Turn) : Decidable t.Complete := inferInstanceAs (Decidable (_ ≤ _))

instance (t : Turn) : Decidable t.Matched := inferInstanceAs (Decidable (_ = _))

/-- What an exchange makes true of its turn. -/
structure Sound (t : Turn) : Prop where
  links_le : t.exchange.request.links ≤ t.exchange.request.bodies.length
  taken : t.exchange.response.TakenFrom t.templates t.answer

theorem Sound.read (sound : t.Sound) :
    ReadInto t.answer t.templates t.exchange.response.bodies t.exchange.response.links :=
  sound.taken.readInto

/-- A template waited for each link that went out and a body was given back for it, read from the
link in the same place of the frame that answered. -/
structure Aligned (t : Turn) : Prop where
  length_eq : t.used.length = t.sent.length
  returned_length : t.returned.length = t.sent.length
  read : ∀ (index : Nat) (b : Body), t.returned[index]? = some b →
    b.ReadFrom t.templates t.answer index

theorem Sound.answered_eq (sound : t.Sound) (complete : t.Complete) :
    t.exchange.answered = t.exchange.request.links := by
  have inside := sound.read.inside
  have length := sound.read.length_eq
  have enough : t.exchange.request.links ≤ t.exchange.response.links := complete
  exact Nat.min_eq_left (by omega)

/-- With too few links, the first body without one is not read from anywhere. -/
theorem Sound.aligned_iff (sound : t.Sound) : t.Aligned ↔ t.Complete := by
  have inside := sound.read.inside
  have length := sound.read.length_eq
  have links := sound.links_le
  have sent : t.sent.length = t.exchange.request.links := List.length_take_of_le links
  constructor
  · intro aligned
    by_contra fewer
    have next : t.exchange.response.links < t.returned.length := by
      rw [aligned.returned_length, sent]
      exact Nat.not_le.mp fewer
    obtain ⟨_, _, _, _, -, leads, -⟩ := aligned.read _ _ (List.getElem?_eq_getElem next)
    rw [sound.read.ends _ (Nat.le_refl _)] at leads
    cases leads
  · intro complete
    have enough : t.exchange.request.links ≤ t.exchange.response.links := complete
    have answered := sound.answered_eq complete
    refine ⟨?_, ?_, ?_⟩
    · rw [sent, used, answered]
      exact List.length_take_of_le (by omega)
    · rw [sent, returned, Exchange.returned, answered]
      exact List.length_take_of_le (by omega)
    · intro index b given
      rw [returned, Exchange.returned, answered, List.getElem?_take] at given
      split at given
      next within =>
        obtain ⟨b', there, read⟩ := sound.read.read index (Nat.lt_of_lt_of_le within enough)
        obtain rfl := Option.some.inj (given.symm.trans there)
        exact read
      next => cases given

/-- Behind the links that came back, templates are given back as they were. -/
theorem Sound.untouched (sound : t.Sound) :
    t.returned.drop t.exchange.response.links = t.used.drop t.exchange.response.links := by
  simp only [returned, Exchange.returned, used, List.drop_take, sound.read.untouched]

/-- Where as many links came back, the others wait for the templates that they always waited for. -/
theorem Sound.waiting (sound : t.Sound) (matched : t.Matched) :
    t.exchange.remaining.response.bodies = t.templates.drop t.exchange.request.links := by
  have answered := sound.answered_eq matched.complete
  have untouched := sound.read.untouched
  rw [matched] at untouched
  rw [← untouched, ← answered]
  rfl

end Turn

/-- The exchanges that sending a chain comes to, up to one that fails. -/
def turns : (frames : Nat) → (request response : Message) → Session → List Turn
  | 0, _, _, _ => []
  | frames + 1, request, response, s =>
    match exchange request response s, Netbios.readFrame s.connection.input with
    | .ok x s', (.ok answer, _) =>
      ⟨response.bodies, x, answer⟩ ::
        if x.request.bodies.length ≤ x.request.links then []
        else turns frames x.remaining.request x.remaining.response s'
    | _, _ => []

/-- An exchange that goes well is a turn of its own. -/
theorem sound_exchange {s s' : Session} {request response : Message} {x : Exchange}
    (done : exchange request response s = .ok x s') :
    x.request.bodies = request.bodies ∧
      ∃ frame, Netbios.readFrame s.connection.input = (.ok frame, s'.connection.input) ∧
        Turn.Sound ⟨response.bodies, x, frame⟩ := by
  obtain ⟨kept, links, -, frame, arrives, taken⟩ := answered_of_exchange done
  refine ⟨kept, frame, arrives, ?_, taken⟩
  rw [kept]
  exact links

/-- The turns of a chain that was sent: together they send all of it and give back all the answers,
and a frame answers each. -/
structure Covers (turns : List Turn) (request templates answers : List Body)
    (input rest : Bytes) : Prop where
  sent : turns.flatMap Turn.sent = request
  returned : turns.flatMap Turn.returned = answers
  brings : Netbios.Brings input (turns.map Turn.answer) rest
  sound : ∀ t ∈ turns, t.Sound
  used : (∀ t ∈ turns, t.Matched) → turns.flatMap Turn.used = templates.take request.length

theorem covers_turns {frames : Nat} {request response answer : Message} {answers : List Body}
    {s s' : Session} (done : sendLinks frames request response answers s = .ok answer s') :
    ∃ given, answer.bodies = answers ++ given ∧
      Covers (turns frames request response s) request.bodies response.bodies given
        s.connection.input s'.connection.input := by
  induction frames generalizing request response answers s with
  | zero => cases done
  | succ frames ih =>
    rw [sendLinks_succ] at done
    cases exchanged : exchange request response s with
    | error e s₁ =>
      rw [exchanged] at done
      cases done
    | ok x s₁ =>
      rw [exchanged] at done
      obtain ⟨kept, frame, arrives, sound⟩ := sound_exchange exchanged
      have links := sound.links_le
      rw [turns, exchanged, arrives]
      dsimp only at done links ⊢
      by_cases all : x.request.bodies.length ≤ x.request.links
      · rw [if_pos all] at done ⊢
        cases done
        refine ⟨x.returned, rfl, ?_, by simp [Turn.returned], ⟨_, arrives, rfl⟩, ?_, ?_⟩
        · simp only [List.flatMap_singleton, Turn.sent]
          rw [List.take_of_length_le all, kept]
        · intro t member
          obtain rfl := List.mem_singleton.mp member
          exact sound
        · intro matched
          have answered := sound.answered_eq (matched _ List.mem_cons_self).complete
          simp only [List.flatMap_singleton, Turn.used]
          rw [answered, ← kept, Nat.le_antisymm links all]
      · rw [if_neg all] at done ⊢
        split at done
        · cases done
        -- The other links wait for the templates behind those that were given back.
        obtain ⟨given, collected, others⟩ := ih done
        refine ⟨x.returned ++ given, by rw [collected, List.append_assoc], ?_, ?_, ?_, ?_, ?_⟩
        · rw [List.flatMap_cons, others.sent, ← kept]
          exact List.take_append_drop _ _
        · rw [List.flatMap_cons, others.returned]
          rfl
        · exact ⟨_, arrives, others.brings⟩
        · intro t member
          rcases List.mem_cons.mp member with rfl | later
          · exact sound
          · exact others.sound t later
        · intro matched
          have now := matched _ List.mem_cons_self
          have left : x.remaining.request.bodies.length =
              request.bodies.length - x.request.links := by
            rw [← kept]
            exact List.length_drop
          have after := others.used fun t later => matched t (List.mem_cons_of_mem _ later)
          rw [List.flatMap_cons, after, sound.waiting now, left, Turn.used,
            sound.answered_eq now.complete, ← List.take_add, Nat.add_sub_of_le (kept ▸ links)]

/-- An exchange reads the links of one frame into the first templates, each into the one in its
place, and leaves the others alone. A chain that was sent has its answers in the order of its links.
Those of a frame are all read from the links in the same places of the frame that answers it exactly
when that has no fewer links; behind those, templates are given back as they were. Where all frames
have as many links as they should, each template takes the answer to the link in its place. -/
theorem send_aligned (s : Session) (request response : Message) :
    (∀ x s', exchange request response s = .ok x s' →
      ∃ frame, Netbios.readFrame s.connection.input = (.ok frame, s'.connection.input) ∧
        x.response.TakenFrom response.bodies frame ∧
        ReadInto frame response.bodies x.response.bodies x.response.links) ∧
    ∀ answer s', send request response s = .ok answer s' →
      let turns := turns request.bodies.length request response s
      Covers turns request.bodies response.bodies answer.bodies s.connection.input
          s'.connection.input ∧
        ∀ t ∈ turns, (t.Complete ↔ t.Aligned) ∧
          t.returned.drop t.exchange.response.links = t.used.drop t.exchange.response.links := by
  refine ⟨fun x s' done => ?_, fun answer s' done => ?_⟩
  · obtain ⟨-, frame, arrives, sound⟩ := sound_exchange done
    exact ⟨frame, arrives, sound.taken, sound.read⟩
  · obtain ⟨given, collected, covers⟩ := covers_turns done
    rw [List.nil_append] at collected
    rw [collected]
    refine ⟨covers, fun t member => ?_⟩
    have sound := covers.sound t member
    exact ⟨sound.aligned_iff.symm, sound.untouched⟩

/-- A session whose first request is answered with one frame. -/
def answering (links : Bytes) : Session :=
  start (.ofInput "" (arriving .sessionSetupAndX 1 0 (Octets.zero 8) links) none)
    (Config.standard 0 "")

/-- A logon that connects to a share. -/
def logonChain : Message := logonRequest .blank (some "A:")

def logonChainTemplates : Message := logonTemplates (some "A:")

/-- A server answers both links. -/
def bothAnswered : Session :=
  answering [3, 0x75, 0, 44, 0, 0, 0, 3, 0, 0, 0, 0, 3, 0xFF, 0, 0xDE, 0xDE, 0, 0, 2, 0, 0, 0]

/-- A server answers the logon only. -/
def logonAnswered : Session := answering [3, 0xFF, 0, 0xDE, 0xDE, 0, 0, 3, 0, 0, 0, 0]

theorem send_aligned_bothAnswered :
    ∃ answer s', send logonChain logonChainTemplates bothAnswered = .ok answer s' ∧
      (turns 2 logonChain logonChainTemplates bothAnswered).flatMap Turn.returned =
        answer.bodies ∧
      ∀ t ∈ turns 2 logonChain logonChainTemplates bothAnswered, t.Aligned ∧
        (List.range 3).map (fun index =>
          ((Message.expecting t.templates).linkAt? t.answer index).map Reader.position) =
            [some 32, some 44, none] := by
  have ends : ((send logonChain logonChainTemplates).run' bothAnswered).any fun _ => true := by
    decide +kernel
  have complete : ∀ t ∈ turns 2 logonChain logonChainTemplates bothAnswered, t.Complete := by
    decide +kernel
  obtain ⟨answer, s', done, -⟩ := exists_of_any ends
  obtain ⟨covers, each⟩ := (send_aligned _ _ _).2 answer s' done
  refine ⟨answer, s', done, covers.returned, fun t member => ⟨?_, ?_⟩⟩
  · exact (each t member).1.mp (complete t member)
  · revert t
    decide +kernel

/-- The frame took both links and one came back. The template for the other link is given back as an
answer. -/
theorem send_logonAnswered :
    (¬∀ (s : Session) (request response : Message) (x : Exchange) (s' : Session),
      exchange request response s = .ok x s' → x.response.links = x.request.links) ∧
    ∃ answer s', send logonChain logonChainTemplates logonAnswered = .ok answer s' ∧
      answer.bodies.length = 2 ∧ answer.bodies.drop 1 = logonChainTemplates.bodies.drop 1 := by
  constructor
  · intro same
    have fewer : ((exchange logonChain logonChainTemplates).run' logonAnswered).any
        fun x => x.response.links != x.request.links := by decide +kernel
    obtain ⟨x, s', done, differ⟩ := exists_of_any fewer
    exact bne_iff_ne.mp differ (same _ _ _ x s' done)
  · have kept : ((send logonChain logonChainTemplates).run' logonAnswered).any
        fun answer => answer.bodies.length = 2 ∧
          answer.bodies.drop 1 = logonChainTemplates.bodies.drop 1 := by decide +kernel
    obtain ⟨answer, s', done, holds⟩ := exists_of_any kept
    exact ⟨answer, s', done, of_decide_eq_true holds⟩

end Session

end Smb1
