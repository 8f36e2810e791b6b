import Smb1.Proofs.Message.Alone
import Smb1.Proofs.Transaction.Fragments

/-! An answer on the wire. Each frame comes in a message of its own, in whatever order; the message
that waits for the answer takes all of them in and is complete with the last. -/
namespace Smb1.Transaction

open Wire

namespace ResponseFrame

theorem blockSize_transactionResponseFrame (f : ResponseFrame) :
    (Body.transactionResponseFrame f).blockSize = 0 := by
  have plain : f.command.isAndX = false := (Body.isAndX_transaction f.kind).1
  simp [Body.blockSize, Body.isAndX, Body.command, plain]

end ResponseFrame

namespace Reassembly

variable {payload : Section → Bytes} {arrivals : List Arrival} {r : Reassembly}
  {later : List ResponseFrame}

namespace Gathers

theorem total_of_shares (gathered : Gathers arrivals r)
    (shares : Shares payload (arrivals.map (·.1) ++ later)) (some : arrivals ≠ [])
    (part : Section) : (r.stream part).total = (payload part).length := by
  obtain ⟨first, rest, rfl⟩ := List.exists_cons_of_ne_nil some
  rw [gathered.total first rfl]
  exact shares.total first.1 (by simp) part

theorem covered_of_shares (gathered : Gathers arrivals r)
    (shares : Shares payload (arrivals.map (·.1) ++ later)) (part : Section) :
    (r.stream part).covered + (later.flatMap (·.payload part)).length = (payload part).length := by
  rw [← shares.length part, gathered.covered_eq_length, List.flatMap_append, List.length_append,
    List.flatMap_map]

/-- A response is complete when none of the frames that share its payloads is to come. -/
theorem isComplete_of_shares (gathered : Gathers arrivals r)
    (shares : Shares payload (arrivals.map (·.1) ++ later)) : r.isComplete = true ↔ later = [] := by
  have missing (part : Section) := gathered.covered_of_shares shares part
  by_cases none : arrivals = []
  · have frames : r.frames = 0 := by rw [gathered.frames, none, List.length_nil]
    have some : later ≠ [] := fun last => shares.nonempty (by rw [none, last]; rfl)
    exact iff_of_false (by simp [isComplete, frames]) some
  have frames : 0 < r.frames := by
    rw [gathered.frames]
    exact List.length_pos_iff.mpr none
  have total (part : Section) := gathered.total_of_shares shares none part
  have whole (part : Section) : (r.stream part).isComplete = true ↔
      later.flatMap (·.payload part) = [] := by
    rw [Stream.isComplete, beq_iff_eq, total part, ← missing part, ← List.length_eq_zero_iff]
    omega
  simp only [isComplete_iff_streams frames, whole, List.flatMap_eq_nil_iff]
  constructor
  · intro empty
    by_contra more
    obtain ⟨f, rest, rfl⟩ := List.exists_cons_of_ne_nil more
    rcases shares.carries with single | all
    · have first := List.length_pos_iff.mpr none
      simp at single
      omega
    · obtain ⟨part, bytes⟩ := all f (by simp)
      exact bytes (empty part f (by simp))
  · rintro rfl part n member
    cases member

/-- The payloads that were shared come back. -/
theorem bytes_of_shares (gathered : Gathers arrivals r)
    (shares : Shares payload (arrivals.map (·.1))) (part : Section) :
    (r.stream part).bytes = payload part := by
  have some : arrivals ≠ [] := fun none => shares.nonempty (by rw [none]; rfl)
  have shares' : Shares payload (arrivals.map (·.1) ++ []) := by rwa [List.append_nil]
  have length : (r.stream part).bytes.length = (payload part).length := by
    rw [Stream.length_bytes (gathered.sound part), gathered.total_of_shares shares' some]
  have complete : r.isComplete = true := (gathered.isComplete_of_shares shares').mpr rfl
  obtain ⟨first, rest, rfl⟩ := List.exists_cons_of_ne_nil some
  have all := (gathered.isComplete_iff rfl).mp complete part
  refine List.ext_getElem? fun position => ?_
  by_cases inside : position < (payload part).length
  · rw [← shares.total first.1 (by simp) part] at inside
    obtain ⟨a, member, here⟩ := all position inside
    obtain ⟨behind, before⟩ := mem_span.mp here
    obtain ⟨i, rfl⟩ := Nat.exists_eq_add_of_le behind
    have lt : i < (a.1.payload part).length := by omega
    rw [gathered.delivered member part i lt]
    exact shares.slice a.1 (List.mem_map.mpr ⟨a, member, rfl⟩) part i lt
  · rw [List.getElem?_eq_none (by omega), List.getElem?_eq_none (by omega)]

/-- Both payloads have room for what the next frame brings. -/
theorem accept_stream_of_shares {f : ResponseFrame} (gathered : Gathers arrivals r)
    (shares : Shares payload (arrivals.map (·.1) ++ f :: later)) (part : Section) :
    ∃ s, ((r.count f).stream part).accept part (f.displacement part) (f.payload part) = .ok s := by
  obtain ⟨sound, fragments, total⟩ := stream_count gathered f part
  have whole : ((r.count f).stream part).total = (payload part).length := by
    rw [total]
    split
    · exact shares.total f (by simp) part
    next some => exact gathered.total_of_shares shares some part
  have small : ((r.count f).stream part).total < Wire.Position.limit := by
    rw [whole, ← shares.total f (by simp) part]
    exact f.total_lt_limit part
  refine Stream.accept_of_apart sound small part (whole ▸ shares.inside f (by simp) part)
    fun g member => ?_
  rw [fragments, gathered.fragments, List.mem_reverse, List.mem_filter, List.mem_map] at member
  obtain ⟨⟨a, arrived, rfl⟩, -⟩ := member
  have apart := (List.pairwise_append.mp (shares.apart part)).2.2 a.1
    (List.mem_map.mpr ⟨a, arrived, rfl⟩) f List.mem_cons_self
  exact apart.symm

end Gathers

/-- The next of the frames that share two payloads is accepted, whichever came before. -/
theorem accept_of_shares {expected : Result} {f : ResponseFrame} {unicode : Bool}
    (collected : Collects expected arrivals r)
    (shares : Shares payload (arrivals.map (·.1) ++ f :: later))
    (read : ∃ result, expected.read (payload .parameter) (payload .data) unicode = .ok result) :
    (r.accept f unicode).2 = .ok () := by
  have gathered := collected.toGathers
  have unfinished : r.isComplete = false := by
    rw [← Bool.not_eq_true, gathered.isComplete_of_shares shares]
    simp
  obtain ⟨parameters, inParameters⟩ := gathered.accept_stream_of_shares shares .parameter
  obtain ⟨data, inData⟩ := gathered.accept_stream_of_shares shares .data
  refine accept_of_streams unfinished inParameters inData fun finished => ?_
  have both : Gathers (arrivals ++ [(f, unicode)]) { r.count f with parameters, data } := by
    refine gathers_streams gathered unicode (frames_count r f) fun part => ?_
    cases part
    · exact inParameters
    · exact inData
  have split : (arrivals ++ [(f, unicode)]).map (·.1) ++ later =
      arrivals.map (·.1) ++ f :: later := by simp
  rw [← split] at shares
  obtain rfl : later = [] := (both.isComplete_of_shares shares).mp finished
  rw [List.append_nil] at shares
  have parametersBytes := both.bytes_of_shares shares .parameter
  have dataBytes := both.bytes_of_shares shares .data
  simp only [stream] at parametersBytes dataBytes
  obtain ⟨result, read⟩ := read
  rw [collected.pending unfinished, parametersBytes, dataBytes]
  exact ⟨result, read⟩

end Reassembly

/-- A frame that a server sends, behind the header that it puts in front. -/
abbrev Delivery := Header × ResponseFrame

/-- Writes a frame into a message of its own and reads that into the message that waits. -/
def deliver (config : Config) (m : Message) (d : Delivery) : Except Error Message := do
  let (bytes, _) ← (Message.ofBodies d.1 [.transactionResponseFrame d.2]).encode config 0xFFFF
  match m.decode bytes with
  | (m, .ok ()) => .ok m
  | (_, .error e) => .error e

def deliverAll (config : Config) (m : Message) (deliveries : List Delivery) :
    Except Error Message := deliveries.foldlM (deliver config) m

def arrivals (deliveries : List Delivery) : List Reassembly.Arrival :=
  deliveries.map fun d => (d.2, d.1.isUnicode)

/-- A frame that can be sent to a response of its family. -/
structure Deliverable (kind : Kind) (d : Delivery) : Prop where
  kind : d.2.kind = kind
  shown : d.2.Expressible
  fits : Header.length + 1 + d.2.kind.responseWordsLength d.2.setup.length + 2 + (d.2.bytes.bytesAt
    (Header.length + 1 + d.2.kind.responseWordsLength d.2.setup.length + 2) d.1.isUnicode).length ≤
      0xFFFF

/-- What comes of a delivery that the response accepts. -/
theorem deliver_of_accept (config : Config) {m : Message} {r : Reassembly} {d : Delivery}
    (waiting : m.bodies = [.transactionResponse r]) (h : Deliverable r.kind d)
    (accepted : (r.accept d.2 d.1.isUnicode).2 = .ok ()) :
    ∃ received, deliver config m d = .ok received ∧ received.bodies =
      [.transactionResponse { (r.accept d.2 d.1.isUnicode).1 with
        current := d.2.returned (Header.length + 1) }] := by
  have starts : Chain.wordsStart (.transactionResponseFrame d.2) Header.length =
      Header.length + 1 := by
    rw [Chain.wordsStart, ResponseFrame.blockSize_transactionResponseFrame]
  have stops : Chain.stop (.transactionResponseFrame d.2) Header.length d.1.isUnicode ≤ 0xFFFF := by
    rw [Chain.stop, Chain.bytesStart, starts]
    exact h.fits
  have timely : (Body.transactionResponseFrame d.2).Timely := List.forall_mem_nil _
  have own : (Body.transactionResponseFrame d.2).Expressible d.1.isUnicode := h.shown
  have takes := Body.takes_arrival h.kind.symm h.shown accepted h.fits
  rw [← starts] at takes
  obtain ⟨sent, encoded⟩ := Message.encode_alone config timely stops
  have decoded := Message.decode_alone waiting takes (Body.wordCount_le own) stops
  rw [starts] at decoded
  refine ⟨(m.decode (Message.alone d.1 (.transactionResponseFrame d.2))).1, ?_, by rw [decoded]⟩
  unfold deliver
  rw [encoded]
  simp only [Bind.bind, Except.bind, decoded]

/-- While the frames come of which some share two payloads, none is rejected. -/
theorem deliverAll_of_shares (config : Config) {payload : Section → Bytes} {expected : Result}
    {earlier coming later : List Delivery} {m : Message} {r : Reassembly}
    (waiting : m.bodies = [.transactionResponse r])
    (collected : Reassembly.Collects expected (arrivals earlier) r)
    (shares : Shares payload ((earlier ++ coming ++ later).map (·.2)))
    (each : ∀ d ∈ coming, Deliverable expected.kind d ∧ ∃ result,
      expected.read (payload .parameter) (payload .data) d.1.isUnicode = .ok result) :
    ∃ m' r', deliverAll config m coming = .ok m' ∧ m'.bodies = [.transactionResponse r'] ∧
      Reassembly.Collects expected (arrivals (earlier ++ coming)) r' := by
  induction coming generalizing earlier m r with
  | nil => exact ⟨m, r, rfl, waiting, by rwa [List.append_nil]⟩
  | cons d rest ih =>
    obtain ⟨deliverable, read⟩ := each d List.mem_cons_self
    have here : Shares payload ((arrivals earlier).map (·.1) ++
        d.2 :: (rest ++ later).map (·.2)) := by
      simpa [arrivals, Function.comp_def] using shares
    have accepted := Reassembly.accept_of_shares collected here read
    rw [← collected.kind] at deliverable
    obtain ⟨received, delivered, waits⟩ := deliver_of_accept config waiting deliverable accepted
    have next := Reassembly.collects_accept collected (Prod.ext rfl accepted)
    have next' := Reassembly.collects_current next (d.2.returned (Header.length + 1))
    have same : arrivals earlier ++ [(d.2, d.1.isUnicode)] = arrivals (earlier ++ [d]) := by
      simp [arrivals]
    rw [same] at next'
    obtain ⟨m', r', all, waits', collects⟩ := ih waits next' (by simpa using shares)
      fun e member => each e (List.mem_cons_of_mem _ member)
    refine ⟨m', r', ?_, waits', by simpa using collects⟩
    unfold deliverAll at all ⊢
    rw [List.foldlM_cons, delivered]
    exact all

/-- The frames into which a server cuts an answer come in any order, each in a message of its own.
All are accepted, the response is complete with the last of them and not before, and then it holds
the two payloads and what is read from them. -/
theorem deliverAll_fragments (kind : Kind) (setup : List UInt16) (parameters data : Bytes)
    (maxBufferSize : Nat) (config : Config) (expected : Result) {frames : List ResponseFrame}
    {deliveries : List Delivery} (words : kind.responseWordsLength setup.length / 2 ≤ 255)
    (total : parameters.length ≤ kind.maxTotal ∧ data.length ≤ kind.maxTotal)
    (small : maxBufferSize ≤ 0xFFFF)
    (cut : ResponseFrame.fragments kind setup parameters data maxBufferSize = .ok frames)
    (order : (deliveries.map (·.2)).Perm frames) (family : expected.kind = kind)
    (parses : ∀ d ∈ deliveries, ∃ result,
      expected.read parameters data d.1.isUnicode = .ok result) :
    ∀ earlier later, deliveries = earlier ++ later → ∃ m r,
      deliverAll config (.expecting [.transactionResponse (.start expected)]) earlier = .ok m ∧
      m.bodies = [.transactionResponse r] ∧ (r.isComplete = true ↔ later = []) ∧
      (later = [] → r.parameters.bytes = parameters ∧ r.data.bytes = data ∧
        ∃ last ∈ deliveries.getLast?,
          expected.read parameters data last.1.isUnicode = .ok r.result) := by
  let a : Answer := ⟨kind, setup, parameters, data, maxBufferSize⟩
  have shown : a.Shown := ⟨fun part => by cases part; exacts [total.1, total.2], small, words⟩
  obtain ⟨shares, made⟩ := Answer.shares_of_fragments shown cut
  have shares := shares.perm order
  have deliverable : ∀ d ∈ deliveries, Deliverable expected.kind d := by
    intro d member
    obtain ⟨p, q, inside, same⟩ := made d.2 (order.mem_iff.mp (List.mem_map_of_mem member))
    obtain ⟨header, frame⟩ := d
    simp only at same
    subst same
    exact ⟨family.symm, Answer.expressible_frame shown inside,
      Answer.inside_frame shown p q header.isUnicode⟩
  rintro earlier later rfl
  have waits : (Message.expecting [.transactionResponse (.start expected)]).bodies =
      [.transactionResponse (.start expected)] := rfl
  have fresh : Reassembly.Collects expected (arrivals []) (.start expected) :=
    Reassembly.collects_start expected
  obtain ⟨m, r, delivered, waiting, collected⟩ := deliverAll_of_shares config waits fresh shares
    fun d member => ⟨deliverable d (List.mem_append_left _ member),
      parses d (List.mem_append_left _ member)⟩
  rw [List.nil_append] at collected
  have split : (earlier ++ later).map (·.2) =
      (arrivals earlier).map (·.1) ++ later.map (·.2) := by simp [arrivals, Function.comp_def]
  rw [split] at shares
  have complete := collected.toGathers.isComplete_of_shares shares
  rw [List.map_eq_nil_iff] at complete
  refine ⟨m, r, delivered, waiting, complete, fun none => ?_⟩
  obtain ⟨last, isLast, read⟩ := collected.result (complete.mpr none)
  subst none
  rw [List.map_nil, List.append_nil] at shares
  have parametersBytes := collected.toGathers.bytes_of_shares shares .parameter
  have dataBytes := collected.toGathers.bytes_of_shares shares .data
  rw [parametersBytes, dataBytes] at read
  rw [arrivals, List.getLast?_map, Option.mem_map] at isLast
  obtain ⟨d, isLast, rfl⟩ := isLast
  exact ⟨parametersBytes, dataBytes, d, by rwa [List.append_nil], read⟩

/-- Three bytes from a pipe in two frames, delivered in reverse. -/
def reversed (frames : List ResponseFrame) : List Delivery :=
  frames.reverse.map fun f => (Header.blank.toResponse 0, f)

theorem deliverAll_fragments_reversed :
    ∃ frames m r, ResponseFrame.fragments .transaction [] [] [1, 2, 3] 58 = .ok frames ∧
      frames.length = 2 ∧ deliverAll (Config.standard 0 "")
        (.expecting [.transactionResponse (.start (.pipe []))]) (reversed frames) = .ok m ∧
      m.bodies = [.transactionResponse r] ∧ r.isComplete = true ∧ r.data.bytes = [1, 2, 3] := by
  have two : (ResponseFrame.fragments .transaction [] [] [1, 2, 3] 58).toOption.map (·.length) =
      some 2 := by decide
  cases cut : ResponseFrame.fragments .transaction [] [] [1, 2, 3] 58 with
  | error e =>
    rw [cut] at two
    cases two
  | ok frames =>
    rw [cut] at two
    have order : ((reversed frames).map (·.2)).Perm frames := by
      simp [reversed, Function.comp_def]
    obtain ⟨m, r, delivered, waiting, complete, whole⟩ :=
      deliverAll_fragments .transaction [] [] [1, 2, 3] 58 (Config.standard 0 "") (.pipe [])
        (by decide) (by decide) (by decide) cut order rfl (fun _ _ => ⟨_, rfl⟩)
        (reversed frames) [] (List.append_nil _).symm
    exact ⟨frames, m, r, rfl, Option.some.inj two, delivered, waiting, complete.mpr rfl,
      (whole rfl).2.1⟩

end Smb1.Transaction
