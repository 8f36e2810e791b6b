import Smb1.Dfs.Resolver

/-! Runs of a resolver: one call after another, each with a network of its own in whatever state
that is by then. Of every call it is kept what it was answered, what it left behind, and what it
asked of its network. -/
namespace Smb1.Dfs

open Transaction

variable {σ : Type}

/-- A question to a network, and what came back. -/
structure Inquiry where
  server : String
  path : String
  maxLevel : UInt16
  answer : Except Error ReferralResponse

/-- The same network, which takes down what it is asked. -/
def Network.recorded (net : Network σ) : Network (σ × List Inquiry) where
  userDomain s := net.userDomain s.1
  ask server path maxLevel s :=
    let (answer, client) := net.ask server path maxLevel s.1
    (answer, client, s.2 ++ [⟨server, path, maxLevel, answer⟩])

/-- What can be done with a resolver. -/
inductive Operation
  | resolve (domain root : String) (path : Option String)
  | isTrustedDomain (domain : String)
  | controller (domain : String)
  | insert (path : String) (referral : Referral)
  | invalidateDomains
  deriving DecidableEq, Repr

namespace Operation

/-- Whether an operation may ask the network. -/
def looksUp : Operation → Bool
  | resolve .. | isTrustedDomain _ | controller _ => true
  | insert .. | invalidateDomains => false

/-- Whether an operation resolves a root of these names, which are in lower case. -/
def requests (domainKey rootKey : String) : Operation → Bool
  | resolve domain root _ => Text.toLower domain = domainKey && Text.toLower root = rootKey
  | _ => false

end Operation

inductive Answer
  | referral (found : Option Referral)
  | trusted (known : Bool)
  | controller (server : Option String)
  | done
  deriving DecidableEq, Repr

/-- An operation with the time and the network that its caller brings along. -/
structure Event (σ : Type) where
  now : Moment
  net : Network σ
  client : σ
  operation : Operation

/-- What came of an event. -/
structure Performed where
  outcome : Except Error Answer
  resolver : Resolver
  asked : List Inquiry

/-- A call to a network that takes down what it is asked. -/
def Performed.ofCall {α : Type} (answer : α → Answer) :
    Resolver.Call (σ × List Inquiry) α → Performed
  | (outcome, resolver, _, asked) => ⟨outcome.map answer, resolver, asked⟩

/-- A call that needs no network. -/
def Performed.ofUnasked (call : Except Error Unit × Resolver) : Performed :=
  ⟨call.1.map fun _ => .done, call.2, []⟩

namespace Resolver

def perform (r : Resolver) (e : Event σ) : Performed :=
  let net := e.net.recorded
  let client := (e.client, [])
  match e.operation with
  | .resolve domain root path => .ofCall .referral (r.resolve net e.now domain root path client)
  | .isTrustedDomain domain => .ofCall .trusted (r.isTrustedDomain net e.now domain client)
  | .controller domain => .ofCall .controller (r.controller net e.now domain client)
  | .insert path referral => .ofUnasked (r.insert e.now path referral)
  | .invalidateDomains => .ofUnasked r.invalidateDomains

/-- Performs events in order, and tells what came of each. -/
def performAll : List (Event σ) → Resolver → List (Event σ × Performed) × Resolver
  | [], r => ([], r)
  | e :: events, r =>
    let performed := r.perform e
    let (later, r) := performAll events performed.resolver
    ((e, performed) :: later, r)

end Resolver

end Smb1.Dfs
