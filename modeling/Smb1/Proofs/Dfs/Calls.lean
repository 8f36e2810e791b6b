import Smb1.Proofs.Dfs.Inquiries
import Smb1.Proofs.Dfs.Steps

/-! What one call does to a resolver. -/
namespace Smb1.Dfs

open Std.Do
open Lookup (ending bind_of_ok bind_of_error cachedRoot?)
open Session (triple_iff)

set_option mvcgen.warning false

variable {σ : Type}

theorem Moment.eq_of_later_eq_error {now : Moment} {seconds : Nat} {e : Error}
    (failed : now.later seconds = .error e) : e = .outOfRange (.lifetime seconds) := by
  unfold Moment.later at failed
  split at failed
  · cases failed
  · exact (Except.error.inj failed).symm

theorem Moment.eq_of_later_eq_ok {now ends : Moment} {seconds : Nat}
    (shown : now.later seconds = .ok ends) : ends = now + seconds * 1000 := by
  unfold Moment.later at shown
  split at shown
  · exact (Except.ok.inj shown).symm
  · cases shown

namespace Lookup

variable (settings : Settings) (now : Moment) (domains : Option (Cached (KeyMap Roots)))
  (client : σ)

/-- The trusted domains and the client are as they were. -/
abbrev Aside (s : Cache × σ) : Prop := s.1.domains = domains ∧ s.2 = client

theorem after_aside (seconds : Nat) :
    ⦃fun s => ⌜Aside domains client s⌝⦄ (after now seconds : Lookup σ Moment)
    ⦃post⟨fun _ s => ⌜Aside domains client s⌝,
      fun e s => ⌜Aside domains client s ∧ now.later seconds = .error e⌝⟩⦄ := by
  rw [triple_iff]
  intro s aside
  unfold after
  cases clock : now.later seconds with
  | ok moment => exact aside
  | error e => exact ⟨aside, rfl⟩

theorem standalone_aside :
    ⦃fun s => ⌜Aside domains client s⌝⦄ standalone settings now
    ⦃post⟨fun _ s => ⌜Aside domains client s⌝,
      fun e s => ⌜Aside domains client s ∧ now.later settings.ttl = .error e⌝⟩⦄ := by
  have reached := after_aside now domains client
  mvcgen [standalone, reached]

theorem resolveStandalone_aside (key : String) :
    ⦃fun s => ⌜Aside domains client s⌝⦄ resolveStandalone settings now key
    ⦃post⟨fun _ s => ⌜Aside domains client s⌝,
      fun e s => ⌜Aside domains client s ∧ now.later settings.ttl = .error e⌝⟩⦄ := by
  have made := standalone_aside settings now domains client
  mvcgen [resolveStandalone, made]

theorem insert_aside (path server share : String) (referral : Referral) :
    ⦃fun s => ⌜Aside domains client s⌝⦄ insert settings now path server share referral
    ⦃post⟨fun _ s => ⌜Aside domains client s⌝,
      fun e s => ⌜Aside domains client s ∧ now.later settings.ttl = .error e⌝⟩⦄ := by
  have made := standalone_aside settings now domains client
  mvcgen [insert, made]

variable {settings now} in
theorem exists_ending_of_aside {α : Type} {lookup : Lookup σ α} {c : Cache}
    (aside : ⦃fun s => ⌜Aside c.domains client s⌝⦄ lookup
      ⦃post⟨fun _ s => ⌜Aside c.domains client s⌝,
        fun e s => ⌜Aside c.domains client s ∧ now.later settings.ttl = .error e⌝⟩⦄) :
    ∃ outcome c', lookup (c, client) = ending outcome (c', client) ∧ c'.domains = c.domains ∧
      ∀ error, outcome = .error error → now.later settings.ttl = .error error := by
  have kept := triple_iff.mp aside (c, client) ⟨rfl, rfl⟩
  cases done : lookup (c, client) with
  | ok a s =>
    rw [done] at kept
    obtain ⟨c', s⟩ := s
    obtain ⟨domains, rfl⟩ := kept
    exact ⟨.ok a, c', rfl, domains, fun _ => nofun⟩
  | error error s =>
    rw [done] at kept
    obtain ⟨c', s⟩ := s
    obtain ⟨⟨domains, rfl⟩, clock⟩ := kept
    exact ⟨.error error, c', rfl, domains, by rintro _ ⟨⟩; exact clock⟩

end Lookup

variable {r : Resolver} {e : Event σ}

/-- Whether a resolver looks a root up at all. -/
def Resolver.resolves (r : Resolver) (root : String) : Bool :=
  !r.settings.disabled && !Text.eqIgnoringAsciiCase root Lookup.ipcShare && !r.poisoned

/-- The trusted domains have a referral of a root for a resolver that looks it up. -/
def FindsRoot (r : Resolver) (e : Event σ) (domain root : String) (referral : Referral) : Prop :=
  r.resolves root = true ∧ ∃ after, Lookup.resolveTrusted r.settings e.net.recorded e.now domain
    root (r.cache, e.client, []) = .ok (some referral) after

/-- What a call of a sound resolver does that resolves a root: the trusted domains come first, and a
path is looked up in the stand-alone tier when they know nothing. -/
structure Resolved (r : Resolver) (e : Event σ) (domain root : String) (path : Option String)
    (p : Performed) (outcome : Except Error (Option Referral)) (c : Cache) : Prop where
  trusts : Trusts r.settings e.now (e.net.userDomain e.client) domain root r.cache p.asked outcome c
  finds : ∀ referral, FindsRoot r e domain root referral ↔ outcome = .ok (some referral)
  settings : p.resolver.settings = r.settings
  domains : p.resolver.cache.domains = c.domains
  failed : ∀ error, outcome = .error error → p.outcome = .error error ∧
    p.resolver.cache = c ∧ p.resolver.poisoned = error.isOutOfRange
  found : ∀ referral, outcome = .ok (some referral) →
    p.outcome = .ok (.referral (some referral)) ∧ p.resolver.poisoned = false
  missed : outcome = .ok none → p.outcome = .ok (.referral none) ∧ p.resolver.poisoned = false ∨
    path ≠ none ∧ ((∃ found, p.outcome = .ok (.referral found) ∧ p.resolver.poisoned = false) ∨
      ∃ error, e.now.later r.settings.ttl = .error error ∧ p.outcome = .error error ∧
        p.resolver.poisoned = true)

theorem exists_resolved {domain root : String} {path : Option String}
    (resolves : r.resolves root = true) (asks : e.operation = .resolve domain root path) :
    ∃ outcome c, Resolved r e domain root path (r.perform e) outcome c := by
  obtain ⟨asked, outcome, c, client, trusts, looked⟩ := Lookup.resolveTrusted_recorded r.settings
    e.now e.net domain root r.cache e.client []
  rw [List.nil_append] at looked
  have finds : ∀ referral, FindsRoot r e domain root referral ↔ outcome = .ok (some referral) := by
    intro referral
    simp only [FindsRoot, resolves, looked, true_and]
    cases outcome <;> simp [ending]
  simp only [Resolver.resolves, Bool.and_eq_true, Bool.not_eq_true'] at resolves
  obtain ⟨⟨enabled, unshared⟩, sound⟩ := resolves
  have performed : r.perform e = .ofCall .referral (r.locked (e.client, [])
      (Lookup.resolve r.settings e.net.recorded e.now domain root path)) := by
    simp only [Resolver.perform, asks, Resolver.resolve, enabled, unshared, Bool.or_self,
      Bool.false_eq_true, if_false]
  rw [performed]
  unfold Resolver.locked
  simp only [sound, Bool.false_eq_true, if_false]
  refine ⟨outcome, c, ?_⟩
  match outcome, path with
  | .error error, path =>
    have ends : Lookup.resolve r.settings e.net.recorded e.now domain root path
        (r.cache, e.client, []) = .error error (c, client, asked) := bind_of_error looked
    rw [ends]
    exact ⟨trusts, finds, rfl, rfl, by rintro _ ⟨⟩; exact ⟨rfl, rfl, rfl⟩, fun _ => nofun, nofun⟩
  | .ok (some referral), path =>
    have ends : Lookup.resolve r.settings e.net.recorded e.now domain root path
        (r.cache, e.client, []) = .ok (some referral) (c, client, asked) := bind_of_ok looked
    rw [ends]
    exact ⟨trusts, finds, rfl, rfl, fun _ => nofun, by rintro _ ⟨⟩; exact ⟨rfl, rfl⟩, nofun⟩
  | .ok none, none =>
    have ends : Lookup.resolve r.settings e.net.recorded e.now domain root none
        (r.cache, e.client, []) = .ok none (c, client, asked) := bind_of_ok looked
    rw [ends]
    exact ⟨trusts, finds, rfl, rfl, fun _ => nofun, fun _ => nofun, fun _ => .inl ⟨rfl, rfl⟩⟩
  | .ok none, some below =>
    have ends : Lookup.resolve r.settings e.net.recorded e.now domain root (some below)
        (r.cache, e.client, []) = Lookup.resolveStandalone r.settings e.now
          (Lookup.standaloneKey domain root below) (c, client, asked) := bind_of_ok looked
    obtain ⟨outcome, c', done, domains, late⟩ := Lookup.exists_ending_of_aside (client, asked)
      (Lookup.resolveStandalone_aside r.settings e.now c.domains (client, asked)
        (Lookup.standaloneKey domain root below))
    rw [ends, done]
    cases outcome with
    | ok found =>
      exact ⟨trusts, finds, rfl, domains, fun _ => nofun, fun _ => nofun,
        fun _ => .inr ⟨nofun, .inl ⟨found, rfl, rfl⟩⟩⟩
    | error error =>
      have clock := late error rfl
      refine ⟨trusts, finds, rfl, domains, fun _ => nofun, fun _ => nofun,
        fun _ => .inr ⟨nofun, .inr ⟨error, clock, rfl, ?_⟩⟩⟩
      rw [Moment.eq_of_later_eq_error clock]
      rfl

/-- A resolver that looks no root up asks nothing, and stays as it is. -/
theorem perform_of_not_resolves {domain root : String} {path : Option String}
    (idle : r.resolves root = false) (asks : e.operation = .resolve domain root path) :
    (r.perform e).asked = [] ∧ (r.perform e).resolver = r ∧
      ((r.perform e).outcome = .ok (.referral none) ∨
        r.poisoned = true ∧ (r.perform e).outcome = .error (.precondition .cachePoisoned)) := by
  simp only [Resolver.perform, asks, Resolver.resolve]
  by_cases closed : r.settings.disabled || Text.eqIgnoringAsciiCase root Lookup.ipcShare
  · simp only [closed, if_true]
    exact ⟨rfl, rfl, .inl rfl⟩
  · have poisoned : r.poisoned = true := by
      rw [Resolver.resolves, ← Bool.not_or, Bool.not_eq_true _ |>.mp closed] at idle
      simpa using idle
    simp only [closed, Resolver.locked, poisoned, if_true]
    exact ⟨rfl, rfl, .inr ⟨trivial, rfl⟩⟩

/-- What a call of a sound resolver does that asks whether a domain is trusted. -/
structure Judged (r : Resolver) (e : Event σ) (p : Performed) (outcome : Except Error Bool)
    (domains : Option (Cached (KeyMap Roots))) : Prop where
  lists : Lists r.settings e.now (e.net.userDomain e.client) r.cache.domains p.asked outcome domains
  settings : p.resolver.settings = r.settings
  cache : p.resolver.cache = { r.cache with domains }
  failed : ∀ error, outcome = .error error →
    p.outcome = .error error ∧ p.resolver.poisoned = error.isOutOfRange
  known : ∀ listed, outcome = .ok listed →
    ∃ trusted, p.outcome = .ok (.trusted trusted) ∧ p.resolver.poisoned = false

theorem exists_judged {domain : String} (enabled : r.settings.disabled = false)
    (sound : r.poisoned = false) (asks : e.operation = .isTrustedDomain domain) :
    ∃ outcome domains, Judged r e (r.perform e) outcome domains := by
  obtain ⟨asked, outcome, domains, client, lists, looked⟩ := Lookup.loadDomains_recorded
    r.settings e.now e.net r.cache e.client []
  rw [List.nil_append] at looked
  have performed : r.perform e = .ofCall .trusted (r.locked (e.client, [])
      (Lookup.isTrustedDomain r.settings e.net.recorded e.now domain)) := by
    simp only [Resolver.perform, asks, Resolver.isTrustedDomain, enabled, Bool.false_eq_true,
      if_false]
  rw [performed]
  unfold Resolver.locked
  simp only [sound, Bool.false_eq_true, if_false]
  refine ⟨outcome, domains, ?_⟩
  match outcome with
  | .error error =>
    have ends : Lookup.isTrustedDomain r.settings e.net.recorded e.now domain
        (r.cache, e.client, []) = .error error ({ r.cache with domains }, client, asked) :=
      bind_of_error looked
    rw [ends]
    exact ⟨lists, rfl, rfl, by rintro _ ⟨⟩; exact ⟨rfl, rfl⟩, fun _ => nofun⟩
  | .ok false =>
    have ends : Lookup.isTrustedDomain r.settings e.net.recorded e.now domain
        (r.cache, e.client, []) = .ok false ({ r.cache with domains }, client, asked) :=
      bind_of_ok looked
    rw [ends]
    exact ⟨lists, rfl, rfl, fun _ => nofun, fun _ _ => ⟨_, rfl, rfl⟩⟩
  | .ok true =>
    have ends : Lookup.isTrustedDomain r.settings e.net.recorded e.now domain
        (r.cache, e.client, []) = .ok (domains.any (·.value.contains (Text.toLower domain)))
          ({ r.cache with domains }, client, asked) := bind_of_ok looked
    rw [ends]
    exact ⟨lists, rfl, rfl, fun _ => nofun, fun _ _ => ⟨_, rfl, rfl⟩⟩

/-- A resolver that is disabled or spoilt asks nothing, and stays as it is. -/
theorem perform_isTrustedDomain_of_idle {domain : String}
    (idle : r.settings.disabled = true ∨ r.poisoned = true)
    (asks : e.operation = .isTrustedDomain domain) :
    (r.perform e).asked = [] ∧ (r.perform e).resolver = r ∧
      ((r.perform e).outcome = .ok (.trusted false) ∨
        r.poisoned = true ∧ (r.perform e).outcome = .error (.precondition .cachePoisoned)) := by
  simp only [Resolver.perform, asks, Resolver.isTrustedDomain]
  by_cases disabled : r.settings.disabled
  · simp only [disabled, if_true]
    exact ⟨rfl, rfl, .inl rfl⟩
  · have poisoned : r.poisoned = true := idle.resolve_left disabled
    simp only [disabled, Resolver.locked, poisoned, if_true]
    exact ⟨rfl, rfl, .inr ⟨trivial, rfl⟩⟩

/-- The controller of a domain takes one question, and no cache. -/
theorem perform_controller {domain : String} (asks : e.operation = .controller domain) :
    (r.perform e).resolver = r ∧
      ((r.perform e).asked = [] ∧ (r.perform e).outcome = .ok (.controller none) ∨
        ∃ q, (r.perform e).asked = [q] ∧
          (r.perform e).outcome = (q.verdict r.settings e.now).map fun found =>
            .controller (found.map Referral.server)) := by
  simp only [Resolver.perform, asks, Resolver.controller]
  by_cases disabled : r.settings.disabled
  · simp only [disabled, if_true]
    exact ⟨rfl, .inl ⟨rfl, rfl⟩⟩
  · obtain ⟨q, client, path, found⟩ := Lookup.findController_recorded r.settings e.now e.net domain
      r.cache e.client []
    simp only [disabled, found]
    cases answered : q.verdict r.settings e.now with
    | error error => exact ⟨rfl, .inr ⟨q, rfl, by rw [answered]; rfl⟩⟩
    | ok found => exact ⟨rfl, .inr ⟨q, rfl, by rw [answered]; rfl⟩⟩

/-- What is inserted asks nothing and leaves the trusted domains alone. -/
theorem perform_insert {path : String} {referral : Referral}
    (asks : e.operation = .insert path referral) :
    (r.perform e).asked = [] ∧ (r.perform e).resolver.settings = r.settings ∧
      (r.perform e).resolver.cache.domains = r.cache.domains ∧
      ((r.perform e).resolver.poisoned = r.poisoned ∨
        ∃ error, e.now.later r.settings.ttl = .error error) := by
  simp only [Resolver.perform, asks, Resolver.insert]
  by_cases disabled : r.settings.disabled
  · simp only [disabled, if_true]
    exact ⟨rfl, rfl, rfl, .inl rfl⟩
  simp only [disabled]
  cases Lookup.serverAndShare? path with
  | none => exact ⟨rfl, rfl, rfl, .inl rfl⟩
  | some names =>
    obtain ⟨server, share⟩ := names
    by_cases poisoned : r.poisoned
    · simp only [Resolver.locked, poisoned, if_true]
      exact ⟨rfl, rfl, rfl, .inl poisoned⟩
    · obtain ⟨outcome, c, done, domains, late⟩ := Lookup.exists_ending_of_aside ()
        (Lookup.insert_aside r.settings e.now r.cache.domains () path server share referral)
      simp only [Resolver.locked, poisoned, done]
      cases outcome with
      | ok _ => exact ⟨rfl, rfl, domains, .inl rfl⟩
      | error error => exact ⟨rfl, rfl, domains, .inr ⟨error, late error rfl⟩⟩

theorem perform_invalidateDomains (asks : e.operation = .invalidateDomains) :
    (r.perform e).resolver =
      if r.poisoned then r else { r with cache := { r.cache with domains := none } } := by
  simp only [Resolver.perform, asks, Resolver.invalidateDomains, Resolver.locked]
  by_cases poisoned : r.poisoned
  · simp only [poisoned, if_true]
    rfl
  · simp only [poisoned]
    rfl

/-- What a call does to a resolver: nothing, or what its operation does to a sound one. -/
inductive Effect (r : Resolver) (e : Event σ) (p : Performed) : Prop
  | unchanged : p.resolver = r → Effect r e p
  | resolved {domain root : String} {path : Option String}
      {outcome : Except Error (Option Referral)} {c : Cache} :
      e.operation = .resolve domain root path →
      Resolved r e domain root path p outcome c → Effect r e p
  | judged {domain : String} {outcome : Except Error Bool}
      {domains : Option (Cached (KeyMap Roots))} :
      e.operation = .isTrustedDomain domain → Judged r e p outcome domains → Effect r e p
  | inserted {path : String} {referral : Referral} : e.operation = .insert path referral →
      p.resolver.settings = r.settings → p.resolver.cache.domains = r.cache.domains →
      (p.resolver.poisoned = r.poisoned ∨ ∃ error, e.now.later r.settings.ttl = .error error) →
      Effect r e p
  | invalidated : e.operation = .invalidateDomains →
      p.resolver = { r with cache := { r.cache with domains := none } } → Effect r e p

theorem perform_effect (r : Resolver) (e : Event σ) : Effect r e (r.perform e) := by
  cases operation : e.operation with
  | resolve domain root path =>
    cases resolving : r.resolves root with
    | false => exact .unchanged (perform_of_not_resolves resolving operation).2.1
    | true =>
      obtain ⟨outcome, c, resolved⟩ := exists_resolved resolving operation
      exact .resolved operation resolved
  | isTrustedDomain domain =>
    by_cases idle : r.settings.disabled = true ∨ r.poisoned = true
    · exact .unchanged (perform_isTrustedDomain_of_idle idle operation).2.1
    · rw [not_or, Bool.not_eq_true, Bool.not_eq_true] at idle
      obtain ⟨outcome, domains, judged⟩ := exists_judged idle.1 idle.2 operation
      exact .judged operation judged
  | controller domain => exact .unchanged (perform_controller operation).1
  | insert path referral =>
    obtain ⟨-, settings, domains, poisoned⟩ := perform_insert operation
    exact .inserted operation settings domains poisoned
  | invalidateDomains =>
    have left := perform_invalidateDomains (r := r) operation
    split at left
    · exact .unchanged left
    · exact .invalidated operation left

end Smb1.Dfs
