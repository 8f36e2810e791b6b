import Smb1.Proofs.Dfs.Surfacing

/-! What no call changes, and what only a clock at its end does. -/
namespace Smb1.Dfs

variable {σ α : Type} {settings : Settings} {now : Moment} {asked : List Inquiry} {r : Resolver}
  {e : Event σ} {events : List (Event σ)}

theorem perform_settings : (r.perform e).resolver.settings = r.settings := by
  cases perform_effect r e with
  | unchanged same => rw [same]
  | resolved _ resolved => exact resolved.settings
  | judged _ judged => exact judged.settings
  | inserted _ same => exact same
  | invalidated _ left => rw [left]

theorem performAll_settings : (r.performAll events).2.settings = r.settings := by
  induction events generalizing r with
  | nil => rfl
  | cons e events ih => exact ih.trans perform_settings

theorem mem_of_mem_performAll {v : Event σ × Performed} (among : v ∈ (r.performAll events).1) :
    v.1 ∈ events := by
  induction events generalizing r with
  | nil => cases among
  | cons e events ih =>
    obtain rfl | later := List.mem_cons.mp among
    · exact .head _
    · exact .tail _ (ih later)

/-- The clock can show the end of whatever is cached at a time. -/
structure Shown (settings : Settings) (now : Moment) : Prop where
  entry : ∀ error, now.later settings.ttl ≠ .error error
  list : ∀ error, now.later (settings.ttl * Lookup.domainTtlFactor) ≠ .error error

instance : Decidable (Shown settings now) :=
  decidable_of_iff ((now.later settings.ttl).toBool &&
      (now.later (settings.ttl * Lookup.domainTtlFactor)).toBool) (by
    have reaches : ∀ found : Except Error Moment, found.toBool = true ↔ ∀ e, found ≠ .error e :=
      fun found => by cases found <;> simp [Except.toBool]
    rw [Bool.and_eq_true, reaches, reaches]
    exact ⟨fun ⟨entry, list⟩ => ⟨entry, list⟩, fun ⟨entry, list⟩ => ⟨entry, list⟩⟩)

theorem Surfaces.isOutOfRange_eq_false {error : Error} (shown : Shown settings now)
    (surfaces : Surfaces settings now asked (.error error : Except Error α)) :
    error.isOutOfRange = false := by
  cases surfaces with
  | rejected _ ends => exact isOutOfRange_of_isAuth (Inquiry.verdict_eq_error.mp ends).2.2
  | late _ among clock =>
    obtain rfl | rfl := among
    · exact absurd clock (shown.entry error)
    · exact absurd clock (shown.list error)

theorem Resolved.poisoned {domain root : String} {path : Option String} {p : Performed}
    {outcome : Except Error (Option Referral)} {c : Cache}
    (resolved : Resolved r e domain root path p outcome c) (shown : Shown r.settings e.now) :
    p.resolver.poisoned = false := by
  cases outcome with
  | error error =>
    rw [(resolved.failed error rfl).2.2]
    exact resolved.trusts.surfaces.isOutOfRange_eq_false shown
  | ok found =>
    cases found with
    | some referral => exact (resolved.found referral rfl).2
    | none =>
      obtain ⟨-, same⟩ | ⟨-, ⟨-, -, same⟩ | ⟨error, late, -⟩⟩ := resolved.missed rfl
      · exact same
      · exact same
      · exact absurd late (shown.entry error)

theorem Judged.poisoned {p : Performed} {outcome : Except Error Bool}
    {domains : Option (Cached (KeyMap Roots))} (judged : Judged r e p outcome domains)
    (shown : Shown r.settings e.now) : p.resolver.poisoned = false := by
  cases outcome with
  | error error =>
    rw [(judged.failed error rfl).2]
    exact judged.lists.surfaces.isOutOfRange_eq_false shown
  | ok listed =>
    obtain ⟨-, -, same⟩ := judged.known listed rfl
    exact same

/-- Only a clock that cannot show the end of a lifetime spoils the caches. -/
theorem perform_poisoned (sound : r.poisoned = false) (shown : Shown r.settings e.now) :
    (r.perform e).resolver.poisoned = false := by
  cases perform_effect r e with
  | unchanged same => rw [same, sound]
  | resolved _ resolved => exact resolved.poisoned shown
  | judged _ judged => exact judged.poisoned shown
  | inserted _ _ _ spoils =>
    obtain same | ⟨error, late⟩ := spoils
    · rw [same, sound]
    · exact absurd late (shown.entry error)
  | invalidated _ left => rw [left, sound]

theorem performAll_poisoned (sound : r.poisoned = false)
    (shown : ∀ e ∈ events, Shown r.settings e.now) : (r.performAll events).2.poisoned = false := by
  induction events generalizing r with
  | nil => exact sound
  | cons e events ih =>
    obtain ⟨first, rest⟩ := List.forall_mem_cons.mp shown
    exact ih (perform_poisoned sound first) (by rwa [perform_settings])

end Smb1.Dfs
