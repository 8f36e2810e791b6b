import Smb1.Dfs.Resolver
import Smb1.Proofs.Session.Triple

/-! Triples about lookups. The tiers share nothing: whatever becomes of a question to the network,
what is looked up among the trusted domains leaves the stand-alone referrals alone. -/
namespace Smb1.Dfs.Lookup

open Std.Do
open Session (anyway triple_iff)

set_option mvcgen.warning false

variable {σ : Type} (settings : Settings) (net : Network σ) (now : Moment)

@[spec]
theorem cache_spec {Q : PostCond Cache (.except Error (.arg (Cache × σ) .pure))} :
    ⦃fun s => Q.1 s.1 s⦄ cache ⦃Q⦄ := fun _ => id

@[spec]
theorem setCache_spec {c : Cache} {Q : PostCond Unit (.except Error (.arg (Cache × σ) .pure))} :
    ⦃fun s => Q.1 () (c, s.2)⦄ setCache c ⦃Q⦄ := fun _ => id

@[spec]
theorem userDomain_spec {Q : PostCond (Option String) (.except Error (.arg (Cache × σ) .pure))} :
    ⦃fun s => Q.1 (net.userDomain s.2) s⦄ userDomain net ⦃Q⦄ := fun _ => id

variable (tier : Option (Cached (KeyMap Referral)))

/-- The stand-alone tier is as it was. -/
abbrev Standing (s : Cache × σ) : Prop := s.1.standalone = tier

theorem after_standing (seconds : Nat) :
    ⦃fun s => ⌜Standing tier s⌝⦄ (after now seconds : Lookup σ Moment)
    ⦃anyway (Standing tier)⦄ := by
  rw [triple_iff]
  intro s standing
  unfold after
  cases now.later seconds <;> exact standing

theorem fetch_standing (server path : String) :
    ⦃fun s => ⌜Standing tier s⌝⦄ fetch settings net now server path ⦃anyway (Standing tier)⦄ := by
  rw [triple_iff]
  intro s standing
  unfold fetch
  rcases asked : net.ask server path Transaction.ReferralRequest.standardMaxReferralLevel s.2
    with ⟨e | response, client⟩
  · by_cases strict : settings.strictView && e.isAuth
    · simp only [asked, if_pos strict]
      exact standing
    · simp only [asked, if_neg strict]
      exact standing
  · simp only [asked]
    exact standing

theorem loadDomains_standing :
    ⦃fun s => ⌜Standing tier s⌝⦄ loadDomains settings net now ⦃anyway (Standing tier)⦄ := by
  have asked := fetch_standing settings net now tier
  have reached := @after_standing σ now tier
  mvcgen [loadDomains, dropDomains, askDomains, asked, reached]

theorem fetchRoot_standing (domain root : String) :
    ⦃fun s => ⌜Standing tier s⌝⦄ fetchRoot settings net now domain root
    ⦃anyway (Standing tier)⦄ := by
  have asked := fetch_standing settings net now tier
  mvcgen [fetchRoot, findController, asked]

theorem updateRoots_standing (domainKey : String) (f : Roots → Roots) :
    ⦃fun s => ⌜Standing tier s⌝⦄ (updateRoots domainKey f : Lookup σ Unit)
    ⦃anyway (Standing tier)⦄ := by
  mvcgen [updateRoots]

theorem dropOutdated_standing (domainKey rootKey : String) :
    ⦃fun s => ⌜Standing tier s⌝⦄ (dropOutdated now domainKey rootKey : Lookup σ Unit)
    ⦃anyway (Standing tier)⦄ := by
  have updated := @updateRoots_standing σ tier
  mvcgen [dropOutdated, updated]

theorem entryOf_standing (found : Option Referral) :
    ⦃fun s => ⌜Standing tier s⌝⦄ (entryOf settings now found : Lookup σ RootEntry)
    ⦃anyway (Standing tier)⦄ := by
  have reached := @after_standing σ now tier
  mvcgen [entryOf, reached]

theorem enterRoot_standing (domain root : String) :
    ⦃fun s => ⌜Standing tier s⌝⦄ enterRoot settings net now domain root
    ⦃anyway (Standing tier)⦄ := by
  have asked := fetchRoot_standing settings net now tier
  have updated := @updateRoots_standing σ tier
  have made := @entryOf_standing σ settings now tier
  mvcgen [enterRoot, asked, updated, made]

theorem renewRoot_standing (domain root : String) :
    ⦃fun s => ⌜Standing tier s⌝⦄ renewRoot settings net now domain root
    ⦃anyway (Standing tier)⦄ := by
  have asked := fetchRoot_standing settings net now tier
  have updated := @updateRoots_standing σ tier
  mvcgen [renewRoot, asked, updated]

theorem resolveRoot_standing (domain root : String) :
    ⦃fun s => ⌜Standing tier s⌝⦄ resolveRoot settings net now domain root
    ⦃anyway (Standing tier)⦄ := by
  have dropped := @dropOutdated_standing σ now tier
  have entered := enterRoot_standing settings net now tier
  have renewed := renewRoot_standing settings net now tier
  mvcgen [resolveRoot, dropped, entered, renewed]

theorem resolveTrusted_standing (domain root : String) :
    ⦃fun s => ⌜Standing tier s⌝⦄ resolveTrusted settings net now domain root
    ⦃anyway (Standing tier)⦄ := by
  have loaded := loadDomains_standing settings net now tier
  have resolved := resolveRoot_standing settings net now tier
  mvcgen [resolveTrusted, loaded, resolved]

theorem standalone_of_resolveTrusted {domain root : String} {s s' : Cache × σ}
    {found : Option Referral}
    (done : resolveTrusted settings net now domain root s = .ok found s') :
    s'.1.standalone = s.1.standalone := by
  have kept := triple_iff.mp
    (resolveTrusted_standing settings net now s.1.standalone domain root) s rfl
  rw [done] at kept
  exact kept

end Smb1.Dfs.Lookup
