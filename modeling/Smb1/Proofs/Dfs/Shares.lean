import Smb1.Proofs.Dfs.Names
import Smb1.Proofs.Dfs.Runs
import Smb1.Proofs.Dfs.Standalone

/-! Where stand-alone referrals come from. Each has been inserted for some path, under a key that is
the front of it; how long the front is, the server says. One that reaches behind the share keeps the
referral to that share. A shorter one does not. -/
namespace Smb1.Dfs

open Lookup (serverAndShare? joined standaloneKey ending bind_of_ok bind_of_error)
open Session (triple_iff)

variable {σ : Type} {P : String → Referral → Prop} {c : Cache} {s : σ}

/-- All stand-alone referrals, with their keys, have a property. -/
def Kept (P : String → Referral → Prop) (c : Cache) : Prop :=
  ∀ key referral, c.referrals.find? key = some referral → P key referral

theorem Kept.of_standalone {c' : Cache} (kept : Kept P c)
    (same : c'.standalone = c.standalone ∨ c'.standalone = none) : Kept P c' := by
  intro key referral found
  obtain same | dropped := same
  · rw [Cache.referrals, same] at found
    exact kept key referral found
  · rw [Cache.referrals, dropped] at found
    cases found

/-- The key under which a referral for a path is kept. -/
def keyOf (path : String) (consumed : Nat) : String :=
  String.ofList (Lookup.trimKey
    (Text.toLower (String.ofList (path.toList.take consumed))).toList)

/-- A referral for a path below a share as it is kept. -/
def Referral.keptFor (referral : Referral) (path server share : String) : Referral :=
  { referral with
    pathConsumed := referral.pathConsumed - (1 + server.length + 1 + share.length)
    key := some (keyOf path referral.pathConsumed) }

theorem answer_eq_some {entries : KeyMap Referral} {now : Moment} {path : String}
    {referral : Referral} (found : answer entries now path = some referral) :
    ∃ key, Leads entries path key referral := by
  have best := nearest_spec entries path
  unfold answer at found
  rcases decided : nearest entries path with _ | ⟨key, nearby⟩ <;> rw [decided] at best found
  · cases found
  · dsimp only at found
    split at found
    · cases found
    · cases found
      exact ⟨key, best.1⟩

namespace Lookup

variable (settings : Settings) (now : Moment)

theorem standalone_of_not_ready (unready : ¬Ready settings now c) :
    ∃ error, standalone settings now (c, s) = .error error (c, s) := by
  rw [Ready, Classical.not_imp, not_exists] at unready
  obtain ⟨absent, late⟩ := unready
  cases clock : now.later settings.ttl with
  | ok moment => exact absurd clock (late moment)
  | error error =>
    refine ⟨error, ?_⟩
    have failed : after now settings.ttl (c, s) = .error error (c, s) := by rw [after, clock]
    simp only [standalone, bind, EStateM.bind, cache, absent]
    exact bind_of_error failed

/-- A tier that has run out is as good as none. -/
theorem resolveStandalone_filter (key : String) :
    resolveStandalone settings now key (c, s) = resolveStandalone settings now key
      ({ c with standalone := c.standalone.filter (!·.isExpired now) }, s) := by
  obtain ⟨domains, tier⟩ := c
  cases tier with
  | none => rfl
  | some tier =>
    cases expired : tier.isExpired now <;>
      simp [resolveStandalone, bind, EStateM.bind, cache, setCache, Option.filter, expired]

/-- What the stand-alone tier answers is kept under a key that covers the path, and nothing comes
into it. -/
theorem resolveStandalone_kept (kept : Kept P c) (path : String) :
    ∃ outcome c', resolveStandalone settings now path (c, s) = ending outcome (c', s) ∧
      Kept P c' ∧ ∀ referral, outcome = .ok (some referral) →
        ∃ key, Covers key path ∧ P key referral := by
  rw [resolveStandalone_filter]
  generalize there : c.standalone.filter (!·.isExpired now) = tier
  have live : tier.any (·.isExpired now) = false := by
    rw [← there]
    cases c.standalone with
    | none => rfl
    | some held => cases expired : held.isExpired now <;> simp [Option.filter, expired]
  have kept : Kept P { c with standalone := tier } := by
    refine kept.of_standalone ?_
    cases tier with
    | none => exact .inr rfl
    | some held => exact .inl (Option.filter_eq_some_iff.mp there).1.symm
  by_cases ready : Ready settings now { c with standalone := tier }
  · obtain ⟨c', done, left⟩ := resolveStandalone_eq (s := ({ c with standalone := tier }, s)) live
      ready
    refine ⟨.ok _, c', done, fun key referral found => ?_, fun referral found => ?_⟩
    · rw [left] at found
      exact kept key referral (find?_of_remaining found)
    · obtain ⟨key, leads⟩ := answer_eq_some (Except.ok.inj found)
      exact ⟨key, leads.covers, kept key referral leads.found⟩
  · obtain ⟨error, failed⟩ := standalone_of_not_ready (s := s) settings now ready
    refine ⟨.error error, _, ?_, kept, fun _ => nofun⟩
    simp only [resolveStandalone, bind, EStateM.bind, cache, live, Bool.false_eq_true, if_false]
    exact bind_of_error failed

theorem insert_kept (kept : Kept P c) (path server share : String) (referral : Referral) :
    ∃ outcome c',
      insert settings now path server share referral (c, s) = ending outcome (c', s) ∧
        Kept (fun key value => P key value ∨ key = keyOf path referral.pathConsumed ∧
          value = referral.keptFor path server share) c' := by
  let key := keyOf path referral.pathConsumed
  let value := referral.keptFor path server share
  obtain ⟨c₁, kept₁, starts⟩ : ∃ c₁, Kept P c₁ ∧
      insert settings now path server share referral (c, s) =
        (standalone settings now >>= fun tier => cache >>= fun c => setCache
          { c with standalone := some { tier with value := tier.value.insert key value } })
          (c₁, s) := by
    by_cases near : c.standalone.any fun tier => tier.expiration < now + expiryMargin * 1000
    · refine ⟨{ c with standalone := none }, kept.of_standalone (.inr rfl), ?_⟩
      simp only [insert, bind, EStateM.bind, cache, setCache, near, if_true]
      rfl
    · refine ⟨c, kept, ?_⟩
      simp only [insert, bind, EStateM.bind, cache, setCache, near]
      rfl
  rw [starts]
  by_cases ready : Ready settings now c₁
  · obtain ⟨tier, made, entries⟩ := standalone_of_ready (s := (c₁, s)) ready
    refine ⟨.ok (), _, bind_of_ok made, ?_⟩
    intro key value found
    rw [Cache.referrals, Option.map_some, Option.getD_some, KeyMap.find?_insert] at found
    split at found
    next same => exact .inr ⟨same.symm, (Option.some.inj found).symm⟩
    next => exact .inl (kept₁ key value (entries ▸ found))
  · obtain ⟨error, failed⟩ := standalone_of_not_ready (s := s) settings now ready
    exact ⟨.error error, c₁, bind_of_error failed, fun key value found =>
      .inl (kept₁ key value found)⟩

/-- A request is answered by the trusted domains, or from what is kept under a key that covers
it. -/
theorem resolve_kept (net : Network σ) (domain root : String) (path : Option String)
    (client : σ) (record : List Inquiry) (kept : Kept P c) :
    ∃ outcome s', resolve settings net.recorded now domain root path (c, client, record) =
        ending outcome s' ∧ Kept P s'.1 ∧
      ∀ found, outcome = .ok (some found) →
        (∃ after, resolveTrusted settings net.recorded now domain root (c, client, record) =
          .ok (some found) after) ∨
        ∃ below key, path = some below ∧ Covers key (standaloneKey domain root below) ∧
          P key found := by
  obtain ⟨asked, outcome, c', client', trusts, looked⟩ :=
    resolveTrusted_recorded settings now net domain root c client record
  have kept' : Kept P c' := kept.of_standalone (.inl trusts.standalone)
  match outcome, path with
  | .error error, path =>
    exact ⟨.error error, _, bind_of_error looked, kept', fun _ => nofun⟩
  | .ok (some referral), path =>
    refine ⟨.ok (some referral), _, bind_of_ok looked, kept', ?_⟩
    rintro _ ⟨⟩
    exact .inl ⟨_, looked⟩
  | .ok none, none => exact ⟨.ok none, _, bind_of_ok looked, kept', fun _ => nofun⟩
  | .ok none, some below =>
    obtain ⟨outcome, c'', stands, kept'', covered⟩ := resolveStandalone_kept
      (s := (client', record ++ asked)) settings now kept' (standaloneKey domain root below)
    refine ⟨outcome, _, (bind_of_ok looked).trans stands, kept'', fun found answered => ?_⟩
    obtain ⟨key, covers, known⟩ := covered found answered
    exact .inr ⟨below, key, rfl, covers, known⟩

end Lookup

variable {r : Resolver} {e : Event σ} {events : List (Event σ)} {domain root : String}
  {path : Option String}

theorem perform_resolve_kept (kept : Kept P r.cache)
    (asks : e.operation = .resolve domain root path) :
    Kept P (r.perform e).resolver.cache ∧
      ∀ found, (r.perform e).outcome = .ok (.referral (some found)) →
        FindsRoot r e domain root found ∨
        ∃ below key, path = some below ∧ Covers key (standaloneKey domain root below) ∧
          P key found := by
  cases resolving : r.resolves root with
  | false =>
    obtain ⟨-, same, nothing | ⟨-, refused⟩⟩ := perform_of_not_resolves resolving asks
    · refine ⟨by rwa [same], fun found answered => ?_⟩
      cases nothing.symm.trans answered
    · refine ⟨by rwa [same], fun found answered => ?_⟩
      cases refused.symm.trans answered
  | true =>
    obtain ⟨outcome, s, done, kept', known⟩ := Lookup.resolve_kept r.settings e.now e.net domain
      root path e.client [] kept
    have performed : r.perform e = .ofCall .referral (r.locked (e.client, [])
        (Lookup.resolve r.settings e.net.recorded e.now domain root path)) := by
      simp only [Resolver.resolves, Bool.and_eq_true, Bool.not_eq_true'] at resolving
      simp only [Resolver.perform, asks, Resolver.resolve, resolving.1.1, resolving.1.2,
        Bool.or_self, Bool.false_eq_true, if_false]
    have sound : r.poisoned = false := by
      simp only [Resolver.resolves, Bool.and_eq_true, Bool.not_eq_true'] at resolving
      exact resolving.2
    rw [performed, Resolver.locked, done]
    simp only [sound, Bool.false_eq_true, if_false]
    cases outcome with
    | error error =>
      refine ⟨kept', ?_⟩
      rintro _ ⟨⟩
    | ok found =>
      refine ⟨kept', ?_⟩
      rintro _ ⟨⟩
      obtain ⟨after, looked⟩ | covered := known _ rfl
      · exact .inl ⟨resolving, after, looked⟩
      · exact .inr covered

/-- A call keeps a referral under a key. -/
def Inserts (e : Event σ) (key : String) (referral : Referral) : Prop :=
  ∃ path raw server share, e.operation = .insert path raw ∧
    serverAndShare? path = some (server, share) ∧ key = keyOf path raw.pathConsumed ∧
    referral = raw.keptFor path server share

theorem perform_insert_kept {inserted : String} {raw : Referral} (kept : Kept P r.cache)
    (asks : e.operation = .insert inserted raw) :
    Kept (fun key referral => P key referral ∨ Inserts e key referral)
      (r.perform e).resolver.cache := by
  have before : Kept (fun key referral => P key referral ∨ Inserts e key referral) r.cache :=
    fun key referral found => .inl (kept key referral found)
  simp only [Resolver.perform, asks, Resolver.insert]
  by_cases disabled : r.settings.disabled
  · simp only [disabled, if_true]
    exact before
  simp only [disabled]
  cases named : serverAndShare? inserted with
  | none => exact before
  | some names =>
    obtain ⟨server, share⟩ := names
    obtain ⟨outcome, c', done, kept'⟩ := Lookup.insert_kept (s := ()) r.settings e.now kept inserted
      server share raw
    have kept' : Kept (fun key referral => P key referral ∨ Inserts e key referral) c' := by
      intro key referral found
      obtain known | ⟨rfl, rfl⟩ := kept' key referral found
      · exact .inl known
      · exact .inr ⟨inserted, raw, server, share, asks, named, rfl, rfl⟩
    by_cases poisoned : r.poisoned
    · simp only [Resolver.locked, poisoned, if_true]
      exact before
    · simp only [Resolver.locked, poisoned, done]
      cases outcome <;> exact kept'

/-- What is kept was kept before, or has been inserted. -/
theorem perform_kept (kept : Kept P r.cache) :
    Kept (fun key referral => P key referral ∨ Inserts e key referral)
      (r.perform e).resolver.cache := by
  have before : ∀ {c : Cache}, Kept P c →
      Kept (fun key referral => P key referral ∨ Inserts e key referral) c :=
    fun kept key referral found => .inl (kept key referral found)
  cases perform_effect r e with
  | unchanged same =>
    rw [same]
    exact before kept
  | resolved operation => exact before (perform_resolve_kept kept operation).1
  | judged _ judged =>
    rw [judged.cache]
    exact before (kept.of_standalone (.inl rfl))
  | inserted operation => exact perform_insert_kept kept operation
  | invalidated _ left =>
    rw [left]
    exact before (kept.of_standalone (.inl rfl))

theorem performAll_kept (kept : Kept P r.cache) :
    Kept (fun key referral => P key referral ∨ ∃ u ∈ events, Inserts u key referral)
      (r.performAll events).2.cache := by
  induction events generalizing r P with
  | nil => exact fun key referral found => .inl (kept key referral found)
  | cons e events ih =>
    intro key referral found
    obtain (known | inserts) | ⟨u, among, inserts⟩ := ih (perform_kept kept) key referral found
    · exact .inl known
    · exact .inr ⟨e, .head _, inserts⟩
    · exact .inr ⟨u, .tail _ among, inserts⟩

theorem toList_toLower (text : String) :
    (Text.toLower text).toList = Text.Case.lowerFrom [] text.toList := String.toList_ofList

theorem Names.of_covers {key path : String} {server share : List Char} (covers : Covers key path)
    (names : Names key.toList server share) : Names path.toList server share := by
  obtain rfl | ⟨rest, rfl⟩ := covers
  · exact names
  · rw [String.toList_append, String.toList_append, List.append_assoc]
    exact names.append rest.toList

/-- A key that reaches behind the share names it, in lower case. -/
theorem names_keyOf {path server share : String} {consumed : Nat}
    (named : serverAndShare? path = some (server, share))
    (behind : 1 + server.length + 1 + share.length ≤ consumed) :
    Names (keyOf path consumed).toList (Text.toLower server).toList
      (Text.toLower share).toList := by
  have names := serverAndShare?_eq_some.mp named
  rw [← String.length_toList, ← String.length_toList] at behind
  rw [keyOf, String.toList_ofList, toList_toLower, toList_toLower, toList_toLower,
    String.toList_ofList]
  exact (names.take behind).lower.trimKey

/-- The path of a request, as far as stand-alone referrals see it. -/
def requested (domain root below : String) : String :=
  joined domain root ++ (if below = Lookup.rootLink then "" else below)

/-- A path that is covered by a key behind a share is on that share. -/
theorem serverAndShare?_of_covers {path server share domain root below : String} {consumed : Nat}
    (named : serverAndShare? path = some (server, share))
    (behind : 1 + server.length + 1 + share.length ≤ consumed)
    (covers : Covers (keyOf path consumed) (standaloneKey domain root below)) :
    ∃ server' share', serverAndShare? (requested domain root below) = some (server', share') ∧
      Text.toLower server' = Text.toLower server ∧ Text.toLower share' = Text.toLower share := by
  have names := (names_keyOf named behind).of_covers covers
  rw [show standaloneKey domain root below = Text.toLower (requested domain root below) from rfl,
    toList_toLower] at names
  obtain ⟨server', share', names', servers, shares⟩ := names.of_lower
  refine ⟨String.ofList server', String.ofList share', ?_, ?_, ?_⟩
  · rw [serverAndShare?_eq_some, String.toList_ofList, String.toList_ofList]
    exact names'
  · rw [← String.toList_inj, ← servers, toList_toLower, String.toList_ofList]
  · rw [← String.toList_inj, ← shares, toList_toLower, String.toList_ofList]

/-- A request whose parts hold no separators of their own is for its domain and its root. -/
theorem eq_of_serverAndShare?_requested {domain root below server share : String}
    (named : serverAndShare? (requested domain root below) = some (server, share))
    (domain_whole : '\\' ∉ domain.toList) (root_whole : '\\' ∉ root.toList)
    (below_starts : below = "" ∨ ∃ rest, below = "\\" ++ rest) :
    server = domain ∧ share = root := by
  obtain ⟨rest, same, whole, -, share_eq, -⟩ := serverAndShare?_eq_some.mp named
  have path : (requested domain root below).toList = '\\' :: (domain.toList ++ '\\' ::
      (root.toList ++ (if below = Lookup.rootLink then "" else below).toList)) := by
    simp [requested, joined, String.toList_append]
  rw [path] at same
  have parts := congrArg cut (List.cons.inj same).2
  rw [cut_append _ domain_whole, cut_append _ whole] at parts
  obtain ⟨servers, rfl⟩ := Prod.mk.inj parts
  refine ⟨String.toList_inj.mp servers.symm, String.toList_inj.mp ?_⟩
  rw [← share_eq]
  split
  · rw [String.toList_empty, List.append_nil, cut_of_not_mem root_whole]
  · obtain rfl | ⟨rest, rfl⟩ := below_starts
    · rw [String.toList_empty, List.append_nil, cut_of_not_mem root_whole]
    · rw [String.toList_append]
      exact (congrArg Prod.fst (cut_append rest.toList root_whole))

/-- What the stand-alone tier answers, after any run of calls, has been inserted for a path whose
front covers the request. When the server counted beyond the share, that path is on the share of
the request; the server can count less, and then nothing ties the referral to the share. -/
theorem resolve_insertedFor {config : Config} {found : Referral}
    (asks : e.operation = .resolve domain root path)
    (answered : ((((Resolver.ofConfig config).performAll events).2).perform e).outcome =
      .ok (.referral (some found)))
    (below_roots : ¬FindsRoot ((Resolver.ofConfig config).performAll events).2 e domain root
      found) :
    ∃ u ∈ events, ∃ below inserted raw server share, path = some below ∧
      u.operation = .insert inserted raw ∧ serverAndShare? inserted = some (server, share) ∧
      found = raw.keptFor inserted server share ∧
      Covers (keyOf inserted raw.pathConsumed) (standaloneKey domain root below) ∧
      (1 + server.length + 1 + share.length ≤ raw.pathConsumed →
        (∃ server' share',
          serverAndShare? (requested domain root below) = some (server', share') ∧
            Text.toLower server' = Text.toLower server ∧
            Text.toLower share' = Text.toLower share) ∧
        ('\\' ∉ domain.toList → '\\' ∉ root.toList →
          (below = "" ∨ ∃ rest, below = "\\" ++ rest) →
            Text.toLower server = Text.toLower domain ∧
            Text.toLower share = Text.toLower root)) := by
  have blank : Kept (fun _ _ => False) (Resolver.ofConfig config).cache := fun _ _ => nofun
  obtain finds | ⟨below, key, rfl, covers, known⟩ :=
    (perform_resolve_kept (performAll_kept blank) asks).2 found answered
  · exact absurd finds below_roots
  · obtain ⟨u, among, inserted, raw, server, share, inserts, named, rfl, rfl⟩ :=
      known.resolve_left id
    refine ⟨u, among, below, inserted, raw, server, share, rfl, inserts, named, rfl, covers, ?_⟩
    intro behind
    obtain ⟨server', share', here, servers, shares⟩ :=
      serverAndShare?_of_covers named behind covers
    refine ⟨⟨server', share', here, servers, shares⟩, ?_⟩
    intro domain_whole root_whole below_starts
    obtain ⟨rfl, rfl⟩ :=
      eq_of_serverAndShare?_requested here domain_whole root_whole below_starts
    exact ⟨servers.symm, shares.symm⟩

/-- A resolver that has inserted a referral for a directory on a share of the server `srv`. -/
def inserting (inserted : String) (consumed : Nat) : List (Event Unit) :=
  [⟨0, silent, (), .insert inserted (leading "fs1" consumed 300000)⟩]

/-- A request that finds something, and this below the roots. -/
def foundBelow (r : Resolver) (e : Event Unit) (domain root : String) : Bool :=
  (match (r.perform e).outcome with
    | .ok (.referral found) => found.isSome
    | _ => false) &&
  match Lookup.resolveTrusted r.settings e.net.recorded e.now domain root
      (r.cache, e.client, []) with
    | .ok found _ => found.isNone
    | .error .. => true

theorem exists_found_of_foundBelow {r : Resolver} {e : Event Unit}
    (below : foundBelow r e domain root = true) :
    ∃ found, (r.perform e).outcome = .ok (.referral (some found)) ∧
      ∀ referral, ¬FindsRoot r e domain root referral := by
  obtain ⟨answered, missed⟩ := Bool.and_eq_true_iff.mp below
  have unfound : ∀ referral, ¬FindsRoot r e domain root referral := by
    rintro referral ⟨-, after, looked⟩
    rw [looked] at missed
    cases missed
  split at answered
  next found outcome =>
    obtain ⟨referral, rfl⟩ := Option.isSome_iff_exists.mp answered
    exact ⟨referral, outcome, unfound⟩
  next => cases answered

theorem resolve_insertedFor_directory :
    let r := ((Resolver.ofConfig (Config.standard 0 "")).performAll
      (inserting "\\srv\\share\\dir" 14)).2
    let e : Event Unit := ⟨0, silent, (), .resolve "SRV" "Share" (some "\\dir\\file")⟩
    ∃ found, (r.perform e).outcome = .ok (.referral (some found)) ∧
      ¬FindsRoot r e "SRV" "Share" found ∧
      ∃ u ∈ inserting "\\srv\\share\\dir" 14, ∃ inserted raw server share,
        u.operation = .insert inserted raw ∧ serverAndShare? inserted = some (server, share) ∧
        Text.toLower server = Text.toLower "SRV" ∧ Text.toLower share = Text.toLower "Share" := by
  intro r e
  obtain ⟨found, answered, unfound⟩ := exists_found_of_foundBelow
    (show foundBelow r e "SRV" "Share" = true by decide +kernel)
  obtain ⟨u, among, below, inserted, raw, server, share, ⟨⟩, inserts, named, -, -, same⟩ :=
    resolve_insertedFor (e := e) rfl answered (unfound found)
  refine ⟨found, answered, unfound found, u, among, inserted, raw, server, share, inserts, named,
    (same ?_).2 (by decide +kernel) (by decide +kernel) (.inr ⟨"dir\\file", by decide +kernel⟩)⟩
  obtain rfl := List.mem_singleton.mp among
  cases inserts
  have names : serverAndShare? "\\srv\\share\\dir" = some ("srv", "share") := by decide +kernel
  cases names.symm.trans named
  decide +kernel

/-- A referral of which the server counts nothing is served for every share. -/
theorem resolve_otherShare :
    let r := ((Resolver.ofConfig (Config.standard 0 "")).performAll
      (inserting "\\srv\\share\\dir" 0)).2
    let e : Event Unit := ⟨0, silent, (), .resolve "other" "data" (some "\\file")⟩
    (∃ found, (r.perform e).outcome = .ok (.referral (some found)) ∧
        ∀ referral, ¬FindsRoot r e "other" "data" referral) ∧
      serverAndShare? "\\srv\\share\\dir" = some ("srv", "share") ∧
      Text.toLower "srv" ≠ Text.toLower "other" ∧ Text.toLower "share" ≠ Text.toLower "data" := by
  intro r e
  exact ⟨exists_found_of_foundBelow
    (show foundBelow r e "other" "data" = true by decide +kernel), by decide +kernel,
    by decide +kernel, by decide +kernel⟩

end Smb1.Dfs
