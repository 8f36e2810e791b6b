import Smb1.Proofs.Dfs.Shares

/-! Where a stand-alone referral leads. It is kept under the front of the path that it was inserted
for, and stays there until the tier or the referral runs out or another takes its place. A request
below that front is redirected to the target with all that it names beyond the front. -/
namespace Smb1.Dfs

open Lookup (serverAndShare? joined standaloneKey trimKey covers longest)
open Text.Case (lowerFrom)

variable {σ : Type} {r r' : Resolver} {c : Cache} {s : σ} {now ends : Moment} {key : String}
  {referral raw : Referral} {e : Event σ} {events : List (Event σ)}

/-- The stand-alone tier ends at a time and keeps a referral under a key. -/
def Keeps (c : Cache) (ends : Moment) (key : String) (referral : Referral) : Prop :=
  ∃ entries, c.standalone = some ⟨ends, entries⟩ ∧ entries.find? key = some referral

/-- A call that neither meets the end of the tier or of a referral nor puts another under its key.
The tier takes nothing more shortly before it ends. -/
def Spares (ends : Moment) (key : String) (referral : Referral) (e : Event σ) : Prop :=
  match e.operation with
  | .resolve .. => e.now < ends ∧ e.now < referral.expiration
  | .insert path other => e.now + Lookup.expiryMargin * 1000 ≤ ends ∧
      keyOf path other.pathConsumed ≠ key
  | .isTrustedDomain _ | .controller _ | .invalidateDomains => True

/-- When the tier ends that an entry is put in. -/
def tierEnd (settings : Settings) (now : Moment) (c : Cache) : Moment :=
  match c.standalone with
  | some tier =>
    if tier.expiration < now + Lookup.expiryMargin * 1000 then now + settings.ttl * 1000
    else tier.expiration
  | none => now + settings.ttl * 1000

theorem Keeps.of_standalone {c' : Cache} (keeps : Keeps c ends key referral)
    (same : c'.standalone = c.standalone) : Keeps c' ends key referral := by
  obtain ⟨entries, tier, found⟩ := keeps
  exact ⟨entries, same.trans tier, found⟩

theorem Keeps.find? (keeps : Keeps c ends key referral) :
    c.referrals.find? key = some referral := by
  obtain ⟨entries, tier, found⟩ := keeps
  rw [Cache.referrals, tier]
  exact found

namespace Lookup

variable (settings : Settings) (now : Moment)

/-- A live tier answers from its entries, and goes on to its end with those that remain. -/
theorem resolveStandalone_tier {entries : KeyMap Referral}
    (tier : c.standalone = some ⟨ends, entries⟩) (live : now < ends) (path : String) :
    ∃ c', resolveStandalone settings now path (c, s) = .ok (answer entries now path) (c', s) ∧
      c'.standalone = some ⟨ends, remaining entries now path⟩ := by
  have alive : (⟨ends, entries⟩ : Cached (KeyMap Referral)).isExpired now = false :=
    decide_eq_false (Nat.not_le.mpr live)
  have made : standalone settings now (c, s) = .ok ⟨ends, entries⟩ (c, s) := by
    simp only [standalone, bind, EStateM.bind, cache, tier]
    rfl
  simp only [resolveStandalone, bind, EStateM.bind, cache, setCache, pure, tier, Option.any_some,
    alive, made, Bool.false_eq_true, if_false]
  unfold answer remaining nearest
  cases longest (entries.keys.filter (covers · path)) with
  | none => exact ⟨_, rfl, rfl⟩
  | some nearby =>
    simp only [Option.bind_some]
    cases entries.find? nearby with
    | none => exact ⟨_, rfl, rfl⟩
    | some other =>
      simp only [Option.map_some]
      by_cases expired : other.isExpired now
      · simp only [if_pos expired]
        exact ⟨_, rfl, rfl⟩
      · simp only [if_neg expired]
        exact ⟨_, rfl, rfl⟩

theorem insert_tier {entries : KeyMap Referral} (tier : c.standalone = some ⟨ends, entries⟩)
    (early : now + expiryMargin * 1000 ≤ ends) (path server share : String) (raw : Referral) :
    ∃ c', insert settings now path server share raw (c, s) = .ok () (c', s) ∧
      c'.standalone = some ⟨ends, entries.insert (keyOf path raw.pathConsumed)
        (raw.keptFor path server share)⟩ := by
  have far : ¬ends < now + expiryMargin * 1000 := Nat.not_lt.mpr early
  simp only [insert, standalone, bind, EStateM.bind, cache, setCache, tier, Option.any_some, far,
    decide_false, Bool.false_eq_true, if_false]
  exact ⟨_, rfl, rfl⟩

/-- Where there is no tier, one is made for the entry. -/
theorem insert_new {s' : Cache × σ} {path server share : String}
    (absent : c.standalone = none)
    (done : insert settings now path server share raw (c, s) = .ok () s') :
    Keeps s'.1 (now + settings.ttl * 1000) (keyOf path raw.pathConsumed)
      (raw.keptFor path server share) := by
  cases clock : now.later settings.ttl with
  | error error =>
    have failed : after now settings.ttl (c, s) = .error error (c, s) := by rw [after, clock]
    simp only [insert, standalone, bind, EStateM.bind, cache, absent, Option.any_none,
      Bool.false_eq_true, if_false, failed] at done
    cases done
  | ok moment =>
    have made : after now settings.ttl (c, s) = .ok moment (c, s) := by rw [after, clock]
    simp only [insert, standalone, bind, EStateM.bind, cache, setCache, absent, Option.any_none,
      Bool.false_eq_true, if_false, made] at done
    cases done
    obtain rfl := Moment.eq_of_later_eq_ok clock
    exact ⟨_, rfl, (KeyMap.find?_insert ..).trans (if_pos rfl)⟩

theorem insert_keeps {s' : Cache × σ} {path server share : String}
    (done : insert settings now path server share raw (c, s) = .ok () s') :
    Keeps s'.1 (tierEnd settings now c) (keyOf path raw.pathConsumed)
      (raw.keptFor path server share) := by
  unfold tierEnd
  cases there : c.standalone with
  | none => exact insert_new settings now there done
  | some tier =>
    obtain ⟨ends, entries⟩ := tier
    dsimp only
    by_cases near : ends < now + expiryMargin * 1000
    · rw [if_pos near]
      refine insert_new (c := { c with standalone := none }) (s := s) settings now rfl ?_
      rw [← done]
      simp only [insert, bind, EStateM.bind, cache, setCache, there, Option.any_some,
        Option.any_none, near, decide_true, Bool.false_eq_true, if_true, if_false]
    · rw [if_neg near]
      obtain ⟨c', put, tier'⟩ := insert_tier (s := s) settings now there (Nat.not_lt.mp near) path
        server share raw
      cases put.symm.trans done
      exact ⟨_, tier', (KeyMap.find?_insert ..).trans (if_pos rfl)⟩

end Lookup

theorem Keeps.perform_resolve {domain root : String} {path : Option String}
    (keeps : Keeps r.cache ends key referral) (asks : e.operation = .resolve domain root path)
    (live : e.now < ends) (unexpired : e.now < referral.expiration) :
    Keeps (r.perform e).resolver.cache ends key referral := by
  cases resolving : r.resolves root with
  | false => rwa [(perform_of_not_resolves resolving asks).2.1]
  | true =>
    obtain ⟨asked, outcome, c, client, trusts, looked⟩ := Lookup.resolveTrusted_recorded
      r.settings e.now e.net domain root r.cache e.client []
    have keeps' : Keeps c ends key referral := keeps.of_standalone trusts.standalone
    obtain ⟨outcome, s', ending, kept⟩ : ∃ outcome s',
        Lookup.resolve r.settings e.net.recorded e.now domain root path (r.cache, e.client, []) =
          Lookup.ending outcome s' ∧ Keeps s'.1 ends key referral := by
      match outcome, path with
      | .error error, path => exact ⟨.error error, _, Lookup.bind_of_error looked, keeps'⟩
      | .ok (some found), path => exact ⟨.ok (some found), _, Lookup.bind_of_ok looked, keeps'⟩
      | .ok none, none => exact ⟨.ok none, _, Lookup.bind_of_ok looked, keeps'⟩
      | .ok none, some below =>
        obtain ⟨entries, tier, found⟩ := keeps'
        obtain ⟨c', answered, tier'⟩ := Lookup.resolveStandalone_tier (s := (client, asked))
          r.settings e.now tier live (standaloneKey domain root below)
        exact ⟨.ok _, _, (Lookup.bind_of_ok looked).trans answered, _, tier',
          find?_remaining found unexpired⟩
    simp only [Resolver.resolves, Bool.and_eq_true, Bool.not_eq_true'] at resolving
    simp only [Resolver.perform, asks, Resolver.resolve, resolving.1.1, resolving.1.2,
      Bool.or_self, Bool.false_eq_true, if_false, Resolver.locked, resolving.2, ending]
    cases outcome <;> exact kept

theorem Keeps.perform_insert {path : String} {other : Referral}
    (keeps : Keeps r.cache ends key referral) (asks : e.operation = .insert path other)
    (early : e.now + Lookup.expiryMargin * 1000 ≤ ends)
    (apart : keyOf path other.pathConsumed ≠ key) :
    Keeps (r.perform e).resolver.cache ends key referral := by
  simp only [Resolver.perform, asks, Resolver.insert]
  by_cases disabled : r.settings.disabled
  · simp only [disabled, if_true]
    exact keeps
  cases serverAndShare? path with
  | none =>
    simp only [disabled]
    exact keeps
  | some names =>
    obtain ⟨server, share⟩ := names
    by_cases poisoned : r.poisoned
    · simp only [disabled, Resolver.locked, poisoned, if_true]
      exact keeps
    · obtain ⟨entries, tier, found⟩ := keeps
      obtain ⟨c', done, tier'⟩ := Lookup.insert_tier (s := ()) r.settings e.now tier early path
        server share other
      simp only [disabled, Resolver.locked, poisoned, done]
      exact ⟨_, tier', by rw [KeyMap.find?_insert, if_neg apart]; exact found⟩

theorem Keeps.perform (keeps : Keeps r.cache ends key referral)
    (spares : Spares ends key referral e) :
    Keeps (r.perform e).resolver.cache ends key referral := by
  unfold Spares at spares
  cases perform_effect r e with
  | unchanged same => rwa [same]
  | resolved operation =>
    rw [operation] at spares
    exact keeps.perform_resolve operation spares.1 spares.2
  | judged _ judged =>
    rw [judged.cache]
    exact keeps.of_standalone rfl
  | inserted operation =>
    rw [operation] at spares
    exact keeps.perform_insert operation spares.1 spares.2
  | invalidated _ left =>
    rw [left]
    exact keeps.of_standalone rfl

theorem Keeps.performAll (keeps : Keeps r.cache ends key referral)
    (spared : ∀ e ∈ events, Spares ends key referral e) :
    Keeps (r.performAll events).2.cache ends key referral := by
  induction events generalizing r with
  | nil => exact keeps
  | cons e events ih =>
    obtain ⟨first, rest⟩ := List.forall_mem_cons.mp spared
    exact ih (keeps.perform first) rest

/-- An insertion that goes well puts the referral under the front of its path. -/
theorem Resolver.insert_keeps {path server share : String} (enabled : r.settings.disabled = false)
    (named : serverAndShare? path = some (server, share))
    (inserted : r.insert now path raw = (.ok (), r')) :
    Keeps r'.cache (tierEnd r.settings now r.cache) (keyOf path raw.pathConsumed)
      (raw.keptFor path server share) := by
  simp only [Resolver.insert, enabled, named, Bool.false_eq_true, if_false, Resolver.locked]
    at inserted
  by_cases poisoned : r.poisoned
  · simp [poisoned] at inserted
  · simp only [poisoned, Bool.false_eq_true, if_false] at inserted
    cases done : Lookup.insert r.settings now path server share raw (r.cache, ()) with
    | error error s' => simp [done] at inserted
    | ok _ s' =>
      rw [done] at inserted
      cases inserted
      exact Lookup.insert_keeps r.settings now done

/-- Empty, or led by a separator. -/
def Led (text : String) : Prop := text = "" ∨ ∃ rest, text = "\\" ++ rest

/-- The first characters of a path. -/
def front (path : String) (count : Nat) : String := String.ofList (path.toList.take count)

/-- A path on a share, and a front of it that reaches behind the share and ends in no separator. -/
structure Fronted (path server share : String) (count : Nat) : Prop where
  server_name : server ≠ "" ∧ '\\' ∉ server.toList
  share_name : share ≠ "" ∧ '\\' ∉ share.toList
  rest : ∃ rest, Led rest ∧ path = joined server share ++ rest
  behind : (joined server share).length ≤ count
  within : count ≤ path.length
  whole : (front path count).toList.getLast? ≠ some '\\'

/-- A request for a path, in whatever case, and for something beyond it. -/
structure Requests (path domain root below beyond : String) : Prop where
  domain_whole : '\\' ∉ domain.toList
  root_whole : '\\' ∉ root.toList
  below_led : Led below
  beyond_led : Led beyond
  same : Text.eqIgnoringAsciiCase (joined domain root ++ below) path = true

variable {path server share domain root below beyond : String} {count : Nat}

theorem toList_joined (domain root : String) :
    (joined domain root).toList = '\\' :: (domain.toList ++ '\\' :: root.toList) := by
  simp [joined, String.toList_append]

theorem length_joined (domain root : String) :
    (joined domain root).length = 1 + domain.length + 1 + root.length := by
  rw [← String.length_toList, toList_joined, List.length_cons, List.length_append,
    List.length_cons, String.length_toList, String.length_toList]
  omega

theorem cut_map_toLower (chars : List Char) : cut (chars.map Char.toLower) =
    ((cut chars).1.map Char.toLower, (cut chars).2.map Char.toLower) := by
  have same : (· != separator) ∘ Char.toLower = (· != separator) := by
    funext c
    have here := Text.Case.toLower_eq_separator c
    exact Bool.eq_iff_iff.mpr (by simpa [separator] using not_congr here)
  rw [cut, List.takeWhile_map, List.dropWhile_map, same, ← List.map_drop, cut]

theorem cut_append_of_led {chars : List Char} (whole : '\\' ∉ chars) (led : Led below) :
    (cut (chars ++ below.toList)).1 = chars := by
  obtain rfl | ⟨rest, rfl⟩ := led
  · rw [String.toList_empty, List.append_nil, cut_of_not_mem whole]
  · rw [String.toList_append]
    exact congrArg Prod.fst (cut_append rest.toList whole)

theorem trimKey_of_getLast? {chars : List Char} (whole : chars.getLast? ≠ some '\\') :
    trimKey chars = chars := by
  cases chars with
  | nil => rfl
  | cons first rest =>
    obtain ⟨_ | count, trimmed⟩ := exists_eq_trimEnd rest
    · rw [List.replicate_zero, List.append_nil] at trimmed
      rw [trimKey, ← trimmed]
    · refine absurd ?_ whole
      rw [trimmed, List.replicate_succ', ← List.append_assoc, ← List.cons_append,
        List.getLast?_concat]

/-- In lower case only a separator at the end becomes one. -/
theorem getLast?_lowerFrom {before chars : List Char}
    (last : (lowerFrom before chars).getLast? = some '\\') : chars.getLast? = some '\\' := by
  induction chars generalizing before with
  | nil => exact last
  | cons c rest ih =>
    cases rest with
    | nil =>
      by_contra other
      have whole : '\\' ∉ [c] := fun among => other (by rw [List.mem_singleton.mp among]; rfl)
      exact Text.Case.not_mem_lowerFrom before whole (List.mem_of_getLast? last)
    | cons d rest =>
      have more : lowerFrom (c :: before) (d :: rest) ≠ [] :=
        mt Text.Case.lowerFrom_eq_nil_iff.mp (List.cons_ne_nil d rest)
      rw [lowerFrom, List.getLast?_append,
        Option.or_of_isSome (List.getLast?_isSome.mpr more)] at last
      rw [List.getLast?_cons_cons]
      exact ih last

/-- Whether a path ends in a separator does not depend on its case. -/
theorem getLast?_of_sameCase {a b : String} (same : Text.eqIgnoringAsciiCase a b = true)
    (last : a.toList.getLast? = some '\\') : b.toList.getLast? = some '\\' := by
  have ends := congrArg List.getLast? (eq_of_beq same)
  rw [List.getLast?_map, List.getLast?_map, last] at ends
  obtain ⟨c, found, lower⟩ := Option.map_eq_some_iff.mp ends.symm
  rw [found, (Text.Case.toLower_eq_separator c).mp lower]

theorem toLower_append_separator (text rest : String) :
    Text.toLower (text ++ "\\" ++ rest) = Text.toLower text ++ "\\" ++ Text.toLower rest := by
  rw [← String.toList_inj, toList_toLower, String.toList_append, String.toList_append,
    List.append_assoc]
  exact (Text.Case.lowerFrom_separator [] text.toList rest.toList).trans (by
    simp only [String.toList_append, toList_toLower, List.append_assoc]
    rfl)

namespace Fronted

theorem names (fronted : Fronted path server share count) :
    Names path.toList server.toList share.toList := by
  obtain ⟨rest, led, rfl⟩ := fronted.rest
  refine ⟨share.toList ++ rest.toList, ?_, fronted.server_name.2, ?_, ?_, ?_⟩
  · rw [String.toList_append, toList_joined, List.cons_append, List.append_assoc,
      List.cons_append]
  · exact mt String.toList_eq_nil_iff.mp fronted.server_name.1
  · exact cut_append_of_led fronted.share_name.2 led
  · exact mt String.toList_eq_nil_iff.mp fronted.share_name.1

theorem length_front (fronted : Fronted path server share count) :
    (front path count).length = count := by
  have within := fronted.within
  rw [← String.length_toList] at within ⊢
  rw [front, String.toList_ofList, List.length_take, Nat.min_eq_left within]

/-- The front is kept in lower case, and nothing of it is trimmed. -/
theorem keyOf_eq (fronted : Fronted path server share count) :
    keyOf path count = Text.toLower (front path count) := by
  have kept : trimKey (Text.toLower (front path count)).toList =
      (Text.toLower (front path count)).toList := by
    rw [toList_toLower]
    exact trimKey_of_getLast? (mt getLast?_lowerFrom fronted.whole)
  rw [keyOf, ← front, kept, String.ofList_toList]

/-- A request for the front names its server and its share, and goes as far below them. -/
theorem length_below (fronted : Fronted path server share count)
    (asks : Requests (front path count) domain root below beyond) :
    count - (1 + server.length + 1 + share.length) = below.length := by
  have behind := fronted.behind
  rw [length_joined] at behind
  have letters : (joined domain root ++ below).toList.map Char.toLower =
      (front path count).toList.map Char.toLower := eq_of_beq asks.same
  obtain ⟨rest, path_eq, server_whole, -, share_eq, -⟩ := fronted.names.take behind
  have same := congrArg List.tail letters
  rw [String.toList_append, toList_joined, front, String.toList_ofList, path_eq,
    List.cons_append, List.map_cons, List.map_cons, List.tail_cons, List.tail_cons] at same
  have parts := congrArg cut same
  rw [cut_map_toLower, cut_map_toLower, List.append_assoc, List.cons_append,
    cut_append _ asks.domain_whole, cut_append _ server_whole, Prod.mk.injEq] at parts
  have roots := congrArg (List.length ∘ Prod.fst ∘ cut) parts.2
  have domains := congrArg List.length parts.1
  have whole := congrArg List.length letters
  simp only [Function.comp_apply, cut_map_toLower, cut_append_of_led asks.root_whole asks.below_led,
    share_eq, List.length_map, String.length_toList] at roots domains whole
  rw [fronted.length_front, String.length_append, length_joined] at whole
  omega

/-- A request for the front and beyond is covered by the key. -/
theorem covers (fronted : Fronted path server share count)
    (asks : Requests (front path count) domain root below beyond) :
    Covers (keyOf path count) (standaloneKey domain root (below ++ beyond)) := by
  have lower := Text.toLower_eq_of_eqIgnoringAsciiCase asks.same
  rw [fronted.keyOf_eq, ← lower]
  unfold standaloneKey
  obtain beyond_eq | ⟨rest, beyond_eq⟩ := asks.beyond_led
  · -- The root link as a path counts for nothing. Here the front would end in a separator.
    have path_ne : below ++ beyond ≠ Lookup.rootLink := by
      rintro link
      rw [beyond_eq, String.append_empty] at link
      refine fronted.whole (getLast?_of_sameCase asks.same ?_)
      rw [link, String.toList_append]
      exact List.getLast?_concat
    rw [if_neg path_ne, beyond_eq, String.append_empty]
    exact .inl rfl
  · by_cases link : below ++ beyond = Lookup.rootLink
    · have parts := congrArg String.length link
      rw [beyond_eq, String.length_append, String.length_append] at parts
      obtain rfl : below = "" := String.length_eq_zero_iff.mp (by
        change _ + (1 + _) = 1 at parts
        omega)
      rw [if_pos link, String.append_empty]
      exact .inl rfl
    · rw [if_neg link, beyond_eq]
      refine .inr ⟨Text.toLower rest, ?_⟩
      rw [← String.append_assoc, ← String.append_assoc, toLower_append_separator]

end Fronted

/-- A front that no other key in the tier reaches beyond decides, as long as its referral lasts. -/
theorem answer_of_longest {entries : KeyMap Referral} {path : String}
    (leads : Leads entries path key referral) (unexpired : now < referral.expiration)
    (longest : ∀ other found, Leads entries path other found → other.length ≤ key.length) :
    answer entries now path = some referral := by
  have best := nearest_spec entries path
  unfold answer
  rcases decided : nearest entries path with _ | ⟨nearby, found⟩ <;> rw [decided] at best
  · exact absurd leads (best key referral)
  · obtain ⟨also, most⟩ := best
    have length := Nat.le_antisymm (most key referral leads) (longest nearby found also)
    obtain rfl := leads.eq_of_length_eq also length
    have alive : ¬referral.isExpired now = true :=
      fun expired => absurd unexpired (Nat.not_lt.mpr (isExpired_iff.mp expired))
    exact if_neg alive

theorem redirect_append {below beyond : String} (consumed : referral.pathConsumed = below.length) :
    referral.redirect (below ++ beyond) = referral.target.unc ++
      (if trimStart beyond.toList = [] then ""
        else "\\" ++ String.ofList (trimStart beyond.toList)) := by
  have behind : (below ++ beyond).toList.drop referral.pathConsumed = beyond.toList := by
    rw [consumed, String.toList_append, ← String.length_toList, List.drop_left]
  simp only [Referral.redirect, behind, List.isEmpty_iff]

variable {τ : Type} {net : Network τ} {client : τ} {later : Moment}

/-- A referral that is inserted for a path answers the requests for the front that the server
counted, whatever is called in between that leaves it in place, as long as only the stand-alone tier
can answer, with no key that reaches further. It redirects what is requested below the share to its
target and what is requested beyond the front, with the separators in front of that made one. -/
theorem resolve_inserted_redirect (enabled : r.settings.disabled = false)
    (fronted : Fronted path server share raw.pathConsumed)
    (inserted : r.insert now path raw = (.ok (), r'))
    (spared : ∀ e ∈ events, Spares (tierEnd r.settings now r.cache)
      (keyOf path raw.pathConsumed) raw e)
    (asks : Requests (front path raw.pathConsumed) domain root below beyond)
    (reaches : Reaches (r'.performAll events).2 net later domain root client)
    (longest : ∀ other found, Leads (r'.performAll events).2.cache.referrals
      (standaloneKey domain root (below ++ beyond)) other found →
        other.length ≤ (keyOf path raw.pathConsumed).length)
    (unexpired : later < raw.expiration) :
    ∃ found, ((r'.performAll events).2.resolve net later domain root (some (below ++ beyond))
        client).1 = .ok (some found) ∧
      found.redirect (below ++ beyond) = raw.target.unc ++
        (if trimStart beyond.toList = [] then ""
          else "\\" ++ String.ofList (trimStart beyond.toList)) := by
  have named : serverAndShare? path = some (server, share) :=
    serverAndShare?_eq_some.mpr fronted.names
  have keeps : Keeps (r'.performAll events).2.cache (tierEnd r.settings now r.cache)
      (keyOf path raw.pathConsumed) (raw.keptFor path server share) :=
    (Resolver.insert_keeps enabled named inserted).performAll spared
  have answered := answer_of_longest ⟨keeps.find?, fronted.covers asks⟩ unexpired longest
  refine ⟨raw.keptFor path server share, ?_, redirect_append (fronted.length_below asks)⟩
  rw [(resolve_of_reaches (below ++ beyond) reaches).1, answered]

/-- A referral for a file, of which the server counted the directory, has been inserted. -/
def insertedFile : Except Error Unit × Resolver :=
  (Resolver.ofConfig (Config.standard 0 "")).insert 0 "\\srv\\share\\dir\\file"
    (leading "fs1" 14 300000)

/-- Another referral on the same share follows. -/
def insertsOther : Event Unit :=
  ⟨0, silent, (), .insert "\\srv\\share\\other" (leading "fs2" 16 300000)⟩

theorem resolve_inserted_redirect_directory :
    let last := (insertedFile.2.performAll [insertsOther]).2
    let call := last.resolve silent 500 "SRV" "Share" (some ("\\DIR" ++ "\\\\sub")) ()
    Reaches last silent 500 "SRV" "Share" () ∧
      Requests (front "\\srv\\share\\dir\\file" 14) "SRV" "Share" "\\DIR" "\\\\sub" ∧
      ∃ found, call.1 = .ok (some found) ∧
        found.redirect ("\\DIR" ++ "\\\\sub") = "\\fs1\\data\\sub" := by
  intro last call
  have fronted : Fronted "\\srv\\share\\dir\\file" "srv" "share" 14 :=
    ⟨by decide +kernel, by decide +kernel,
      ⟨"\\dir\\file", .inr ⟨"dir\\file", by decide +kernel⟩, by decide +kernel⟩,
      by decide +kernel, by decide +kernel, by decide +kernel⟩
  have inserted : (Resolver.ofConfig (Config.standard 0 "")).insert 0
      "\\srv\\share\\dir\\file" (leading "fs1" 14 300000) = (.ok (), insertedFile.2) :=
    Prod.ext (by decide +kernel) rfl
  have spared : ∀ e ∈ [insertsOther], Spares
      (tierEnd (Resolver.ofConfig (Config.standard 0 "")).settings 0 .empty)
      (keyOf "\\srv\\share\\dir\\file" 14) (leading "fs1" 14 300000) e := by
    intro e among
    obtain rfl := List.mem_singleton.mp among
    exact ⟨by decide +kernel, by decide +kernel⟩
  have asks : Requests (front "\\srv\\share\\dir\\file" 14) "SRV" "Share" "\\DIR" "\\\\sub" :=
    ⟨by decide +kernel, by decide +kernel, .inr ⟨"DIR", by decide +kernel⟩,
      .inr ⟨"\\sub", by decide +kernel⟩, by decide +kernel⟩
  have reaches : Reaches last silent 500 "SRV" "Share" () :=
    reaches_silent (by decide +kernel) (by decide +kernel)
  have reached : ∀ other ∈ last.cache.referrals.keys,
      Lookup.covers other (standaloneKey "SRV" "Share" ("\\DIR" ++ "\\\\sub")) = true →
        other.length ≤ (keyOf "\\srv\\share\\dir\\file" 14).length := by
    decide +kernel
  obtain ⟨found, answered, redirected⟩ := resolve_inserted_redirect (by decide +kernel) fronted
    inserted spared asks reaches
    (fun other found leads => reached other
      (KeyMap.mem_keys.mpr (Option.isSome_of_eq_some leads.found)) (covers_iff.mpr leads.covers))
    (by decide +kernel)
  refine ⟨reaches, asks, found, answered, redirected.trans ?_⟩
  decide +kernel

end Smb1.Dfs
