import AbaxLending.Contract.PriceFeed
import AbaxLending.Contract.Run
import AbaxLending.Lib.LastWrite

/-!
The prices that the provider answers with.

The symbols of the assets and the prices of the pairs are kept by different contracts and set
by different people.  What the provider answers is determined by the log of both.

* `symbolSet`, `priceSet`: the last symbol of an asset, and the last price of a pair, in a log;
* `Allowed`: who may send a message after a log;
* `latest_prices`: after every run the provider answers for each asset with the last price of
  its last symbol, and every message of the run was sent by somebody who was allowed to.
-/

namespace AbaxLending

open Outcome

namespace FeedMessage

/-! ### The log -/

/-- The symbol that a message sets for an asset. -/
def symbol (asset : AccountId) : Env × FeedMessage → Option String
  | (_, .setAccountSymbol a symbol) => if a = asset then some symbol else none
  | _ => none

/-- The price that an entry of `set_prices` has for a pair. -/
def entryPrice (timestamp : ℕ) (pair : String) (entry : String × ℕ) : Option (ℕ × ℕ) :=
  if entry.1 = pair then some (timestamp, entry.2) else none

/-- The price that a message sets for a pair, with its time. -/
def price (pair : String) : Env × FeedMessage → Option (ℕ × ℕ)
  | (env, .setPrice p price) => entryPrice env.blockTimestamp pair (p, price)
  | (env, .setPrices pairs) => lastEntry (entryPrice env.blockTimestamp pair) pairs
  | _ => none

/-- The owner of the oracle that a message sets. -/
def owner : Env × FeedMessage → Option AccountId
  | (_, .transferOwnership newOwner) => some newOwner
  | _ => none

/-- The updater of the oracle that a message sets. -/
def updater : Env × FeedMessage → Option AccountId
  | (_, .setUpdater updater) => some updater
  | _ => none

end FeedMessage

/-- The last symbol of an asset. -/
def symbolSet (messages : List (Env × FeedMessage)) (asset : AccountId) : Option String :=
  lastEntry (FeedMessage.symbol asset) messages

/-- The last price of a pair. -/
def priceSet (messages : List (Env × FeedMessage)) (pair : String) : Option (ℕ × ℕ) :=
  lastEntry (FeedMessage.price pair) messages

/-- The last price of the last symbol of an asset. -/
def pricedAt (messages : List (Env × FeedMessage)) (asset : AccountId) : Option ℕ :=
  ((symbolSet messages asset).bind (priceSet messages)).map Prod.snd

namespace Feed

/-- Who may send a message: symbols are set by administrators of the provider, prices by the
updater of the oracle, and the updater is chosen by its owner. -/
def Allowed (owner updater : AccountId) (env : Env) : FeedMessage → Prop
  | .setAccountSymbol _ _ => env.hasRole .parametersAdmin env.caller = true
  | .transferOwnership _ | .setUpdater _ => env.caller = owner
  | .setPrice _ _ | .setPrices _ => env.caller = updater

variable {feed feed' : Feed} {env : Env} {m : FeedMessage} {messages : List (Env × FeedMessage)}
  {asset deployer oracle : AccountId} {pair : String}

/-! ### One message -/

/-- The loop of `set_prices` writes the last price that it has for a pair. -/
lemma insertPrices_get (timestamp : ℕ) (stored : Mapping String (ℕ × ℕ))
    (pairs : List (String × ℕ)) :
    (TokenPriceStorage.insertPrices timestamp stored pairs).get pair
      = lastWrite (fun entry => (FeedMessage.entryPrice timestamp pair entry).map some)
        (stored.get pair) pairs := by
  induction pairs generalizing stored with
  | nil => rfl
  | cons entry rest ih =>
      obtain ⟨p, price⟩ := entry
      rw [TokenPriceStorage.insertPrices, ih, lastWrite, lastWrite, List.foldl_cons]
      congr 1
      rw [Mapping.get_insert, FeedMessage.entryPrice]
      by_cases hp : p = pair
      · rw [if_pos hp.symm, if_pos hp]
        rfl
      · rw [if_neg (Ne.symm hp), if_neg hp]
        rfl

/-- What a message does to the symbols. -/
lemma execute_symbol (h : feed.execute env m = .ok feed') :
    feed'.provider.accountToSymbol.get asset
      = ((FeedMessage.symbol asset (env, m)).map some).getD
        (feed.provider.accountToSymbol.get asset) := by
  cases m <;> simp only [execute, bind_eq_ok, pure_eq, Except.ok.injEq] at h <;>
    obtain ⟨x, hx, rfl⟩ := h
  case setAccountSymbol a symbol =>
    simp only [PriceFeedProvider.setAccountSymbol, bind_eq_ok, pure_eq, Except.ok.injEq] at hx
    obtain ⟨_, -, rfl⟩ := hx
    rw [Mapping.get_insert, FeedMessage.symbol]
    by_cases ha : a = asset
    · rw [if_pos ha.symm, if_pos ha]
      rfl
    · rw [if_neg (Ne.symm ha), if_neg ha]
      rfl
  all_goals rfl

/-- What a message does to the prices. -/
lemma execute_price (h : feed.execute env m = .ok feed') :
    feed'.oracle.pairs.get pair
      = ((FeedMessage.price pair (env, m)).map some).getD (feed.oracle.pairs.get pair) := by
  cases m <;> simp only [execute, bind_eq_ok, pure_eq, Except.ok.injEq] at h <;>
    obtain ⟨x, hx, rfl⟩ := h
  case setPrice p price =>
    simp only [TokenPriceStorage.setPrice, bind_eq_ok, pure_eq, Except.ok.injEq] at hx
    obtain ⟨_, -, rfl⟩ := hx
    exact insertPrices_get env.blockTimestamp feed.oracle.pairs [(p, price)]
  case setPrices pairs =>
    simp only [TokenPriceStorage.setPrices, bind_eq_ok, pure_eq, Except.ok.injEq] at hx
    obtain ⟨_, -, rfl⟩ := hx
    rw [insertPrices_get, lastWrite_map_some, FeedMessage.price]
    cases lastEntry (FeedMessage.entryPrice env.blockTimestamp pair) pairs <;> rfl
  case setAccountSymbol => rfl
  case transferOwnership =>
    simp only [TokenPriceStorage.transferOwnership, bind_eq_ok, pure_eq, Except.ok.injEq] at hx
    obtain ⟨_, -, rfl⟩ := hx
    rfl
  case setUpdater =>
    simp only [TokenPriceStorage.setUpdater, bind_eq_ok, pure_eq, Except.ok.injEq] at hx
    obtain ⟨_, -, rfl⟩ := hx
    rfl

/-- What a message does to the two people of the oracle. -/
lemma execute_people (h : feed.execute env m = .ok feed') :
    feed'.oracle.owner = (FeedMessage.owner (env, m)).getD feed.oracle.owner
      ∧ feed'.oracle.updater = (FeedMessage.updater (env, m)).getD feed.oracle.updater := by
  cases m <;> simp only [execute, bind_eq_ok, pure_eq, Except.ok.injEq] at h <;>
    obtain ⟨x, hx, rfl⟩ := h
  case setAccountSymbol => exact ⟨rfl, rfl⟩
  all_goals
    simp only [TokenPriceStorage.transferOwnership, TokenPriceStorage.setUpdater,
      TokenPriceStorage.setPrice, TokenPriceStorage.setPrices, bind_eq_ok, pure_eq,
      Except.ok.injEq] at hx
    obtain ⟨_, -, rfl⟩ := hx
    exact ⟨rfl, rfl⟩

/-- The provider keeps its oracle. -/
lemma execute_oracle (h : feed.execute env m = .ok feed') :
    feed'.provider.oracle = feed.provider.oracle := by
  cases m <;> simp only [execute, bind_eq_ok, pure_eq, Except.ok.injEq] at h <;>
    obtain ⟨x, hx, rfl⟩ := h
  case setAccountSymbol =>
    simp only [PriceFeedProvider.setAccountSymbol, bind_eq_ok, pure_eq, Except.ok.injEq] at hx
    obtain ⟨_, -, rfl⟩ := hx
    rfl
  all_goals rfl

/-- A message that succeeds was sent by somebody who was allowed to. -/
lemma execute_allowed (h : feed.execute env m = .ok feed') :
    Allowed feed.oracle.owner feed.oracle.updater env m := by
  cases m <;> simp only [execute, bind_eq_ok, pure_eq, Except.ok.injEq] at h <;>
    obtain ⟨x, hx, rfl⟩ := h
  case setAccountSymbol =>
    simp only [PriceFeedProvider.setAccountSymbol, bind_eq_ok, failIf_eq_ok] at hx
    obtain ⟨-, hrole, -⟩ := hx
    simpa [Allowed] using hrole
  all_goals
    simp only [TokenPriceStorage.transferOwnership, TokenPriceStorage.setUpdater,
      TokenPriceStorage.setPrice, TokenPriceStorage.setPrices, bind_eq_ok, trapIf_eq_ok,
      not_not] at hx
    obtain ⟨_, hcaller, _⟩ := hx
    exact hcaller

/-! ### Runs -/

/-- **The feed stores the last entries of its log.** -/
lemma run_feed (h : (Feed.new deployer oracle).run messages = some feed) :
    (∀ asset, feed.provider.accountToSymbol.get asset = symbolSet messages asset)
      ∧ (∀ pair, feed.oracle.pairs.get pair = priceSet messages pair)
      ∧ feed.oracle.owner = lastWrite FeedMessage.owner deployer messages
      ∧ feed.oracle.updater = lastWrite FeedMessage.updater deployer messages
      ∧ feed.provider.oracle = some oracle := by
  refine ⟨fun asset => ?_, fun pair => ?_, ?_, ?_, ?_⟩
  · have hlast : feed.provider.accountToSymbol.get asset
        = lastWrite (fun m => (FeedMessage.symbol asset m).map some) none messages :=
      LabelledRun.run_lastWrite (fun feed : Feed => feed.provider.accountToSymbol.get asset) _
        (fun m s s' hstep => execute_symbol (toOption_eq_some.mp hstep)) h
    rw [hlast, lastWrite_map_some, Option.or_none, symbolSet]
  · have hlast : feed.oracle.pairs.get pair
        = lastWrite (fun m => (FeedMessage.price pair m).map some) none messages :=
      LabelledRun.run_lastWrite (fun feed : Feed => feed.oracle.pairs.get pair) _
        (fun m s s' hstep => execute_price (toOption_eq_some.mp hstep)) h
    rw [hlast, lastWrite_map_some, Option.or_none, priceSet]
  · exact LabelledRun.run_lastWrite (fun feed : Feed => feed.oracle.owner) FeedMessage.owner
      (fun m s s' hstep => (execute_people (toOption_eq_some.mp hstep)).1) h
  · exact LabelledRun.run_lastWrite (fun feed : Feed => feed.oracle.updater) FeedMessage.updater
      (fun m s s' hstep => (execute_people (toOption_eq_some.mp hstep)).2) h
  · refine LabelledRun.run_invariant (P := fun feed => feed.provider.oracle = some oracle)
      (fun a s s' _ hs hstep => ?_) h rfl
    rw [execute_oracle (toOption_eq_some.mp hstep), hs]

/-- Every message of a run was sent by somebody who was allowed to. -/
lemma run_allowed {before after : List (Env × FeedMessage)}
    (h : (Feed.new deployer oracle).run (before ++ (env, m) :: after) = some feed) :
    Allowed (lastWrite FeedMessage.owner deployer before)
      (lastWrite FeedMessage.updater deployer before) env m := by
  rw [run, LabelledRun.run_append, Option.bind_eq_some_iff] at h
  obtain ⟨feed₁, hbefore, hafter⟩ := h
  obtain ⟨feed₂, hm, -⟩ := LabelledRun.run_cons_eq_some.mp hafter
  obtain ⟨-, -, howner, hupdater, -⟩ := run_feed hbefore
  rw [← howner, ← hupdater]
  exact execute_allowed (toOption_eq_some.mp hm)

/-- What the provider answers with, by the log. -/
lemma getLatestPrices_eq_ok (h : (Feed.new deployer oracle).run messages = some feed)
    {assets : List AccountId} {prices : List ℕ} :
    feed.getLatestPrices assets = .ok prices
      ↔ List.Forall₂ (fun asset price => pricedAt messages asset = some price) assets prices := by
  obtain ⟨hsymbols, hprices, -, -, horacle⟩ := run_feed h
  simp only [getLatestPrices, PriceFeedProvider.getLatestPrices, bind_eq_ok, horacle, unwrap_eq_ok,
    Option.some.injEq, exists_eq_left', mapM_eq_ok_iff, okOr_eq_ok,
    TokenPriceStorage.getLatestPrices, List.forall₂_map_left_iff, hsymbols, hprices]
  constructor
  · rintro ⟨symbols, hs, hp⟩
    induction hs generalizing prices with
    | nil =>
        rw [List.forall₂_nil_left_iff.mp hp]
        exact .nil
    | @cons asset symbol assets symbols hasset hrest ih =>
        obtain ⟨price, prices, hprice, hrest', rfl⟩ := List.forall₂_cons_left_iff.mp hp
        refine .cons ?_ (ih hrest')
        rw [pricedAt, hasset, Option.bind_some, hprice]
  · intro hp
    induction hp with
    | nil => exact ⟨[], .nil, .nil⟩
    | @cons asset price assets prices hprice hrest ih =>
        obtain ⟨symbols, hs, hp⟩ := ih
        rw [pricedAt, Option.map_eq_some_iff] at hprice
        obtain ⟨entry, hentry, hvalue⟩ := hprice
        obtain ⟨symbol, hsymbol, hread⟩ := Option.bind_eq_some_iff.mp hentry
        exact ⟨symbol :: symbols, .cons hsymbol hs,
          .cons (Option.map_eq_some_iff.mpr ⟨entry, hread, hvalue⟩) hp⟩

/-- The three answers of the provider, by the log. -/
lemma getLatestPrices_cases (h : (Feed.new deployer oracle).run messages = some feed)
    (assets : List AccountId) :
    ((∃ prices, feed.getLatestPrices assets = .ok prices)
        ∧ ∀ asset ∈ assets, pricedAt messages asset ≠ none)
      ∨ (feed.getLatestPrices assets = .error (.err .noSuchAsset)
        ∧ ∃ asset ∈ assets, symbolSet messages asset = none)
      ∨ (feed.getLatestPrices assets = .error (.err .noPriceFeed)
        ∧ (∀ asset ∈ assets, symbolSet messages asset ≠ none)
        ∧ ∃ asset ∈ assets, pricedAt messages asset = none) := by
  have hok : ∀ prices, feed.getLatestPrices assets = .ok prices
      ↔ assets.mapM (fun asset => (okOr (pricedAt messages asset) () : Comp Unit ℕ))
        = .ok prices := by
    intro prices
    simp only [getLatestPrices_eq_ok h, mapM_eq_ok_iff, okOr_eq_ok]
  rcases mapM_okOr_cases (pricedAt messages) () assets with ⟨prices, hprices⟩ | hmissing
  · left
    refine ⟨⟨prices, (hok prices).mpr hprices⟩, fun asset ha hnone => ?_⟩
    cases hprices.symm.trans (mapM_okOr_eq_err.mpr ⟨asset, ha, hnone⟩)
  · right
    have hne : ∀ prices, feed.getLatestPrices assets ≠ .ok prices := by
      intro prices hprices
      cases hmissing.symm.trans ((hok prices).mp hprices)
    obtain ⟨hsymbols, -, -, -, horacle⟩ := run_feed h
    simp only [getLatestPrices, PriceFeedProvider.getLatestPrices] at hne ⊢
    rcases mapM_okOr_cases feed.provider.accountToSymbol.get PriceFeedError.noSuchAsset assets with
      ⟨symbols, hread⟩ | hread
    · right
      simp only [hread, horacle, unwrap, ok_bind] at hne ⊢
      refine ⟨?_, fun asset ha hnone => ?_, mapM_okOr_eq_err.mp hmissing⟩
      · rcases mapM_okOr_cases (Option.map Prod.snd) PriceFeedError.noPriceFeed
          (feed.oracle.getLatestPrices symbols) with ⟨prices, hprices⟩ | hfails
        · exact absurd hprices (hne prices)
        · exact hfails
      · have hunknown := (hsymbols asset).trans hnone
        cases hread.symm.trans (mapM_okOr_eq_err.mpr ⟨asset, ha, hunknown⟩)
    · left
      obtain ⟨asset, ha, hnone⟩ := mapM_okOr_eq_err.mp hread
      exact ⟨by rw [hread, error_bind], asset, ha, (hsymbols asset).symm.trans hnone⟩

/-- An asset with a price has a symbol. -/
lemma pricedAt_eq_none (h : symbolSet messages asset = none) : pricedAt messages asset = none := by
  rw [pricedAt, h]
  rfl

/-- **The prices are the last ones, set by those who were allowed to.**  After every run of
messages to a new provider and its oracle, the provider answers for each asset with the last
price of its last symbol.  It fails with `NoSuchAsset` exactly when an asset has no symbol, also
when other prices are missing, with `NoPriceFeed` when only prices are missing, and never traps.
Symbols were set by administrators, and prices by the updater that the owner chose last. -/
theorem latest_prices (h : (Feed.new deployer oracle).run messages = some feed)
    (assets : List AccountId) :
    (∀ prices, feed.getLatestPrices assets = .ok prices
        ↔ List.Forall₂ (fun asset price => pricedAt messages asset = some price) assets prices)
      ∧ (feed.getLatestPrices assets = .error (.err .noSuchAsset)
        ↔ ∃ asset ∈ assets, symbolSet messages asset = none)
      ∧ (feed.getLatestPrices assets = .error (.err .noPriceFeed)
        ↔ (∀ asset ∈ assets, symbolSet messages asset ≠ none)
          ∧ ∃ asset ∈ assets, pricedAt messages asset = none)
      ∧ feed.getLatestPrices assets ≠ .error .trap
      ∧ ∀ before env m after, messages = before ++ (env, m) :: after →
          Allowed (lastWrite FeedMessage.owner deployer before)
            (lastWrite FeedMessage.updater deployer before) env m := by
  refine ⟨fun prices => getLatestPrices_eq_ok h, ?_, ?_, ?_, ?_⟩
  case refine_4 =>
    rintro before env m after rfl
    exact run_allowed h
  all_goals
    rcases getLatestPrices_cases h assets with ⟨⟨prices, hok⟩, hpriced⟩ | ⟨herr, asset, ha, hnone⟩ |
      ⟨herr, hsymbols, hmissing⟩
  · rw [hok]
    refine iff_of_false nofun fun ⟨asset, ha, hnone⟩ => hpriced asset ha (pricedAt_eq_none hnone)
  · exact iff_of_true herr ⟨asset, ha, hnone⟩
  · rw [herr]
    exact iff_of_false nofun fun ⟨asset, ha, hnone⟩ => hsymbols asset ha hnone
  · rw [hok]
    exact iff_of_false nofun fun ⟨_, asset, ha, hnone⟩ => hpriced asset ha hnone
  · rw [herr]
    exact iff_of_false nofun fun ⟨hsymbols, _⟩ => hsymbols asset ha hnone
  · exact iff_of_true herr ⟨hsymbols, hmissing⟩
  · rw [hok]
    exact nofun
  · rw [herr]
    exact nofun
  · rw [herr]
    exact nofun

/-- Two assets get their symbols, and the new updater sets the price of one of them twice. -/
def sampleLog : List (Env × FeedMessage) := [
  (Sample.env Sample.admin 0, .setAccountSymbol (Sample.account 100) "DOT"),
  (Sample.env Sample.admin 0, .setAccountSymbol (Sample.account 101) "USDC"),
  (Sample.env Sample.admin 1, .setUpdater (Sample.account 5)),
  (Sample.env (Sample.account 5) 2, .setPrices [("DOT", E18), ("USDC", E18), ("DOT", 2 * E18)])]

/-- The provider answers with the last price of each asset of the sample. -/
theorem latest_prices_sample :
    ∃ feed, (Feed.new Sample.admin (Sample.account 7)).run sampleLog = some feed
      ∧ feed.getLatestPrices [Sample.account 100, Sample.account 101] = .ok [2 * E18, E18]
      ∧ feed.getLatestPrices [Sample.account 102] = .error (.err .noSuchAsset) := by
  have hrun : ((Feed.new Sample.admin (Sample.account 7)).run sampleLog).isSome = true := by
    decide +kernel
  obtain ⟨feed, hfeed⟩ := Option.isSome_iff_exists.mp hrun
  refine ⟨feed, hfeed, ?_, ?_⟩
  · refine ((latest_prices hfeed _).1 _).mpr (.cons ?_ (.cons ?_ .nil)) <;> decide +kernel
  · exact (latest_prices hfeed _).2.1.mpr ⟨Sample.account 102, by simp, by decide +kernel⟩

end Feed

end AbaxLending
