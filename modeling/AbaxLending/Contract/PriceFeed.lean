import AbaxLending.Lib.LabelledRun
import AbaxLending.Pool.Storage

/-!
The contracts behind the prices: `price_feed_provider` and the oracle that it reads.

* `TokenPriceStorage`: the oracle, which stores the last price of every pair;
* `PriceFeedProvider`: the symbols of the assets, and `get_latest_prices`;
* `Feed`: both contracts with the messages that they accept.
-/

namespace AbaxLending

open Outcome

/-! ### The oracle -/

/-- `TokenPriceStorage`: a pair has the time and the value of its last price. -/
structure TokenPriceStorage where
  owner : AccountId
  updater : AccountId
  pairs : Mapping String (ℕ × ℕ)

namespace TokenPriceStorage

/-- `TokenPriceStorage::new`: the deployer is the owner and the updater. -/
def new (caller : AccountId) : TokenPriceStorage := ⟨caller, caller, .empty⟩

variable (self : TokenPriceStorage) (env : Env)

/-- `transfer_ownership`.  As in every setter, a wrong caller traps. -/
def transferOwnership {ε : Type} (newOwner : AccountId) : Comp ε TokenPriceStorage := do
  trapIf (env.caller ≠ self.owner)
  return { self with owner := newOwner }

/-- `set_updater`. -/
def setUpdater {ε : Type} (updater : AccountId) : Comp ε TokenPriceStorage := do
  trapIf (env.caller ≠ self.owner)
  return { self with updater }

/-- `set_price`. -/
def setPrice {ε : Type} (pair : String) (price : ℕ) : Comp ε TokenPriceStorage := do
  trapIf (env.caller ≠ self.updater)
  return { self with pairs := self.pairs.insert pair (env.blockTimestamp, price) }

/-- The loop of `set_prices`: a pair that occurs twice keeps its last price. -/
def insertPrices (timestamp : ℕ) (stored : Mapping String (ℕ × ℕ)) :
    List (String × ℕ) → Mapping String (ℕ × ℕ)
  | [] => stored
  | (pair, price) :: rest =>
      insertPrices timestamp (stored.insert pair (timestamp, price)) rest

/-- `set_prices`. -/
def setPrices {ε : Type} (pairs : List (String × ℕ)) : Comp ε TokenPriceStorage := do
  trapIf (env.caller ≠ self.updater)
  return { self with pairs := insertPrices env.blockTimestamp self.pairs pairs }

/-- `get_latest_prices`. -/
def getLatestPrices (pairs : List String) : List (Option (ℕ × ℕ)) := pairs.map self.pairs.get

end TokenPriceStorage

/-! ### The provider -/

/-- `PriceFeedProvider`. -/
structure PriceFeedProvider where
  oracle : Option AccountId
  accountToSymbol : Mapping AccountId String

namespace PriceFeedProvider

/-- `PriceFeedProvider::new`: the oracle is never changed. -/
def new (oracle : AccountId) : PriceFeedProvider := ⟨some oracle, .empty⟩

variable (self : PriceFeedProvider)

/-- `set_account_symbol`. -/
def setAccountSymbol (env : Env) (asset : AccountId) (symbol : String) :
    Comp AccessControlError PriceFeedProvider := do
  failIf (env.hasRole .parametersAdmin env.caller = false) .missingRole
  return { self with accountToSymbol := self.accountToSymbol.insert asset symbol }

/-- `get_latest_prices`: all symbols are read before the oracle is asked. -/
def getLatestPrices (askOracle : AccountId → List String → List (Option (ℕ × ℕ)))
    (assets : List AccountId) : Comp PriceFeedError (List ℕ) := do
  let symbols ← assets.mapM fun asset => okOr (self.accountToSymbol.get asset) .noSuchAsset
  let oracle ← unwrap self.oracle
  (askOracle oracle symbols).mapM fun res => okOr (res.map Prod.snd) .noPriceFeed

end PriceFeedProvider

/-! ### Both contracts -/

/-- A provider and the oracle at the address that it was constructed with. -/
structure Feed where
  provider : PriceFeedProvider
  oracle : TokenPriceStorage

/-- The messages to the two contracts. -/
inductive FeedMessage where
  | setAccountSymbol (asset : AccountId) (symbol : String)
  | transferOwnership (newOwner : AccountId)
  | setUpdater (updater : AccountId)
  | setPrice (pair : String) (price : ℕ)
  | setPrices (pairs : List (String × ℕ))

namespace Feed

/-- The two contracts, deployed one after the other. -/
def new (deployer oracle : AccountId) : Feed := ⟨.new oracle, .new deployer⟩

variable (self : Feed)

/-- The feed that a message leaves. -/
def execute (env : Env) : FeedMessage → Comp AccessControlError Feed
  | .setAccountSymbol asset symbol => do
      return { self with provider := ← self.provider.setAccountSymbol env asset symbol }
  | .transferOwnership newOwner => do
      return { self with oracle := ← self.oracle.transferOwnership env newOwner }
  | .setUpdater updater => do
      return { self with oracle := ← self.oracle.setUpdater env updater }
  | .setPrice pair price => do
      return { self with oracle := ← self.oracle.setPrice env pair price }
  | .setPrices pairs => do
      return { self with oracle := ← self.oracle.setPrices env pairs }

/-- The feed after messages that all succeed. -/
abbrev run (self : Feed) (messages : List (Env × FeedMessage)) : Option Feed :=
  LabelledRun.run (fun (feed : Feed) (m : Env × FeedMessage) =>
    (feed.execute m.1 m.2).toOption) self messages

/-- The answer of the provider to the pool. -/
def getLatestPrices (assets : List AccountId) : Comp PriceFeedError (List ℕ) :=
  self.provider.getLatestPrices (fun _ => self.oracle.getLatestPrices) assets

end Feed

end AbaxLending
