import AbaxLending.Contract.Flash
import AbaxLending.Contract.Messages
import AbaxLending.Contract.PriceFeed
import AbaxLending.Contract.Run
import AbaxLending.Contract.Token
import AbaxLending.Contract.Views
import AbaxLending.Effects.Accruals
import AbaxLending.Effects.Allowances
import AbaxLending.Effects.Approvals
import AbaxLending.Effects.Banking
import AbaxLending.Effects.Batches
import AbaxLending.Effects.BlockOrder
import AbaxLending.Effects.Caps
import AbaxLending.Effects.Cash
import AbaxLending.Effects.CheckArithmetic
import AbaxLending.Effects.Closing
import AbaxLending.Effects.Compounding
import AbaxLending.Effects.Consent
import AbaxLending.Effects.CreditCheck
import AbaxLending.Effects.Credits
import AbaxLending.Effects.Entries
import AbaxLending.Effects.Erasure
import AbaxLending.Effects.Exits
import AbaxLending.Effects.FlashLoans
import AbaxLending.Effects.FullSum
import AbaxLending.Effects.Governance
import AbaxLending.Effects.Liquidation
import AbaxLending.Effects.LiquidationGuard
import AbaxLending.Effects.Padding
import AbaxLending.Effects.Payout
import AbaxLending.Effects.Pokes
import AbaxLending.Effects.Postings
import AbaxLending.Effects.PowerRounding
import AbaxLending.Effects.PriceDemand
import AbaxLending.Effects.Prices
import AbaxLending.Effects.RateChange
import AbaxLending.Effects.RateRange
import AbaxLending.Effects.Reconciliation
import AbaxLending.Effects.Registrar
import AbaxLending.Effects.Seizure
import AbaxLending.Effects.Settlements
import AbaxLending.Effects.StoredViews
import AbaxLending.Effects.TransferAmounts
import AbaxLending.Effects.TransferCheck
import AbaxLending.Effects.TransferEvents
import AbaxLending.Effects.TransferFrame
import AbaxLending.Effects.Views
import AbaxLending.Effects.WindowSearch
import AbaxLending.Invariants.Amounts
import AbaxLending.Invariants.Backing
import AbaxLending.Invariants.Bits
import AbaxLending.Invariants.Choices
import AbaxLending.Invariants.Covers
import AbaxLending.Invariants.FreeCollateral
import AbaxLending.Invariants.Income
import AbaxLending.Invariants.Indexes
import AbaxLending.Invariants.Listing
import AbaxLending.Invariants.Minimal
import AbaxLending.Invariants.Occupied
import AbaxLending.Invariants.OwnBits
import AbaxLending.Invariants.Phantoms
import AbaxLending.Invariants.RateBand
import AbaxLending.Invariants.Registry
import AbaxLending.Invariants.Rules
import AbaxLending.Invariants.Slots
import AbaxLending.Invariants.Solvency
import AbaxLending.Invariants.Supply
import AbaxLending.Invariants.Switches
import AbaxLending.Invariants.Totals
import AbaxLending.Invariants.Utilization
import AbaxLending.Invariants.Vectors
import AbaxLending.Lib.Bitmap
import AbaxLending.Lib.Book
import AbaxLending.Lib.Commuting
import AbaxLending.Lib.Indexed
import AbaxLending.Lib.LabelledRun
import AbaxLending.Lib.LastWrite
import AbaxLending.Lib.Mapping
import AbaxLending.Lib.Numbering
import AbaxLending.Lib.Outcome
import AbaxLending.Lib.RingBuffer
import AbaxLending.Lib.Rounding
import AbaxLending.Lib.TimedRun
import AbaxLending.Math
import AbaxLending.Pool.Accounting
import AbaxLending.Pool.Collateral
import AbaxLending.Pool.Manage
import AbaxLending.Pool.Storage
import AbaxLending.Spec.Accrual
import AbaxLending.Spec.Actions
import AbaxLending.Spec.Bank
import AbaxLending.Spec.Blocks
import AbaxLending.Spec.Changes
import AbaxLending.Spec.Charges
import AbaxLending.Spec.Flash
import AbaxLending.Spec.Interest
import AbaxLending.Spec.Ledger
import AbaxLending.Spec.Manage
import AbaxLending.Spec.Messages
import AbaxLending.Spec.Positions
import AbaxLending.Spec.Power
import AbaxLending.Spec.PowerSum
import AbaxLending.Spec.RateCurve
import AbaxLending.Spec.Replays
import AbaxLending.Spec.Reserve
import AbaxLending.Spec.Settings
import AbaxLending.Spec.Settlement
import AbaxLending.Spec.Steps
import AbaxLending.Spec.Transfers
import AbaxLending.Spec.Views
import AbaxLending.Spec.Visits
import AbaxLending.Spec.Worth
import AbaxLending.Spec.Writes
import AbaxLending.Structs.Account
import AbaxLending.Structs.Rates
import AbaxLending.Structs.Reserve
