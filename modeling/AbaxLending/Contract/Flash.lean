import AbaxLending.Contract.Messages
import AbaxLending.Lib.LabelledRun

/-!
`flash.rs`: flash loans, and the runs in which they are open.

* `lendAll`, `collectAll`: the two loops of `flash_loan`.  Between them the pool calls the
  receiver and allows it to call back, so whatever the receiver does comes in as the world
  that it leaves (`ExecuteOperation`);
* `flashLoan`: the message.  All fields of the pool are lazy or mappings but one, the
  `next_counter` of the registrar: it is read with the contract when a message starts and
  written when it ends, so what the calls in between did to it is lost;
* `Session`: a world together with the flash loans that are open in it, innermost first.  A
  receiver may send any message, have tokens moved elsewhere and take further flash loans.
-/

namespace AbaxLending

open Outcome

/-! ### Errors, events and surroundings -/

/-- `FlashLoanReceiverError`. -/
inductive FlashLoanReceiverError where
  | mathErorr (e : MathError)
  | custom (text : String)
  deriving DecidableEq, Repr

/-- `LendingPoolError` as `flash_loan` returns it, with the error of a receiver. -/
inductive FlashLoanError where
  | pool (e : LendingPoolError)
  | flashLoanReceiverError (e : FlashLoanReceiverError)
  deriving DecidableEq, Repr

/-- The event `FlashLoan`. -/
structure FlashLoan where
  receiver : AccountId
  caller : AccountId
  asset : AccountId
  amount : ℕ
  fee : ℕ
  deriving DecidableEq, Repr

/-- The surroundings of a flash loan: also `FeeReduction::get_flash_loan_fee_reduction` of
the contract at an address. -/
structure FlashEnv extends Env where
  getFlashLoanFeeReduction : AccountId → AccountId → ℕ

/-- One asset of a flash loan, with the amount that is lent and the fee on it. -/
structure Lent where
  asset : AccountId
  amount : ℕ
  fee : ℕ
  deriving DecidableEq, Repr

/-- `FlashLoanReceiver::execute_operation` of a receiver, given the assets, the amounts, the
fees and the parameters: an error, or the world when it returns. -/
abbrev ExecuteOperation : Type :=
  World → List AccountId → List ℕ → List ℕ → List UInt8 → Comp FlashLoanReceiverError World

/-- `fee_part_e6`: what the fee reduction of the caller leaves. -/
def LendingPoolStorage.feePartE6 (self : LendingPoolStorage) (env : FlashEnv) : ℕ :=
  match self.feeReductionProvider with
  | some provider => E6 - env.getFlashLoanFeeReduction provider env.caller
  | none => E6

/-! ### `flash_loan` -/

section

variable [Pendzl]

/-- The fee on an amount, rounded up twice. -/
def flashFee (flashFeeE6 feePartE6 amount : ℕ) : Res ℕ := do
  let preFee ← mulDiv amount flashFeeE6 E6 .up
  mulDiv preFee feePartE6 E6 .up

namespace World

/-- The first loop of `flash_loan`. -/
def lendAll (w : World) (env : Env) (receiver : AccountId) (flashFeeE6 feePartE6 : ℕ) :
    List (AccountId × ℕ) → Res (World × List Lent)
  | [] => .ok (w, [])
  | (asset, amount) :: rest => do
      checkAmountNotZero amount
      let fee ← flashFee flashFeeE6 feePartE6 amount
      let w ← w.transferOut env asset receiver amount
      let (w, lent) ← w.lendAll env receiver flashFeeE6 feePartE6 rest
      return (w, ⟨asset, amount, fee⟩ :: lent)

/-- `flash_loan` up to the call of the receiver. -/
def lend (w : World) (env : FlashEnv) (receiver : AccountId) (assets : List AccountId)
    (amounts : List ℕ) : Res (World × List Lent) := do
  failIf (assets.length ≠ amounts.length) .vectorsInconsistentLengths
  let flashFeeE6 ← unwrap w.pool.flashLoanFeeE6
  w.lendAll env.toEnv receiver flashFeeE6 (w.pool.feePartE6 env) (assets.zip amounts)

omit [Pendzl] in
/-- The second loop of `flash_loan`.  The event names the pool as the caller. -/
def collectAll (w : World) (env : Env) (receiver : AccountId) :
    List Lent → Res (World × List FlashLoan)
  | [] => .ok (w, [])
  | ⟨asset, amount, fee⟩ :: rest => do
      let owed ← unwrap (checkedAdd 128 amount fee)
      let w ← w.transferIn env asset receiver owed
      let (w, events) ← w.collectAll env receiver rest
      return (w, ⟨receiver, w.poolAddress, asset, amount, fee⟩ :: events)

omit [Pendzl] in
/-- The world with the counter of the registrar as a message read it at its start. -/
def writeBack (w : World) (nextCounter : ℕ) : World :=
  { w with registrar := { w.registrar with nextCounter } }

/-- `flash_loan`, with what the receiver does in between; `later` is what the surroundings
answer after that. -/
def flashLoan (w : World) (env later : FlashEnv) (operation : ExecuteOperation)
    (receiver : AccountId) (assets : List AccountId) (amounts : List ℕ)
    (receiverParams : List UInt8) :
    Comp FlashLoanError (World × List FlashLoan) := do
  let nextCounter := w.registrar.nextCounter
  let (w, lent) ← mapErr .pool (w.lend env receiver assets amounts)
  let w ← mapErr .flashLoanReceiverError
    (operation w assets amounts (lent.map Lent.fee) receiverParams)
  let (w, events) ← mapErr .pool (w.collectAll later.toEnv receiver lent)
  return (w.writeBack nextCounter, events)

end World

/-! ### Sessions -/

/-- A flash loan between its two loops. -/
structure OpenLoan where
  receiver : AccountId
  lent : List Lent
  nextCounter : ℕ
  blockTimestamp : ℕ

/-- A world with the flash loans that are open in it and the events of those that ended. -/
structure Session where
  world : World
  loans : List OpenLoan
  flashLoans : List FlashLoan

/-- What can happen to a session. -/
inductive Act where
  /-- a message to the pool or to one of its tokens, from anywhere -/
  | message (env : Env) (message : Message)
  /-- calls to the underlying tokens that do not come from the pool -/
  | tokens (balanceOf : AccountId → AccountId → ℕ)
  /-- a flash loan up to the call of its receiver -/
  | lend (env : FlashEnv) (receiver : AccountId) (assets : List AccountId) (amounts : List ℕ)
  /-- the rest of the innermost flash loan -/
  | collect (env : FlashEnv)

namespace Session

/-- A session without flash loans. -/
def start (world : World) : Session := ⟨world, [], []⟩

omit [Pendzl] in
/-- The block time is that of every open flash loan. -/
def InBlock (σ : Session) (t : ℕ) : Prop := ∀ loan ∈ σ.loans, loan.blockTimestamp = t

instance (σ : Session) (t : ℕ) : Decidable (σ.InBlock t) :=
  inferInstanceAs (Decidable (∀ loan ∈ σ.loans, _))

/-- One step of a session; what fails leaves no session. -/
def step (σ : Session) : Act → Option Session
  | .message env message =>
      if σ.InBlock env.blockTimestamp then
        (σ.world.execute env message).toOption.map fun w => { σ with world := w }
      else none
  | .tokens balanceOf => some { σ with world := { σ.world with balanceOf } }
  | .lend env receiver assets amounts =>
      if σ.InBlock env.blockTimestamp then
        (σ.world.lend env receiver assets amounts).toOption.map fun res =>
          { σ with
            world := res.1
            loans := ⟨receiver, res.2, σ.world.registrar.nextCounter, env.blockTimestamp⟩
              :: σ.loans }
      else none
  | .collect env =>
      match σ.loans with
      | [] => none
      | loan :: rest =>
          if σ.InBlock env.blockTimestamp then
            (σ.world.collectAll env.toEnv loan.receiver loan.lent).toOption.map fun res =>
              ⟨res.1.writeBack loan.nextCounter, rest, σ.flashLoans ++ res.2⟩
          else none

/-- The session after a list of acts, if all of them are possible. -/
abbrev run : Session → List Act → Option Session := LabelledRun.run step

/-- The messages among a list of acts. -/
def messages : List Act → List (Env × Message) :=
  List.filterMap fun
    | .message env message => some (env, message)
    | _ => none

end Session

end

end AbaxLending
