import MoneyMarket.Contract

/-!
# `borrow.rs`

The borrow module of the market contract: accrual (`computeInterest`), projection of a record to
the current index (`computeLoan`), the three handlers that borrow and repay, and the queries.

Each `?` of the source is a `←`; an operation that overflows, a division by zero and an
`.unwrap()` of an error trap. Instantiation and the dispatch of `HandleMsg` live in
`contract.rs`, which the sources do not include; they are modelled from the spec.
-/

namespace MoneyMarket

variable {U D : Type} (A : Arith U D) (deps : Deps U D)

/-- `u64` subtraction, which traps below zero. -/
def subU64 (a b : UInt64) : Option Nat :=
  if b ≤ a then some (a.toNat - b.toNat) else none

/-- `compute_interest`: accrue the interest of the blocks passed since the last update. -/
def computeInterest (config : Config D) (state : State D) (blockHeight : UInt64) :
    Except Failure (State D) := do
  let borrowRate ← deps.queryBorrowRate (← deps.humanAddress config.interestModel)
  let passedBlocks ← subU64 blockHeight state.lastInterestUpdated
  let interestFactor ← A.decimalMultiplication (← A.fromBlocks passedBlocks) borrowRate
  let interestAccrued ← A.decimalMultiplication state.totalLiabilities interestFactor
  let globalInterestIndex ← A.decimalMultiplication state.globalInterestIndex
    (← A.decimalAdd A.decimalOne interestFactor)
  let totalLiabilities ← A.decimalAdd state.totalLiabilities interestAccrued
  let totalReserves ← A.decimalAdd state.totalReserves
    (← A.decimalMultiplication interestAccrued config.reserveFactor)
  return {
    globalInterestIndex := globalInterestIndex
    totalLiabilities := totalLiabilities
    totalReserves := totalReserves
    lastInterestUpdated := blockHeight }

/-- `compute_loan`: rescale a record's debt by the growth of the index since it was stored. -/
def computeLoan (state : State D) (liability : Liability U D) :
    Except Failure (Liability U D) := do
  let loanAmount ← A.mulDecimal liability.loanAmount
    (← A.decimalDivision state.globalInterestIndex liability.interestIndex)
  return { loanAmount := loanAmount, interestIndex := state.globalInterestIndex }

def borrowStable (env : Env U) (borrowAmount : U) (toAddr : Option HumanAddr) :
    Handler U D (HandleResponse U) := do
  let config ← readConfig
  -- Update interest related state
  let state ← readState
  let state ← computeInterest A deps config state env.block.height
  let borrower := env.message.sender
  let borrowerRaw ← deps.canonicalAddress borrower
  let liability ← readLiability A borrowerRaw
  let liability ← computeLoan A state liability
  let overseer ← deps.humanAddress config.overseerContract
  let borrowLimit ← deps.queryBorrowLimit overseer borrower
  Exec.failIf (A.lt borrowLimit (← A.add borrowAmount liability.loanAmount))
    (.err (.genericErr "Cannot borrow more than limit"))
  let liability := { liability with loanAmount := ← A.add liability.loanAmount borrowAmount }
  let state := { state with
    totalLiabilities := ← A.decimalAdd state.totalLiabilities (← A.fromAmount borrowAmount) }
  storeState state
  storeLiability borrowerRaw liability
  return {
    messages := [.bank (.send env.contract.address (toAddr.getD borrower)
      [← deps.deductTax ⟨config.stableDenom, borrowAmount⟩])]
    log := [⟨"action", "borrow_stable"⟩, ⟨"borrower", borrower.str⟩,
      ⟨"borrow_amount", A.fmt borrowAmount⟩] }

/-- `repay_stable`: repay from the stable coins sent, refunding what exceeds the debt. -/
def repayStable (env : Env U) : Handler U D (HandleResponse U) := do
  let config ← readConfig
  -- Check base denom deposit
  let amount := ((env.message.sentFunds.find? (·.denom == config.stableDenom)).map
    (·.amount)).getD A.uintZero
  -- Cannot deposit zero amount
  Exec.failIf (A.isZero amount) (.err (.genericErr "Cannot repay zero coins"))
  -- Update interest related state
  let state ← readState
  let state ← computeInterest A deps config state env.block.height
  let borrower := env.message.sender
  let borrowerRaw ← deps.canonicalAddress borrower
  let liability ← readLiability A borrowerRaw
  let liability ← computeLoan A state liability
  let (repayAmount, liability, messages) ← if A.lt liability.loanAmount amount then do
      -- Payback left repay amount to sender
      let coin ← deps.deductTax ⟨config.stableDenom, ← A.sub amount liability.loanAmount⟩
      pure (liability.loanAmount, { liability with loanAmount := A.uintZero },
        [CosmosMsg.bank (.send env.contract.address borrower [coin])])
    else do
      pure (amount, { liability with loanAmount := ← A.sub liability.loanAmount amount }, [])
  let state := { state with
    totalLiabilities := A.decimalSubtraction state.totalLiabilities (← A.fromAmount repayAmount) }
  storeLiability borrowerRaw liability
  storeState state
  return {
    messages := messages
    log := [⟨"action", "repay_stable"⟩, ⟨"borrower", borrower.str⟩,
      ⟨"repay_amount", A.fmt repayAmount⟩] }

/-- `repay_stable_from_liquidation`: the overseer repays for `borrower` with the coins that
reached the contract since it saw `prevBalance`. -/
def repayStableFromLiquidation (env : Env U) (borrower : HumanAddr) (prevBalance : U) :
    Handler U D (HandleResponse U) := do
  let config ← readConfig
  Exec.failIf (config.overseerContract ≠ (← deps.canonicalAddress env.message.sender))
    (.err .unauthorized)
  let curBalance ← deps.queryBalance env.contract.address config.stableDenom
  -- override env
  let env := { env with
    message := {
      sender := borrower
      sentFunds := [⟨config.stableDenom, ← unwrap (A.sub curBalance prevBalance)⟩] } }
  repayStable A deps env

structure LiabilityResponse (U D : Type) where
  borrower : HumanAddr
  interestIndex : D
  loanAmount : U

structure LoanAmountResponse (U : Type) where
  borrower : HumanAddr
  loanAmount : U

/-- `query_liability`: the stored record, not projected. -/
def queryLiability (s : Storage U D) (borrower : HumanAddr) :
    Except Failure (LiabilityResponse U D) := do
  let liability := s.liability A (← deps.canonicalAddress borrower)
  return {
    borrower := borrower
    interestIndex := liability.interestIndex
    loanAmount := liability.loanAmount }

/-- `query_loan_amount`: the debt accrual and projection at `blockHeight` would give, with
nothing stored. -/
def queryLoanAmount (s : Storage U D) (borrower : HumanAddr) (blockHeight : UInt64) :
    Except Failure (LoanAmountResponse U) := do
  let config := s.config
  let state := s.state
  let liability := s.liability A (← deps.canonicalAddress borrower)
  let state ← computeInterest A deps config state blockHeight
  let liability ← computeLoan A state liability
  return { borrower := borrower, loanAmount := liability.loanAmount }

/-- The `HandleMsg` variants `borrow.rs` handles. -/
inductive HandleMsg (U : Type) where
  | borrowStable (borrowAmount : U) (toAddr : Option HumanAddr)
  | repayStable
  | repayStableFromLiquidation (borrower : HumanAddr) (prevBalance : U)

/-- Modelled from the spec: the dispatch of `handle` in `contract.rs`, absent from the sources,
which routes each message to its handler. -/
def handle (env : Env U) : HandleMsg U → Handler U D (HandleResponse U)
  | .borrowStable borrowAmount toAddr => borrowStable A deps env borrowAmount toAddr
  | .repayStable => repayStable A deps env
  | .repayStableFromLiquidation borrower prevBalance =>
    repayStableFromLiquidation A deps env borrower prevBalance

/-- Modelled from the spec: `init` in `contract.rs`, absent from the sources. The pool starts with
no debt and no reserves at index one, updated at the instantiating block, and no records. -/
def instantiate (config : Config D) (height : UInt64) : Storage U D where
  config := config
  state := {
    totalLiabilities := A.decimalZero
    totalReserves := A.decimalZero
    lastInterestUpdated := height
    globalInterestIndex := A.decimalOne }
  liabilities := ∅

end MoneyMarket
