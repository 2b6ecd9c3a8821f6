import Mathlib.Data.List.AList
import MoneyMarket.Math

/-!
# The contract's world

What `borrow.rs` reads and writes: the call's `Env`, the market's `Config`, `State` and liability
records in storage, the messages and log of a `HandleResponse`, and what the handlers ask of
the chain (`Deps`: address conversion and the queries to the overseer, the interest model and the
bank).

A handler runs in `Exec`: from the storage, its result and the storage as the code left it, so
that a write made before a failure stays visible. The host runs a call as one transaction and
discards the writes of a failed one (`execute`).
-/

namespace MoneyMarket

/-- `cosmwasm_std::HumanAddr`. -/
structure HumanAddr where
  str : String
  deriving DecidableEq, Repr

/-- `cosmwasm_std::CanonicalAddr`, the key of a borrower's record. -/
structure CanonicalAddr where
  bytes : List UInt8
  deriving DecidableEq, Repr

/-- `cosmwasm_std::Coin`. -/
structure Coin (U : Type) where
  denom : String
  amount : U

/-- `cosmwasm_std::BankMsg`. -/
inductive BankMsg (U : Type) where
  | send (fromAddress toAddress : HumanAddr) (amount : List (Coin U))

/-- `cosmwasm_std::CosmosMsg`, the variant the market sends. -/
inductive CosmosMsg (U : Type) where
  | bank (msg : BankMsg U)

/-- `cosmwasm_std::LogAttribute`, built by `log(key, value)`. -/
structure LogAttribute where
  key : String
  value : String
  deriving DecidableEq

/-- `cosmwasm_std::HandleResponse`; its `data` is always `None` here. -/
structure HandleResponse (U : Type) where
  messages : List (CosmosMsg U)
  log : List LogAttribute

/-- `env.block`. -/
structure BlockInfo where
  height : UInt64

/-- `env.message`. -/
structure MessageInfo (U : Type) where
  sender : HumanAddr
  sentFunds : List (Coin U)

/-- `env.contract`. -/
structure ContractInfo where
  address : HumanAddr

/-- `cosmwasm_std::Env`. -/
structure Env (U : Type) where
  block : BlockInfo
  message : MessageInfo U
  contract : ContractInfo

/-- The market's `Config`, the fields `borrow.rs` reads. -/
structure Config (D : Type) where
  overseerContract : CanonicalAddr
  interestModel : CanonicalAddr
  stableDenom : String
  reserveFactor : D

/-- The market's `State`. -/
structure State (D : Type) where
  totalLiabilities : D
  totalReserves : D
  lastInterestUpdated : UInt64
  globalInterestIndex : D

/-- A borrower's `Liability`: the debt as of `interestIndex`. -/
structure Liability (U D : Type) where
  interestIndex : D
  loanAmount : U

/-- The contract's storage: the config and state singletons, and the liability bucket keyed by
canonical address. -/
structure Storage (U D : Type) where
  config : Config D
  state : State D
  liabilities : AList fun _ : CanonicalAddr => Liability U D

/-- What the handlers ask outside their storage: `deps.api`'s address conversions, and the
queries of `moneymarket` and `terraswap`, each answering with its response's field. -/
structure Deps (U D : Type) where
  canonicalAddress : HumanAddr → Except StdError CanonicalAddr
  humanAddress : CanonicalAddr → Except StdError HumanAddr
  /-- `query_borrow_rate(interest_model)`, its `rate` -/
  queryBorrowRate : HumanAddr → Except StdError D
  /-- `query_borrow_limit(overseer, borrower)`, its `borrow_limit` -/
  queryBorrowLimit : HumanAddr → HumanAddr → Except StdError U
  /-- `deduct_tax(coin)`: the coin less the tax on sending it -/
  deductTax : Coin U → Except StdError (Coin U)
  /-- `query_balance(account, denom)` -/
  queryBalance : HumanAddr → String → Except StdError U

/-- `?` on a `StdResult`. -/
instance : MonadLift (Except StdError) (Except Failure) where
  monadLift x := x.mapError .err

/-- An overflowing operation traps. -/
instance : MonadLift Option (Except Failure) where
  monadLift
    | some a => .ok a
    | none => .error .abort

/-- `.unwrap()` on a `StdResult`: an error traps. -/
def unwrap {α : Type} : Except StdError α → Except Failure α
  | .ok a => .ok a
  | .error _ => .error .abort

@[simp] theorem unwrap_eq_ok {α : Type} {x : Except StdError α} {a : α} :
    unwrap x = .ok a ↔ x = .ok a := by
  cases x <;> simp [unwrap, Except.ok.injEq]

@[simp] theorem liftStd_ok {α : Type} (a : α) :
    (monadLift (Except.ok a : Except StdError α) : Except Failure α) = .ok a := rfl

@[simp] theorem liftStd_error {α : Type} (e : StdError) :
    (monadLift (Except.error e : Except StdError α) : Except Failure α) = .error (.err e) := rfl

@[simp] theorem liftOption_some {α : Type} (a : α) :
    (monadLift (some a) : Except Failure α) = .ok a := rfl

@[simp] theorem liftOption_none {α : Type} :
    (monadLift (none : Option α) : Except Failure α) = .error .abort := rfl

@[simp] theorem liftStd_eq_ok {α : Type} {x : Except StdError α} {a : α} :
    (monadLift x : Except Failure α) = .ok a ↔ x = .ok a := by
  cases x <;> simp [Except.ok.injEq]

@[simp] theorem liftStd_eq_error {α : Type} {x : Except StdError α} {e : Failure} :
    (monadLift x : Except Failure α) = .error e ↔ ∃ e', x = .error e' ∧ e = .err e' := by
  cases x <;> simp [Except.error.injEq, eq_comm]

@[simp] theorem liftOption_eq_ok {α : Type} {x : Option α} {a : α} :
    (monadLift x : Except Failure α) = .ok a ↔ x = some a := by
  cases x <;> simp [Except.ok.injEq]

@[simp] theorem except_pure {ε α : Type} (a : α) : (pure a : Except ε α) = .ok a := rfl

@[simp] theorem except_ok_bind {ε α β : Type} (a : α) (f : α → Except ε β) :
    (Except.ok a : Except ε α) >>= f = f a := rfl

@[simp] theorem except_map_ok {ε α β : Type} (a : α) (f : α → β) :
    f <$> (Except.ok a : Except ε α) = .ok (f a) := rfl

theorem except_bind_eq_ok {ε α β : Type} {x : Except ε α} {f : α → Except ε β} {b : β} :
    x >>= f = .ok b ↔ ∃ a, x = .ok a ∧ f a = .ok b := by
  cases x <;> simp [bind, Except.bind]

/-- A handler's run over a storage `σ`. -/
def Exec (σ α : Type) := σ → Except Failure α × σ

namespace Exec

variable {σ α β : Type}

/-- Run from a storage. -/
def run (x : Exec σ α) (s : σ) : Except Failure α × σ := x s

instance : Monad (Exec σ) where
  pure a := fun s => (.ok a, s)
  bind x f := fun s => match x s with
    | (.ok a, s') => f a s'
    | (.error e, s') => (.error e, s')

/-- A step that leaves the storage alone. -/
instance : MonadLift (Except Failure) (Exec σ) where
  monadLift x := fun s => (x, s)

/-- The storage. -/
def get : Exec σ σ := fun s => (.ok s, s)

/-- Overwrite the storage. -/
def set (s : σ) : Exec σ Unit := fun _ => (.ok (), s)

/-- End the handler with a failure, keeping what it wrote. -/
def fail (e : Failure) : Exec σ α := fun s => (.error e, s)

/-- `if cond { return Err(e) }`. -/
def failIf (cond : Prop) [Decidable cond] (e : Failure) : Exec σ Unit :=
  if cond then fail e else pure ()

@[simp] theorem run_pure (a : α) (s : σ) : (pure a : Exec σ α).run s = (.ok a, s) := rfl

@[simp] theorem run_bind (x : Exec σ α) (f : α → Exec σ β) (s : σ) :
    (x >>= f).run s = match x.run s with
      | (.ok a, s') => (f a).run s'
      | (.error e, s') => (.error e, s') := rfl

@[simp] theorem run_lift (x : Except Failure α) (s : σ) :
    (monadLift x : Exec σ α).run s = (x, s) := rfl

@[simp] theorem run_get (s : σ) : (get : Exec σ σ).run s = (.ok s, s) := rfl

@[simp] theorem run_set (s s' : σ) : (set s' : Exec σ Unit).run s = (.ok (), s') := rfl

@[simp] theorem run_fail (e : Failure) (s : σ) : (fail e : Exec σ α).run s = (.error e, s) := rfl

@[simp] theorem run_failIf (cond : Prop) [Decidable cond] (e : Failure) (s : σ) :
    (failIf cond e : Exec σ Unit).run s = (if cond then .error e else .ok (), s) := by
  unfold failIf; split <;> rfl

theorem run_ite (c : Prop) [Decidable c] (x y : Exec σ α) (s : σ) :
    (if c then x else y).run s = if c then x.run s else y.run s := by
  split <;> rfl

@[simp] theorem run_liftM_failure (x : Except Failure α) (s : σ) :
    (liftM x : Exec σ α).run s = (x, s) := rfl

@[simp] theorem run_liftM_std (x : Except StdError α) (s : σ) :
    (liftM x : Exec σ α).run s = (monadLift x, s) := rfl

@[simp] theorem run_liftM_option (x : Option α) (s : σ) :
    (liftM x : Exec σ α).run s = (monadLift x, s) := rfl

theorem run_bind_eq_ok {x : Exec σ α} {f : α → Exec σ β} {s s'' : σ} {b : β} :
    (x >>= f).run s = (.ok b, s'') ↔ ∃ a s', x.run s = (.ok a, s') ∧ (f a).run s' = (.ok b, s'') := by
  simp only [run_bind]
  constructor
  · intro h
    split at h
    · exact ⟨_, _, ‹_›, h⟩
    · cases h
  · rintro ⟨a, s', h1, h2⟩
    rw [h1]
    exact h2

theorem run_bind_eq_error {x : Exec σ α} {f : α → Exec σ β} {s s'' : σ} {e : Failure} :
    (x >>= f).run s = (.error e, s'') ↔
      x.run s = (.error e, s'') ∨ ∃ a s', x.run s = (.ok a, s') ∧ (f a).run s' = (.error e, s'') := by
  simp only [run_bind]
  constructor
  · intro h
    split at h
    · exact .inr ⟨_, _, ‹_›, h⟩
    · rename_i heq
      simp only [Prod.mk.injEq, Except.error.injEq] at h
      obtain ⟨rfl, rfl⟩ := h
      exact .inl heq
  · rintro (h | ⟨a, s', h1, h2⟩)
    · rw [h]
    · rw [h1]
      exact h2

end Exec

variable {U D α : Type}

/-- A handler of the market. -/
abbrev Handler (U D α : Type) := Exec (Storage U D) α

/-- `read_config`. -/
def readConfig : Handler U D (Config D) := do return (← Exec.get).config

/-- `read_state`. -/
def readState : Handler U D (State D) := do return (← Exec.get).state

/-- Modelled from the spec: `state::read_liability`, absent from the sources. A borrower with no
record reads as owing nothing at index one. -/
def readLiability (A : Arith U D) (borrower : CanonicalAddr) : Handler U D (Liability U D) := do
  return ((← Exec.get).liabilities.lookup borrower).getD ⟨A.decimalOne, A.uintZero⟩

/-- `store_state`. -/
def storeState (state : State D) : Handler U D Unit := do
  Exec.set { (← Exec.get) with state }

/-- `store_liability`. -/
def storeLiability (borrower : CanonicalAddr) (liability : Liability U D) : Handler U D Unit := do
  let s ← Exec.get
  Exec.set { s with liabilities := s.liabilities.insert borrower liability }

/-- The record a borrower reads as. -/
def Storage.liability (A : Arith U D) (s : Storage U D) (borrower : CanonicalAddr) :
    Liability U D :=
  (s.liabilities.lookup borrower).getD ⟨A.decimalOne, A.uintZero⟩

@[simp] theorem run_readConfig (s : Storage U D) : readConfig.run s = (.ok s.config, s) := rfl

@[simp] theorem run_readState (s : Storage U D) : readState.run s = (.ok s.state, s) := rfl

@[simp] theorem run_readLiability (A : Arith U D) (k : CanonicalAddr) (s : Storage U D) :
    (readLiability A k).run s = (.ok (s.liability A k), s) := rfl

@[simp] theorem run_storeState (state : State D) (s : Storage U D) :
    (storeState state).run s = (.ok (), { s with state }) := rfl

@[simp] theorem run_storeLiability (k : CanonicalAddr) (l : Liability U D) (s : Storage U D) :
    (storeLiability k l).run s = (.ok (), { s with liabilities := s.liabilities.insert k l }) := rfl

/-- The host's transaction: a failed call is rolled back. -/
def execute (h : Handler U D α) (s : Storage U D) : Except Failure α × Storage U D :=
  match h.run s with
  | (.ok a, s') => (.ok a, s')
  | (.error e, _) => (.error e, s)

/-- Whatever the handler, the host leaves the storage as it was when the call fails. -/
theorem execute_error {h : Handler U D α} {s s' : Storage U D} {e : Failure}
    (hx : execute h s = (.error e, s')) : s' = s := by
  unfold execute at hx
  split at hx
  · cases hx
  · exact (Prod.mk.inj hx).2.symm

end MoneyMarket
