import MoneyMarket.Drift

/-!
# What a borrow and a repay do

A call whose every step succeeds returns what its inversion lemma says (`borrowStable_run_of`,
`repayStable_run_of`).

A successful `borrow_stable` passed the limit check on the projected debt plus the amount, a sum
taken without wrapping, so the record it stores never exceeds the limit the overseer reported
(`borrowStable_within_limit`); the coin it sends is the amount less tax
(`borrowStable_sends_after_tax`). It fails only where it asks for something that can fail: the
accrual, the sender's address, the projection, the overseer's limit and the tax on the coin it
sends; where the limit check refuses; and where the liabilities plus the amount would overflow a
`Decimal` (`borrowStable_ok_iff`). Within a limit that is a `u128` neither sum of the debt and
the amount wraps, and the refusal "Cannot borrow more than limit" comes exactly when the debt plus
the amount passes the limit (`borrowStable_refused_iff`).

A successful `repay_stable` of `a` against a projected debt `p` repays `min a p`, keeps the rest of
the debt, takes the repaid amount off the liabilities, clamped at zero, and refunds what exceeds
the debt, less tax (`RepaidAs`, `repayStable_settles_min`); `repay_stable_from_liquidation` does
the same for the borrower it names with the coins that reached the contract. A repay refuses zero
coins, and otherwise fails only where it asks for something that can fail: the accrual, the
sender's address, the projection and, where the amount exceeds the debt, the tax on the refund
(`repayStable_ok_iff`). Its settlement never traps: it repays at most the projected debt, which
times one fits a `u128` since `multiply_ratio` checked that product, and `decimal_subtraction`
clamps the liabilities at zero. So liabilities that drifted below the debts never block a repay.

`query_loan_amount` accrues and projects as the handlers do, so what it answers is the debt the
handlers settle against, which the borrower can always repay in full with no refund to tax
(`queryLoanAmount_eq_projection`).
-/

namespace MoneyMarket

section Forward

variable {U D : Type} {A : Arith U D} {deps : Deps U D} {env : Env U} {s : Storage U D}

theorem borrowStable_run_of {a : U} {toAddr : Option HumanAddr} {st : State D}
    {raw : CanonicalAddr} {l : Liability U D} {overseer : HumanAddr} {limit sum loan : U}
    {amt total : D} {coin : Coin U}
    (h1 : computeInterest A deps s.config s.state env.block.height = .ok st)
    (h2 : deps.canonicalAddress env.message.sender = .ok raw)
    (h3 : computeLoan A st (s.liability A raw) = .ok l)
    (h4 : deps.humanAddress s.config.overseerContract = .ok overseer)
    (h5 : deps.queryBorrowLimit overseer env.message.sender = .ok limit)
    (h6 : A.add a l.loanAmount = some sum) (h7 : A.lt limit sum = false)
    (h8 : A.add l.loanAmount a = some loan) (h9 : A.fromAmount a = some amt)
    (h10 : A.decimalAdd st.totalLiabilities amt = some total)
    (h11 : deps.deductTax ⟨s.config.stableDenom, a⟩ = .ok coin) :
    (borrowStable A deps env a toAddr).run s =
      (.ok { messages := [.bank (.send env.contract.address (toAddr.getD env.message.sender) [coin])]
             log := [⟨"action", "borrow_stable"⟩, ⟨"borrower", env.message.sender.str⟩,
               ⟨"borrow_amount", A.fmt a⟩] },
        s.write raw { st with totalLiabilities := total } { l with loanAmount := loan }) := by
  simp only [borrowStable, Exec.run_bind, run_readConfig, run_readState, Exec.run_lift,
    Exec.run_liftM_std, Exec.run_liftM_option, run_readLiability, Exec.run_failIf, run_storeState,
    run_storeLiability, Exec.run_pure, liftStd_ok, liftOption_some, Bool.false_eq_true, ↓reduceIte,
    Storage.write, *]

theorem repayStable_run_of {st : State D} {raw : CanonicalAddr} {l : Liability U D}
    {repay loanLeft : U} {messages : List (CosmosMsg U)} {amt : D}
    (hz : A.isZero (stableSent A s.config.stableDenom env.message.sentFunds) = false)
    (h1 : computeInterest A deps s.config s.state env.block.height = .ok st)
    (h2 : deps.canonicalAddress env.message.sender = .ok raw)
    (h3 : computeLoan A st (s.liability A raw) = .ok l)
    (h4 : RepaySplit A deps s.config.stableDenom env.contract.address env.message.sender
      (stableSent A s.config.stableDenom env.message.sentFunds) l.loanAmount repay loanLeft messages)
    (h5 : A.fromAmount repay = some amt) :
    (repayStable A deps env).run s =
      (.ok { messages := messages
             log := [⟨"action", "repay_stable"⟩, ⟨"borrower", env.message.sender.str⟩,
               ⟨"repay_amount", A.fmt repay⟩] },
        s.write raw { st with totalLiabilities := A.decimalSubtraction st.totalLiabilities amt }
          { l with loanAmount := loanLeft }) := by
  unfold stableSent at hz h4
  rcases h4 with ⟨hlt, rfl, rfl, refund, coin, hsub, htax, rfl⟩ | ⟨hlt, rfl, hsub, rfl⟩
  all_goals simp only [repayStable, Exec.run_bind, run_readConfig, run_readState,
    Exec.run_lift, Exec.run_liftM_std, Exec.run_liftM_option, run_readLiability, Exec.run_failIf,
    run_storeState, run_storeLiability, Exec.run_pure, liftStd_ok, liftOption_some,
    Bool.false_eq_true, ↓reduceIte, Storage.write, *]

theorem repayStableFromLiquidation_run_of {borrower : HumanAddr} {prevBalance curBalance amount : U}
    (hauth : deps.canonicalAddress env.message.sender = .ok s.config.overseerContract)
    (hbal : deps.queryBalance env.contract.address s.config.stableDenom = .ok curBalance)
    (hsub : A.sub curBalance prevBalance = .ok amount) :
    (repayStableFromLiquidation A deps env borrower prevBalance).run s =
      (repayStable A deps { env with
        message := { sender := borrower, sentFunds := [⟨s.config.stableDenom, amount⟩] } }).run s := by
  simp [repayStableFromLiquidation, hauth, hbal, hsub, unwrap]

end Forward

section Fixed

variable {deps : Deps Uint128 Decimal} {env : Env Uint128} {s s' : Storage Uint128 Decimal}
  {r : HandleResponse Uint128}

/-- A successful borrow stays within the overseer's limit, stores the debt plus the amount, and
sends the amount less tax. -/
theorem borrowStable_within_limit {a : Uint128} {toAddr : Option HumanAddr}
    (h : (borrowStable fixed deps env a toAddr).run s = (.ok r, s')) :
    ∃ st raw l limit coin,
      computeInterest fixed deps s.config s.state env.block.height = .ok st ∧
      deps.canonicalAddress env.message.sender = .ok raw ∧
      computeLoan fixed st (s.liability fixed raw) = .ok l ∧
      (deps.humanAddress s.config.overseerContract >>= fun overseer =>
        deps.queryBorrowLimit overseer env.message.sender) = .ok limit ∧
      l.loanAmount.val + a.val ≤ limit.val ∧
      (s'.liability fixed raw).interestIndex = st.globalInterestIndex ∧
      (s'.liability fixed raw).loanAmount.val = l.loanAmount.val + a.val ∧
      (s'.liability fixed raw).loanAmount.val ≤ limit.val ∧
      s'.state = { st with totalLiabilities := s'.state.totalLiabilities } ∧
      s'.state.totalLiabilities.raw = st.totalLiabilities.raw + a.val * decimalFractional ∧
      deps.deductTax ⟨s.config.stableDenom, a⟩ = .ok coin ∧
      r.messages = [.bank (.send env.contract.address (toAddr.getD env.message.sender) [coin])] := by
  obtain ⟨st, raw, l, overseer, limit, sum, loan, amt, total, coin, h1, h2, h3, h4, h5, h6, h7, h8,
    h9, h10, h11, rfl, rfl⟩ := borrowStable_eq_ok h
  rw [fixed.add_eq_some] at h6 h8
  rw [fixed.fromAmount_eq_some] at h9
  rw [fixed.decimalAdd_eq_some] at h10
  have hle : l.loanAmount.val + a.val ≤ limit.val := by
    have := h7
    simp only [MoneyMarket.fixed, decide_eq_false_iff_not, Nat.not_lt] at this
    omega
  refine ⟨st, raw, l, limit, coin, ?_⟩
  simp only [Storage.liability_write_self, Storage.write_state, h8]
  exact ⟨h1, h2, h3, by rw [h4]; exact h5, hle, (computeLoan_fixed h3).2.1, trivial, hle, trivial,
    by rw [h10, h9], h11, trivial⟩

theorem borrowStable_within_limit_demo :
    let deps := demoDeps ⟨10 ^ 16, by decide⟩ ⟨100, by decide⟩ Uint128.zero
    let env := demoEnv 1 "b" []
    let s := instantiate fixed demoConfig 0
    let run := (borrowStable fixed deps env ⟨5, by decide⟩ none).run s
    let r : HandleResponse Uint128 :=
      ⟨[.bank (.send ⟨"market"⟩ ⟨"b"⟩ [⟨"uusd", ⟨5, by decide⟩⟩])],
        [⟨"action", "borrow_stable"⟩, ⟨"borrower", "b"⟩, ⟨"borrow_amount", "5"⟩]⟩
    run = (.ok r, run.2) ∧
    ∃ st raw l limit coin,
      computeInterest fixed deps s.config s.state env.block.height = .ok st ∧
      deps.canonicalAddress env.message.sender = .ok raw ∧
      computeLoan fixed st (s.liability fixed raw) = .ok l ∧
      (deps.humanAddress s.config.overseerContract >>= fun overseer =>
        deps.queryBorrowLimit overseer env.message.sender) = .ok limit ∧
      l.loanAmount.val + 5 ≤ limit.val ∧
      (run.2.liability fixed raw).interestIndex = st.globalInterestIndex ∧
      (run.2.liability fixed raw).loanAmount.val = l.loanAmount.val + 5 ∧
      (run.2.liability fixed raw).loanAmount.val ≤ limit.val ∧
      run.2.state = { st with totalLiabilities := run.2.state.totalLiabilities } ∧
      run.2.state.totalLiabilities.raw = st.totalLiabilities.raw + 5 * decimalFractional ∧
      deps.deductTax ⟨s.config.stableDenom, ⟨5, by decide⟩⟩ = .ok coin ∧
      r.messages = [.bank (.send env.contract.address (none.getD env.message.sender) [coin])] :=
  have h : (borrowStable fixed (demoDeps ⟨10 ^ 16, by decide⟩ ⟨100, by decide⟩ Uint128.zero)
      (demoEnv 1 "b" []) ⟨5, by decide⟩ none).run (instantiate fixed demoConfig 0) =
        (.ok ⟨[.bank (.send ⟨"market"⟩ ⟨"b"⟩ [⟨"uusd", ⟨5, by decide⟩⟩])],
          [⟨"action", "borrow_stable"⟩, ⟨"borrower", "b"⟩, ⟨"borrow_amount", "5"⟩]⟩,
        ((borrowStable fixed (demoDeps ⟨10 ^ 16, by decide⟩ ⟨100, by decide⟩ Uint128.zero)
          (demoEnv 1 "b" []) ⟨5, by decide⟩ none).run (instantiate fixed demoConfig 0)).2) := rfl
  ⟨h, borrowStable_within_limit h⟩

/-- Borrowing 5 under a tax of 1: the message sends 4. -/
theorem borrowStable_sends_after_tax :
    ((borrowStable fixed (demoDeps ⟨10 ^ 16, by decide⟩ ⟨100, by decide⟩ ⟨1, by decide⟩)
      (demoEnv 1 "b" []) ⟨5, by decide⟩ none).run (instantiate fixed demoConfig 0)).1.map
        (·.messages) = .ok [.bank (.send ⟨"market"⟩ ⟨"b"⟩ [⟨"uusd", ⟨4, by decide⟩⟩])] :=
  rfl

theorem borrowStable_run_fixed {a : Uint128} {toAddr : Option HumanAddr} {st : State Decimal}
    {raw : CanonicalAddr} {l : Liability Uint128 Decimal} {overseer : HumanAddr} {limit : Uint128}
    {coin : Coin Uint128}
    (h1 : computeInterest fixed deps s.config s.state env.block.height = .ok st)
    (h2 : deps.canonicalAddress env.message.sender = .ok raw)
    (h3 : computeLoan fixed st (s.liability fixed raw) = .ok l)
    (h4 : deps.humanAddress s.config.overseerContract = .ok overseer)
    (h5 : deps.queryBorrowLimit overseer env.message.sender = .ok limit)
    (hle : l.loanAmount.val + a.val ≤ limit.val)
    (hfit : st.totalLiabilities.raw + a.val * decimalFractional < 2 ^ 128)
    (h11 : deps.deductTax ⟨s.config.stableDenom, a⟩ = .ok coin) :
    ∃ loan total, loan.val = l.loanAmount.val + a.val ∧
      total.raw = st.totalLiabilities.raw + a.val * decimalFractional ∧
      ∃ r, (borrowStable fixed deps env a toAddr).run s = (.ok r,
        s.write raw { st with totalLiabilities := total } { l with loanAmount := loan }) := by
  -- within a limit that is a `u128`, neither sum of the debt and the amount wraps
  have hsum : a.val + l.loanAmount.val < 2 ^ 128 := by
    have := limit.isLt
    omega
  have hloan : l.loanAmount.val + a.val < 2 ^ 128 := by omega
  have hamt : a.val * decimalFractional < 2 ^ 128 := by omega
  have hcheck : fixed.lt limit ⟨_, hsum⟩ = false :=
    Bool.eq_false_iff.2 fun h0 => absurd (fixed.lt_eq_true.1 h0) (by dsimp only; omega)
  exact ⟨⟨_, hloan⟩, ⟨_, hfit⟩, rfl, rfl, _, borrowStable_run_of h1 h2 h3 h4 h5
    (fixed.add_eq_some.2 rfl : fixed.add a l.loanAmount = some ⟨_, hsum⟩) hcheck
    (fixed.add_eq_some.2 rfl : fixed.add l.loanAmount a = some ⟨_, hloan⟩)
    (fixed.fromAmount_eq_some.2 rfl : fixed.fromAmount a = some ⟨_, hamt⟩)
    (fixed.decimalAdd_eq_some.2 rfl :
      fixed.decimalAdd st.totalLiabilities ⟨_, hamt⟩ = some ⟨_, hfit⟩) h11⟩

theorem RepaySplit.fixed_min {denom : String} {contract borrower : HumanAddr}
    {amount loan repay loanLeft : Uint128} {messages : List (CosmosMsg Uint128)}
    (h : RepaySplit fixed deps denom contract borrower amount loan repay loanLeft messages) :
    repay.val = min amount.val loan.val ∧ loanLeft.val = loan.val - repay.val ∧
      (loan.val < amount.val → ∃ refund coin, refund.val = amount.val - repay.val ∧
        deps.deductTax ⟨denom, refund⟩ = .ok coin ∧
        messages = [.bank (.send contract borrower [coin])]) ∧
      (amount.val ≤ loan.val → messages = []) := by
  rcases h with ⟨hlt, rfl, rfl, refund, coin, hsub, htax, rfl⟩ | ⟨hlt, hrep, hsub, rfl⟩
  · rw [fixed.lt_eq_true] at hlt
    exact ⟨(min_eq_right hlt.le).symm, (Nat.sub_self _).symm,
      fun _ => ⟨refund, coin, (fixed.sub_eq_ok.1 hsub).2, htax, rfl⟩,
      fun h => absurd hlt (Nat.not_lt.2 h)⟩
  · subst repay
    have hle : amount.val ≤ loan.val := Nat.not_lt.1 fun h => by
      rw [fixed.lt_eq_true.2 h] at hlt
      cases hlt
    exact ⟨(min_eq_left hle).symm, (fixed.sub_eq_ok.1 hsub).2,
      fun h => absurd h (Nat.not_lt.2 hle), fun _ => rfl⟩

theorem RepaySplit.exists_fixed_of {denom : String} {contract borrower : HumanAddr}
    {amount loan : Uint128}
    (htax : loan.val < amount.val → ∃ refund coin, refund.val = amount.val - loan.val ∧
      deps.deductTax ⟨denom, refund⟩ = .ok coin) :
    ∃ repay loanLeft messages, repay.val ≤ loan.val ∧
      RepaySplit fixed deps denom contract borrower amount loan repay loanLeft messages := by
  by_cases hover : loan.val < amount.val
  · obtain ⟨refund, coin, hrefund, hcoin⟩ := htax hover
    exact ⟨_, _, _, le_rfl, .inl ⟨fixed.lt_eq_true.2 hover, rfl, rfl, refund, coin,
      fixed.sub_eq_ok.2 ⟨hover.le, hrefund⟩, hcoin, rfl⟩⟩
  · exact ⟨_, ⟨loan.val - amount.val, (Nat.sub_le _ _).trans_lt loan.isLt⟩, _, Nat.not_lt.1 hover,
      .inr ⟨Bool.eq_false_iff.2 fun h0 => hover (fixed.lt_eq_true.1 h0), rfl,
        fixed.sub_eq_ok.2 ⟨Nat.not_lt.1 hover, rfl⟩, rfl⟩⟩

theorem RepaySplit.exists_fixed {denom : String} {contract borrower : HumanAddr}
    {amount loan : Uint128}
    (htax : ∀ refund : Uint128, ∃ coin, deps.deductTax ⟨denom, refund⟩ = .ok coin) :
    ∃ repay loanLeft messages,
      RepaySplit fixed deps denom contract borrower amount loan repay loanLeft messages :=
  let ⟨repay, loanLeft, messages, _, h⟩ := RepaySplit.exists_fixed_of fun _ =>
    let ⟨coin, hc⟩ := htax ⟨amount.val - loan.val, (Nat.sub_le _ _).trans_lt amount.isLt⟩
    ⟨_, coin, rfl, hc⟩
  ⟨repay, loanLeft, messages, h⟩

/-- What a successful repay of `a` for `borrower` leaves, with `p` the borrower's debt projected
after accrual: it repays `min a p`, keeps `p - min a p` at the accrued index, takes the repaid
amount off the accrued liabilities, clamped at zero, and, where `a` exceeds `p`, sends the
borrower the coin `deduct_tax` leaves of `a - min a p`. -/
def RepaidAs (deps : Deps Uint128 Decimal) (s : Storage Uint128 Decimal)
    (contract borrower : HumanAddr) (height : UInt64) (a : Nat) (r : HandleResponse Uint128)
    (s' : Storage Uint128 Decimal) : Prop :=
  ∃ st raw l,
    computeInterest fixed deps s.config s.state height = .ok st ∧
    deps.canonicalAddress borrower = .ok raw ∧
    computeLoan fixed st (s.liability fixed raw) = .ok l ∧
    (s'.liability fixed raw).loanAmount.val = l.loanAmount.val - min a l.loanAmount.val ∧
    (s'.liability fixed raw).interestIndex = st.globalInterestIndex ∧
    s'.state.totalLiabilities.raw =
      st.totalLiabilities.raw - min a l.loanAmount.val * decimalFractional ∧
    r.log = [⟨"action", "repay_stable"⟩, ⟨"borrower", borrower.str⟩,
      ⟨"repay_amount", toString (min a l.loanAmount.val)⟩] ∧
    (l.loanAmount.val < a → ∃ refund coin, refund.val = a - min a l.loanAmount.val ∧
      deps.deductTax ⟨s.config.stableDenom, refund⟩ = .ok coin ∧
      r.messages = [.bank (.send contract borrower [coin])]) ∧
    (a ≤ l.loanAmount.val → r.messages = [])

theorem repayStable_repaidAs (h : (repayStable fixed deps env).run s = (.ok r, s')) :
    RepaidAs deps s env.contract.address env.message.sender env.block.height
      (stableSent fixed s.config.stableDenom env.message.sentFunds).val r s' := by
  obtain ⟨st, raw, l, repay, loanLeft, messages, amt, -, h1, h2, h3, hsplit, hamt, rfl, rfl⟩ :=
    repayStable_eq_ok h
  obtain ⟨hrep, hleft, hover, hunder⟩ := hsplit.fixed_min
  rw [fixed.fromAmount_eq_some] at hamt
  refine ⟨st, raw, l, h1, h2, h3, ?_⟩
  simp only [Storage.liability_write_self, Storage.write_state, fixed.decimalSubtraction_raw, hamt,
    ← hrep]
  exact ⟨hleft, (computeLoan_fixed h3).2.1, trivial, rfl, hover, hunder⟩

theorem repayStable_zero
    (hz : fixed.isZero (stableSent fixed s.config.stableDenom env.message.sentFunds) = true) :
    (repayStable fixed deps env).run s =
      (.error (.err (.genericErr "Cannot repay zero coins")), s) := by
  unfold stableSent at hz
  simp [repayStable, hz]

@[simp] theorem stableSent_single (denom : String) (amount : Uint128) :
    stableSent fixed denom [⟨denom, amount⟩] = amount := by
  simp only [stableSent, List.find?_cons, beq_self_eq_true, Option.map_some', Option.getD_some]

theorem repayStableFromLiquidation_repaidAs {borrower : HumanAddr} {prevBalance : Uint128}
    (h : (repayStableFromLiquidation fixed deps env borrower prevBalance).run s = (.ok r, s')) :
    ∃ curBalance, deps.canonicalAddress env.message.sender = .ok s.config.overseerContract ∧
      deps.queryBalance env.contract.address s.config.stableDenom = .ok curBalance ∧
      prevBalance.val ≤ curBalance.val ∧
      RepaidAs deps s env.contract.address borrower env.block.height
        (curBalance.val - prevBalance.val) r s' := by
  obtain ⟨cur, amount, h1, h2, h3, h4⟩ := repayStableFromLiquidation_eq_ok h
  obtain ⟨hle, hamount⟩ := fixed.sub_eq_ok.1 h3
  have := repayStable_repaidAs h4
  rw [stableSent_single, hamount] at this
  exact ⟨cur, h1, h2, hle, this⟩

theorem repayStable_ok_of {st : State Decimal} {raw : CanonicalAddr} {l : Liability Uint128 Decimal}
    (hpos : 0 < (stableSent fixed s.config.stableDenom env.message.sentFunds).val)
    (h1 : computeInterest fixed deps s.config s.state env.block.height = .ok st)
    (h2 : deps.canonicalAddress env.message.sender = .ok raw)
    (h3 : computeLoan fixed st (s.liability fixed raw) = .ok l)
    (htax : l.loanAmount.val < (stableSent fixed s.config.stableDenom env.message.sentFunds).val →
      ∃ refund coin, refund.val =
          (stableSent fixed s.config.stableDenom env.message.sentFunds).val - l.loanAmount.val ∧
        deps.deductTax ⟨s.config.stableDenom, refund⟩ = .ok coin) :
    ∃ r s', (repayStable fixed deps env).run s = (.ok r, s') := by
  obtain ⟨repay, loanLeft, messages, hle, hsplit⟩ := RepaySplit.exists_fixed_of htax
  have hfit : repay.val * decimalFractional < 2 ^ 128 :=
    (Nat.mul_le_mul_right _ hle).trans_lt (computeLoan_fit h3)
  have hz : fixed.isZero (stableSent fixed s.config.stableDenom env.message.sentFunds) = false :=
    Bool.eq_false_iff.2 fun h0 => (Nat.pos_iff_ne_zero.1 hpos) (fixed.isZero_eq_true.1 h0)
  exact ⟨_, _, repayStable_run_of hz h1 h2 h3 hsplit
    (fixed.fromAmount_eq_some.2 rfl : fixed.fromAmount repay = some ⟨_, hfit⟩)⟩

/-- `repay_stable` refuses a zero repay, goes through otherwise as far as its queries answer, and
settles as `RepaidAs` says; so does the overseer's liquidation. -/
theorem repayStable_settles_min :
    (fixed.isZero (stableSent fixed s.config.stableDenom env.message.sentFunds) = true →
      (repayStable fixed deps env).run s =
        (.error (.err (.genericErr "Cannot repay zero coins")), s)) ∧
    (∀ st raw l, 0 < (stableSent fixed s.config.stableDenom env.message.sentFunds).val →
      computeInterest fixed deps s.config s.state env.block.height = .ok st →
      deps.canonicalAddress env.message.sender = .ok raw →
      computeLoan fixed st (s.liability fixed raw) = .ok l →
      (l.loanAmount.val < (stableSent fixed s.config.stableDenom env.message.sentFunds).val →
        ∃ refund coin, refund.val =
            (stableSent fixed s.config.stableDenom env.message.sentFunds).val - l.loanAmount.val ∧
          deps.deductTax ⟨s.config.stableDenom, refund⟩ = .ok coin) →
      ∃ r s', (repayStable fixed deps env).run s = (.ok r, s')) ∧
    (∀ r s', (repayStable fixed deps env).run s = (.ok r, s') →
      RepaidAs deps s env.contract.address env.message.sender env.block.height
        (stableSent fixed s.config.stableDenom env.message.sentFunds).val r s') ∧
    (∀ borrower prevBalance curBalance st raw l,
      deps.canonicalAddress env.message.sender = .ok s.config.overseerContract →
      deps.queryBalance env.contract.address s.config.stableDenom = .ok curBalance →
      prevBalance.val < curBalance.val →
      computeInterest fixed deps s.config s.state env.block.height = .ok st →
      deps.canonicalAddress borrower = .ok raw →
      computeLoan fixed st (s.liability fixed raw) = .ok l →
      (l.loanAmount.val < curBalance.val - prevBalance.val → ∃ refund coin,
        refund.val = curBalance.val - prevBalance.val - l.loanAmount.val ∧
        deps.deductTax ⟨s.config.stableDenom, refund⟩ = .ok coin) →
      ∃ r s', (repayStableFromLiquidation fixed deps env borrower prevBalance).run s = (.ok r, s')) ∧
    (∀ borrower prevBalance r s',
      (repayStableFromLiquidation fixed deps env borrower prevBalance).run s = (.ok r, s') →
      ∃ curBalance, deps.canonicalAddress env.message.sender = .ok s.config.overseerContract ∧
        deps.queryBalance env.contract.address s.config.stableDenom = .ok curBalance ∧
        prevBalance.val ≤ curBalance.val ∧
        RepaidAs deps s env.contract.address borrower env.block.height
          (curBalance.val - prevBalance.val) r s') ∧
    (∀ borrower prevBalance,
      deps.canonicalAddress env.message.sender = .ok s.config.overseerContract →
      deps.queryBalance env.contract.address s.config.stableDenom = .ok prevBalance →
      (repayStableFromLiquidation fixed deps env borrower prevBalance).run s =
        (.error (.err (.genericErr "Cannot repay zero coins")), s)) := by
  refine ⟨repayStable_zero, fun _ _ _ => repayStable_ok_of, fun r s' h => repayStable_repaidAs h,
    fun borrower prev cur st raw l hauth hbal hlt h1 h2 h3 htax => ?_,
    fun borrower prev r s' h => repayStableFromLiquidation_repaidAs h,
    fun borrower prev hauth hbal => ?_⟩
  · -- the liquidation is the borrower's repay of what reached the contract
    have hsub : fixed.sub cur prev = .ok ⟨cur.val - prev.val, (Nat.sub_le _ _).trans_lt cur.isLt⟩ :=
      fixed.sub_eq_ok.2 ⟨hlt.le, rfl⟩
    have hpos : 0 < cur.val - prev.val := Nat.sub_pos_of_lt hlt
    rw [repayStableFromLiquidation_run_of hauth hbal hsub]
    exact repayStable_ok_of (by rwa [stableSent_single]) h1 h2 h3 (by rwa [stableSent_single])
  have hsub : fixed.sub prev prev = .ok Uint128.zero :=
    fixed.sub_eq_ok.2 ⟨le_rfl, (Nat.sub_self _).symm⟩
  have hz : fixed.isZero (stableSent fixed s.config.stableDenom
      [⟨s.config.stableDenom, Uint128.zero⟩]) = true := by
    rw [stableSent_single]
    rfl
  rw [repayStableFromLiquidation_run_of hauth hbal hsub]
  exact repayStable_zero hz

/-- Repaying 8 against a debt of 5 under a tax of 1: the refund message sends 2. -/
theorem repayStable_refunds_after_tax :
    ((repayStable fixed (demoDeps ⟨10 ^ 16, by decide⟩ ⟨100, by decide⟩ ⟨1, by decide⟩)
      (demoEnv 1 "b" [⟨"uusd", ⟨8, by decide⟩⟩])).run
        ((Call.mk (demoDeps ⟨10 ^ 16, by decide⟩ ⟨100, by decide⟩ Uint128.zero)
          (demoEnv 1 "b" []) (.borrowStable ⟨5, by decide⟩ none)).apply fixed
            (instantiate fixed demoConfig 0))).1.map (·.messages) =
      .ok [.bank (.send ⟨"market"⟩ ⟨"b"⟩ [⟨"uusd", ⟨2, by decide⟩⟩])] :=
  rfl

/-- A borrow over the overseer's limit is refused before anything is stored. -/
theorem borrowStable_over_limit {a : Uint128} {toAddr : Option HumanAddr} {st : State Decimal}
    {raw : CanonicalAddr} {l : Liability Uint128 Decimal} {overseer : HumanAddr} {limit : Uint128}
    (h1 : computeInterest fixed deps s.config s.state env.block.height = .ok st)
    (h2 : deps.canonicalAddress env.message.sender = .ok raw)
    (h3 : computeLoan fixed st (s.liability fixed raw) = .ok l)
    (h4 : deps.humanAddress s.config.overseerContract = .ok overseer)
    (h5 : deps.queryBorrowLimit overseer env.message.sender = .ok limit)
    (hfit : a.val + l.loanAmount.val < 2 ^ 128) (hover : limit.val < a.val + l.loanAmount.val) :
    (borrowStable fixed deps env a toAddr).run s =
      (.error (.err (.genericErr "Cannot borrow more than limit")), s) := by
  have e6 : fixed.add a l.loanAmount = some ⟨_, hfit⟩ := fixed.add_eq_some.2 rfl
  have e7 : fixed.lt limit ⟨_, hfit⟩ = true := fixed.lt_eq_true.2 hover
  simp only [borrowStable, Exec.run_bind, run_readConfig, run_readState, Exec.run_lift,
    Exec.run_liftM_std, Exec.run_liftM_option, run_readLiability, liftStd_ok, liftOption_some, h1,
    h2, h3]
  simp only [Exec.run_failIf, liftStd_ok, liftOption_some, h4, h5, e6, e7, if_true]

/-- A liquidation not sent by the overseer is refused before anything is asked. -/
theorem repayStableFromLiquidation_unauthorized {borrower : HumanAddr} {prevBalance : Uint128}
    {raw : CanonicalAddr} (hraw : deps.canonicalAddress env.message.sender = .ok raw)
    (hne : raw ≠ s.config.overseerContract) :
    (repayStableFromLiquidation fixed deps env borrower prevBalance).run s =
      (.error (.err .unauthorized), s) := by
  simp only [repayStableFromLiquidation, Exec.run_bind, run_readConfig, Exec.run_lift,
    Exec.run_liftM_std, Exec.run_failIf, liftStd_ok, hraw, ne_eq, Ne.symm hne, not_false_eq_true,
    if_true]

/-- Where its queries answer, a borrow is refused as over the limit exactly when the debt plus the
amount passes the limit and fits a `u128`. -/
theorem borrowStable_refused_iff {a : Uint128} {toAddr : Option HumanAddr} {st : State Decimal}
    {raw : CanonicalAddr} {l : Liability Uint128 Decimal} {overseer : HumanAddr} {limit : Uint128}
    {coin : Coin Uint128}
    (h1 : computeInterest fixed deps s.config s.state env.block.height = .ok st)
    (h2 : deps.canonicalAddress env.message.sender = .ok raw)
    (h3 : computeLoan fixed st (s.liability fixed raw) = .ok l)
    (h4 : deps.humanAddress s.config.overseerContract = .ok overseer)
    (h5 : deps.queryBorrowLimit overseer env.message.sender = .ok limit)
    (h11 : deps.deductTax ⟨s.config.stableDenom, a⟩ = .ok coin) :
    (borrowStable fixed deps env a toAddr).run s =
        (.error (.err (.genericErr "Cannot borrow more than limit")), s) ↔
      limit.val < l.loanAmount.val + a.val ∧ l.loanAmount.val + a.val < 2 ^ 128 := by
  simp only [borrowStable, Exec.run_bind, run_readConfig, run_readState, Exec.run_lift,
    Exec.run_liftM_std, Exec.run_liftM_option, run_readLiability, liftStd_ok, liftOption_some, h1,
    h2, h3]
  simp only [Exec.run_failIf, liftStd_ok, h4, h5]
  rcases h6 : fixed.add a l.loanAmount with _ | sum
  · -- the sum overflows: the handler traps before the check
    have hover : ¬ a.val + l.loanAmount.val < 2 ^ 128 := fun hfit => by
      rw [(fixed.add_eq_some.2 rfl : fixed.add a l.loanAmount = some ⟨_, hfit⟩)] at h6
      cases h6
    simp only [liftOption_none, Prod.mk.injEq, Except.error.injEq, reduceCtorEq, false_and,
      false_iff]
    omega
  have hsum := fixed.add_eq_some.1 h6
  by_cases hover : limit.val < sum.val
  · simp only [liftOption_some, fixed.lt_eq_true.2 hover, ite_true, true_iff]
    have := sum.isLt
    omega
  -- the check passes: the handler goes on to its stores, or traps on the liabilities
  have e7 : fixed.lt limit sum = false := Bool.eq_false_iff.2 fun h => hover (fixed.lt_eq_true.1 h)
  have e8 : fixed.add l.loanAmount a = some ⟨l.loanAmount.val + a.val, by have := sum.isLt; omega⟩ :=
    fixed.add_eq_some.2 rfl
  simp only [liftOption_some, e7, Bool.false_eq_true, ite_false, e8, h11, liftStd_ok,
    run_storeState, run_storeLiability, Exec.run_pure]
  rcases fixed.fromAmount a with _ | amt
  · simp only [liftOption_none, Prod.mk.injEq, Except.error.injEq, reduceCtorEq, false_and,
      false_iff]
    omega
  simp only [liftOption_some]
  rcases fixed.decimalAdd st.totalLiabilities amt with _ | total <;>
    simp only [liftOption_none, liftOption_some, Prod.mk.injEq, Except.error.injEq, reduceCtorEq,
      false_and, false_iff] <;>
    omega

/-- `query_loan_amount` answers the debt a call at the same height settles against: repaying it goes
through and clears the record, and a borrow is refused exactly when it passes the limit. -/
theorem queryLoanAmount_eq_projection {borrower : HumanAddr} {resp : LoanAmountResponse Uint128}
    (hq : queryLoanAmount fixed deps s borrower env.block.height = .ok resp)
    (hb : env.message.sender = borrower) :
    ∃ st raw l,
      computeInterest fixed deps s.config s.state env.block.height = .ok st ∧
      deps.canonicalAddress borrower = .ok raw ∧
      computeLoan fixed st (s.liability fixed raw) = .ok l ∧
      resp = ⟨borrower, l.loanAmount⟩ ∧
      (stableSent fixed s.config.stableDenom env.message.sentFunds = resp.loanAmount →
        resp.loanAmount.val ≠ 0 → ∃ r s', (repayStable fixed deps env).run s = (.ok r, s') ∧
          (s'.liability fixed raw).loanAmount.val = 0 ∧ r.messages = []) ∧
      ∀ a limit, (deps.humanAddress s.config.overseerContract >>= fun overseer =>
          deps.queryBorrowLimit overseer borrower) = .ok limit →
        (∀ toAddr r s', (borrowStable fixed deps env a toAddr).run s = (.ok r, s') →
          resp.loanAmount.val + a.val ≤ limit.val) ∧
        ((∃ coin, deps.deductTax ⟨s.config.stableDenom, a⟩ = .ok coin) → ∀ toAddr,
          ((borrowStable fixed deps env a toAddr).run s =
              (.error (.err (.genericErr "Cannot borrow more than limit")), s) ↔
            limit.val < resp.loanAmount.val + a.val ∧ resp.loanAmount.val + a.val < 2 ^ 128)) := by
  simp only [queryLoanAmount, except_bind_eq_ok, liftStd_eq_ok, except_pure, Except.ok.injEq] at hq
  obtain ⟨raw, h2, st, h1, l, h3, rfl⟩ := hq
  subst hb
  refine ⟨st, raw, l, h1, h2, h3, rfl, fun hsent hpos => ?_, fun a limit hlim => ⟨?_, ?_⟩⟩
  · -- the repay of exactly the debt goes through, with no refund to tax
    dsimp only at hsent hpos
    obtain ⟨r, s', h⟩ := repayStable_ok_of (Nat.pos_of_ne_zero (by rwa [hsent])) h1 h2 h3
      fun hlt => absurd hlt (by rw [hsent]; exact lt_irrefl _)
    obtain ⟨st', raw', l', h1', h2', h3', hloan, -, -, -, -, hunder⟩ := repayStable_repaidAs h
    cases h1.symm.trans h1'
    cases h2.symm.trans h2'
    cases h3.symm.trans h3'
    simp only [hsent, min_self, Nat.sub_self] at hloan hunder
    exact ⟨r, s', h, hloan, hunder le_rfl⟩
  · intro toAddr r s' h
    obtain ⟨st', raw', l', limit', -, h1', h2', h3', hlim', hle, -⟩ := borrowStable_within_limit h
    cases h1.symm.trans h1'
    cases h2.symm.trans h2'
    cases h3.symm.trans h3'
    cases hlim.symm.trans hlim'
    exact hle
  · rintro ⟨coin, htax⟩ toAddr
    obtain ⟨overseer, h4, h5⟩ := except_bind_eq_ok.1 hlim
    exact borrowStable_refused_iff h1 h2 h3 h4 h5 htax

theorem queryLoanAmount_eq_projection_after_borrow :
    let deps := demoDeps ⟨10 ^ 16, by decide⟩ ⟨10 ^ 7, by decide⟩ Uint128.zero
    let s := (Call.mk deps (demoEnv 1 "b" []) (.borrowStable ⟨10 ^ 6, by decide⟩ none)).apply fixed
      (instantiate fixed demoConfig 0)
    let env := demoEnv 3 "b" [⟨"uusd", ⟨102 * 10 ^ 4, by decide⟩⟩]
    let resp : LoanAmountResponse Uint128 := ⟨⟨"b"⟩, ⟨102 * 10 ^ 4, by decide⟩⟩
    queryLoanAmount fixed deps s ⟨"b"⟩ env.block.height = .ok resp ∧
    env.message.sender = ⟨"b"⟩ ∧
    ∃ st raw l,
      computeInterest fixed deps s.config s.state env.block.height = .ok st ∧
      deps.canonicalAddress ⟨"b"⟩ = .ok raw ∧
      computeLoan fixed st (s.liability fixed raw) = .ok l ∧
      resp = ⟨⟨"b"⟩, l.loanAmount⟩ ∧
      (stableSent fixed s.config.stableDenom env.message.sentFunds = resp.loanAmount →
        resp.loanAmount.val ≠ 0 → ∃ r s', (repayStable fixed deps env).run s = (.ok r, s') ∧
          (s'.liability fixed raw).loanAmount.val = 0 ∧ r.messages = []) ∧
      ∀ a limit, (deps.humanAddress s.config.overseerContract >>= fun overseer =>
          deps.queryBorrowLimit overseer ⟨"b"⟩) = .ok limit →
        (∀ toAddr r s', (borrowStable fixed deps env a toAddr).run s = (.ok r, s') →
          resp.loanAmount.val + a.val ≤ limit.val) ∧
        ((∃ coin, deps.deductTax ⟨s.config.stableDenom, a⟩ = .ok coin) → ∀ toAddr,
          ((borrowStable fixed deps env a toAddr).run s =
              (.error (.err (.genericErr "Cannot borrow more than limit")), s) ↔
            limit.val < resp.loanAmount.val + a.val ∧ resp.loanAmount.val + a.val < 2 ^ 128)) := by
  refine ⟨?hq, ?hb, queryLoanAmount_eq_projection ?hq ?hb⟩
  case hq | hb => rfl

/-- When `repay_stable` goes through. -/
theorem repayStable_ok_iff :
    (∃ r s', (repayStable fixed deps env).run s = (.ok r, s')) ↔
      0 < (stableSent fixed s.config.stableDenom env.message.sentFunds).val ∧
      ∃ st raw l, computeInterest fixed deps s.config s.state env.block.height = .ok st ∧
        deps.canonicalAddress env.message.sender = .ok raw ∧
        computeLoan fixed st (s.liability fixed raw) = .ok l ∧
        (l.loanAmount.val < (stableSent fixed s.config.stableDenom env.message.sentFunds).val →
          ∃ refund coin, refund.val =
              (stableSent fixed s.config.stableDenom env.message.sentFunds).val - l.loanAmount.val ∧
            deps.deductTax ⟨s.config.stableDenom, refund⟩ = .ok coin) := by
  constructor
  · rintro ⟨r, s', h⟩
    obtain ⟨st, raw, l, repay, left, msgs, amt, hz, h1, h2, h3, hsplit, -⟩ := repayStable_eq_ok h
    obtain ⟨hrepay, -, hrefund, -⟩ := hsplit.fixed_min
    refine ⟨Nat.pos_of_ne_zero fun h0 => ?_, st, raw, l, h1, h2, h3, fun hover => ?_⟩
    · rw [fixed.isZero_eq_true.2 h0] at hz
      cases hz
    · obtain ⟨refund, coin, hr, htax, -⟩ := hrefund hover
      exact ⟨refund, coin, by rw [hr, hrepay, min_eq_right hover.le], htax⟩
  · rintro ⟨hpos, st, raw, l, h1, h2, h3, htax⟩
    exact repayStable_ok_of hpos h1 h2 h3 htax

/-- When `borrow_stable` goes through. -/
theorem borrowStable_ok_iff {a : Uint128} {toAddr : Option HumanAddr} :
    (∃ r s', (borrowStable fixed deps env a toAddr).run s = (.ok r, s')) ↔
      ∃ st raw l limit, computeInterest fixed deps s.config s.state env.block.height = .ok st ∧
        deps.canonicalAddress env.message.sender = .ok raw ∧
        computeLoan fixed st (s.liability fixed raw) = .ok l ∧
        (deps.humanAddress s.config.overseerContract >>= fun overseer =>
          deps.queryBorrowLimit overseer env.message.sender) = .ok limit ∧
        l.loanAmount.val + a.val ≤ limit.val ∧
        st.totalLiabilities.raw + a.val * decimalFractional < 2 ^ 128 ∧
        ∃ coin, deps.deductTax ⟨s.config.stableDenom, a⟩ = .ok coin := by
  constructor
  · rintro ⟨r, s', h⟩
    obtain ⟨st, raw, l, o, limit, sum, loan, amt, total, coin, h1, h2, h3, h4, h5, h6, h7, -, h9,
      h10, h11, -⟩ := borrowStable_eq_ok h
    have hsum := fixed.add_eq_some.1 h6
    have hle : ¬ limit.val < sum.val := fun hlt => by
      rw [fixed.lt_eq_true.2 hlt] at h7
      cases h7
    have htotal : total.raw = st.totalLiabilities.raw + a.val * decimalFractional := by
      rw [fixed.decimalAdd_eq_some.1 h10, fixed.fromAmount_eq_some.1 h9]
    exact ⟨st, raw, l, limit, h1, h2, h3, except_bind_eq_ok.2 ⟨o, h4, h5⟩, by omega,
      htotal ▸ total.isLt, coin, h11⟩
  · rintro ⟨st, raw, l, limit, h1, h2, h3, hlim, hle, hfit, coin, h11⟩
    obtain ⟨o, h4, h5⟩ := except_bind_eq_ok.1 hlim
    obtain ⟨loan, total, -, -, r, hrun⟩ := borrowStable_run_fixed h1 h2 h3 h4 h5 hle hfit h11
    exact ⟨r, _, hrun⟩

end Fixed

end MoneyMarket
