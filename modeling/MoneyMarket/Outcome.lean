import MoneyMarket.Borrow

/-!
# What a call does

One lemma per handler says everything a successful run does (`borrowStable_eq_ok`,
`repayStable_eq_ok`, `repayStableFromLiquidation_eq_ok`): it accrues, projects the acting
borrower's record, and writes the new state and that one record (`Storage.write`). A failed run
of a repay writes nothing; a failed borrow writes nothing unless the failure is the tax query it
makes after storing (`borrowStable_error`).

So a call writes at most one record, that of the borrower it acts for, and every other
borrower's record is as it was, whether the call succeeds or fails
(`handle_keeps_other_records`). A failed repay writes nothing, and a failed borrow can have
written only when its tax query fails after the stores (`borrowStable_tax_error_after_store`,
`handler_errors_write_nothing`); the host drops those writes (`execute_error`).
-/

namespace MoneyMarket

variable {U D : Type} {A : Arith U D} {deps : Deps U D}

/-- The two stores of a successful call: the state, and the acting borrower's record. -/
def Storage.write (s : Storage U D) (borrower : CanonicalAddr) (state : State D)
    (liability : Liability U D) : Storage U D :=
  { s with state := state, liabilities := s.liabilities.insert borrower liability }

@[simp] theorem Storage.write_config (s : Storage U D) k st l : (s.write k st l).config = s.config :=
  rfl

@[simp] theorem Storage.write_state (s : Storage U D) k st l : (s.write k st l).state = st := rfl

theorem Storage.lookup_write_ne (s : Storage U D) {k k' : CanonicalAddr} st l (h : k' ≠ k) :
    (s.write k st l).liabilities.lookup k' = s.liabilities.lookup k' :=
  AList.lookup_insert_ne h

theorem Storage.lookup_write_self (s : Storage U D) (k : CanonicalAddr) st l :
    (s.write k st l).liabilities.lookup k = some l :=
  AList.lookup_insert _

theorem Storage.liability_write_ne (s : Storage U D) {k k' : CanonicalAddr} st l (h : k' ≠ k) :
    (s.write k st l).liability A k' = s.liability A k' := by
  simp only [Storage.liability, s.lookup_write_ne st l h]

@[simp] theorem Storage.liability_write_self (s : Storage U D) (k : CanonicalAddr) st l :
    (s.write k st l).liability A k = l := by
  simp only [Storage.liability, s.lookup_write_self, Option.getD_some]

/-- The `amount` `repay_stable` reads: the first coin of the stable denomination sent, or zero. -/
def stableSent (A : Arith U D) (denom : String) (funds : List (Coin U)) : U :=
  ((funds.find? (·.denom == denom)).map (·.amount)).getD A.uintZero

/-- How `repay_stable` settles `amount` against the projected debt `loan`: the amount repaid, the
loan left, and the refund of what exceeds the debt, less tax. -/
def RepaySplit (A : Arith U D) (deps : Deps U D) (denom : String) (contract borrower : HumanAddr)
    (amount loan repayAmount loanLeft : U) (messages : List (CosmosMsg U)) : Prop :=
  (A.lt loan amount = true ∧ repayAmount = loan ∧ loanLeft = A.uintZero ∧
      ∃ refund coin, A.sub amount loan = .ok refund ∧ deps.deductTax ⟨denom, refund⟩ = .ok coin ∧
        messages = [.bank (.send contract borrower [coin])]) ∨
    (A.lt loan amount = false ∧ repayAmount = amount ∧ A.sub loan amount = .ok loanLeft ∧
      messages = [])

variable {env : Env U} {s s' : Storage U D} {r : HandleResponse U}

theorem borrowStable_eq_ok {a : U} {toAddr : Option HumanAddr}
    (h : (borrowStable A deps env a toAddr).run s = (.ok r, s')) :
    ∃ st raw l overseer limit sum loan amt total coin,
      computeInterest A deps s.config s.state env.block.height = .ok st ∧
      deps.canonicalAddress env.message.sender = .ok raw ∧
      computeLoan A st (s.liability A raw) = .ok l ∧
      deps.humanAddress s.config.overseerContract = .ok overseer ∧
      deps.queryBorrowLimit overseer env.message.sender = .ok limit ∧
      A.add a l.loanAmount = some sum ∧ A.lt limit sum = false ∧
      A.add l.loanAmount a = some loan ∧ A.fromAmount a = some amt ∧
      A.decimalAdd st.totalLiabilities amt = some total ∧
      deps.deductTax ⟨s.config.stableDenom, a⟩ = .ok coin ∧
      s' = s.write raw { st with totalLiabilities := total } { l with loanAmount := loan } ∧
      r = { messages := [.bank (.send env.contract.address (toAddr.getD env.message.sender) [coin])]
            log := [⟨"action", "borrow_stable"⟩, ⟨"borrower", env.message.sender.str⟩,
              ⟨"borrow_amount", A.fmt a⟩] } := by
  simp only [borrowStable, Exec.run_bind_eq_ok, run_readConfig, run_readState,
    Exec.run_liftM_failure, Exec.run_liftM_std, Exec.run_liftM_option, liftStd_eq_ok,
    liftOption_eq_ok, run_readLiability, Prod.mk.injEq, Except.ok.injEq, Exec.run_failIf,
    run_storeState, run_storeLiability, Exec.run_pure, exists_and_left, exists_eq_left,
    exists_eq_left', ite_eq_right_iff, and_assoc, true_and, imp_false, Bool.not_eq_true,
    reduceCtorEq] at h
  obtain ⟨st, h1, raw, h2, l, h3, o, h4, lim, h5, sum, h6, h7, -, loan, h8, amt, h9, total, h10,
    -, -, coin, h11, rfl, rfl⟩ := h
  exact ⟨st, raw, l, o, lim, sum, loan, amt, total, coin, h1, h2, h3, h4, h5, h6, h7, h8, h9, h10,
    h11, rfl, rfl⟩

theorem repayStable_eq_ok (h : (repayStable A deps env).run s = (.ok r, s')) :
    ∃ st raw l repayAmount loanLeft messages amt,
      A.isZero (stableSent A s.config.stableDenom env.message.sentFunds) = false ∧
      computeInterest A deps s.config s.state env.block.height = .ok st ∧
      deps.canonicalAddress env.message.sender = .ok raw ∧
      computeLoan A st (s.liability A raw) = .ok l ∧
      RepaySplit A deps s.config.stableDenom env.contract.address env.message.sender
        (stableSent A s.config.stableDenom env.message.sentFunds) l.loanAmount repayAmount
        loanLeft messages ∧
      A.fromAmount repayAmount = some amt ∧
      s' = s.write raw { st with totalLiabilities := A.decimalSubtraction st.totalLiabilities amt }
        { l with loanAmount := loanLeft } ∧
      r = { messages := messages
            log := [⟨"action", "repay_stable"⟩, ⟨"borrower", env.message.sender.str⟩,
              ⟨"repay_amount", A.fmt repayAmount⟩] } := by
  simp only [repayStable, Exec.run_bind_eq_ok, run_readConfig, run_readState,
    Exec.run_liftM_failure, Exec.run_liftM_std, Exec.run_liftM_option, liftStd_eq_ok,
    liftOption_eq_ok, run_readLiability, Prod.mk.injEq, Except.ok.injEq, Exec.run_failIf,
    exists_and_left, exists_eq_left, exists_eq_left', ite_eq_right_iff, and_assoc, true_and,
    imp_false, Bool.not_eq_true, reduceCtorEq] at h
  obtain ⟨hz, -, st, h1, raw, h2, l, h3, h⟩ := h
  refine ⟨st, raw, l, ?_⟩
  split at h
  · simp only [Exec.run_bind_eq_ok, Exec.run_liftM_std, Exec.run_liftM_option, liftStd_eq_ok,
      liftOption_eq_ok, Prod.mk.injEq, Except.ok.injEq, run_storeState, run_storeLiability,
      Exec.run_pure, exists_and_left, exists_eq_left, exists_eq_left', and_assoc,
      true_and] at h
    obtain ⟨refund, h4, coin, h5, amt, h6, rfl, -, -, rfl⟩ := h
    exact ⟨_, _, _, amt, hz, h1, h2, h3, .inl ⟨‹_›, rfl, rfl, refund, coin, h4, h5, rfl⟩, h6, rfl,
      rfl⟩
  · rename_i hlt
    simp only [Exec.run_bind_eq_ok, Exec.run_liftM_std, Exec.run_liftM_option, liftStd_eq_ok,
      liftOption_eq_ok, Prod.mk.injEq, Except.ok.injEq, run_storeState, run_storeLiability,
      Exec.run_pure, exists_and_left, exists_eq_left, exists_eq_left', and_assoc,
      true_and] at h
    obtain ⟨loan, h4, amt, h6, rfl, -, -, rfl⟩ := h
    exact ⟨_, _, _, amt, hz, h1, h2, h3, .inr ⟨by simpa using hlt, rfl, h4, rfl⟩, h6, rfl, rfl⟩

theorem repayStableFromLiquidation_eq_ok {borrower : HumanAddr} {prevBalance : U}
    (h : (repayStableFromLiquidation A deps env borrower prevBalance).run s = (.ok r, s')) :
    ∃ curBalance amount,
      deps.canonicalAddress env.message.sender = .ok s.config.overseerContract ∧
      deps.queryBalance env.contract.address s.config.stableDenom = .ok curBalance ∧
      A.sub curBalance prevBalance = .ok amount ∧
      (repayStable A deps { env with
        message := { sender := borrower, sentFunds := [⟨s.config.stableDenom, amount⟩] } }).run s =
        (.ok r, s') := by
  simp only [repayStableFromLiquidation, Exec.run_bind_eq_ok, run_readConfig,
    Exec.run_liftM_failure, Exec.run_liftM_std, liftStd_eq_ok, unwrap_eq_ok, Prod.mk.injEq,
    Except.ok.injEq, Exec.run_failIf, exists_and_left, exists_eq_left, exists_eq_left',
    ite_eq_right_iff, and_assoc, true_and, imp_false, not_not, reduceCtorEq] at h
  obtain ⟨raw, h1, rfl, -, cur, h2, amount, h3, h4⟩ := h
  exact ⟨cur, amount, h1, h2, h3, h4⟩

theorem repayStable_error {e : Failure} (h : (repayStable A deps env).run s = (.error e, s')) :
    s' = s := by
  by_contra hne
  have hne' : (s = s') = False := eq_false (Ne.symm hne)
  simp only [repayStable, Exec.run_bind_eq_error, Exec.run_bind_eq_ok, run_readConfig,
    run_readState, Exec.run_liftM_failure, Exec.run_liftM_std, Exec.run_liftM_option,
    liftStd_eq_ok, liftOption_eq_ok, run_readLiability, Prod.mk.injEq, Except.ok.injEq,
    Exec.run_failIf, run_storeState, run_storeLiability, Exec.run_pure, exists_and_left,
    exists_eq_left, exists_eq_left', and_assoc, true_and, reduceCtorEq, Exec.run_ite, ite_eq_iff,
    hne', and_false, false_and, or_false, false_or, exists_false] at h

theorem repayStableFromLiquidation_error {borrower : HumanAddr} {prevBalance : U} {e : Failure}
    (h : (repayStableFromLiquidation A deps env borrower prevBalance).run s = (.error e, s')) :
    s' = s := by
  by_contra hne
  have hne' : (s = s') = False := eq_false (Ne.symm hne)
  have hrepay : ∀ env', ((repayStable A deps env').run s = (.error e, s')) = False :=
    fun _ => eq_false fun h => hne (repayStable_error h)
  simp only [repayStableFromLiquidation, Exec.run_bind_eq_error, Exec.run_bind_eq_ok,
    run_readConfig, Exec.run_liftM_failure, Exec.run_liftM_std, liftStd_eq_ok, unwrap_eq_ok,
    Prod.mk.injEq, Except.ok.injEq, Exec.run_failIf, exists_and_left, exists_eq_left,
    exists_eq_left', and_assoc, true_and, reduceCtorEq, hne', hrepay, and_false, false_and,
    or_false, false_or, exists_false] at h

/-- `borrow_stable` stores before it asks for the tax on the coins it sends: a failure there is
the one that comes after its writes. -/
theorem borrowStable_error {a : U} {toAddr : Option HumanAddr} {e : Failure}
    (h : (borrowStable A deps env a toAddr).run s = (.error e, s')) :
    s' = s ∨ ∃ e' raw st l, deps.deductTax ⟨s.config.stableDenom, a⟩ = .error e' ∧ e = .err e' ∧
      deps.canonicalAddress env.message.sender = .ok raw ∧ s' = s.write raw st l := by
  rcases eq_or_ne s' s with hs | hne
  · exact .inl hs
  have hne' : (s = s') = False := eq_false (Ne.symm hne)
  simp only [borrowStable, Exec.run_bind_eq_error, Exec.run_bind_eq_ok, run_readConfig,
    run_readState, Exec.run_liftM_failure, Exec.run_liftM_std, Exec.run_liftM_option,
    liftStd_eq_ok, liftOption_eq_ok, liftStd_eq_error, run_readLiability, Prod.mk.injEq,
    Except.ok.injEq, Exec.run_failIf, run_storeState, run_storeLiability, Exec.run_pure,
    exists_and_left, exists_eq_left, exists_eq_left', and_assoc, true_and, reduceCtorEq,
    Exec.run_ite, ite_eq_iff, hne', and_false, false_and, or_false, false_or, exists_false] at h
  obtain ⟨st, -, raw, hraw, l, -, -, -, -, -, -, -, -, -, loan, -, -, -, total, -, ⟨e', htax, rfl⟩,
    -, -, rfl⟩ := h
  exact .inr ⟨e', raw, _, _, htax, rfl, hraw, rfl⟩

/-- The borrower a call acts for: the sender, or the liquidated borrower. -/
def HandleMsg.borrower (env : Env U) : HandleMsg U → HumanAddr
  | .borrowStable .. => env.message.sender
  | .repayStable => env.message.sender
  | .repayStableFromLiquidation borrower _ => borrower

theorem handle_storage (msg : HandleMsg U) :
    ((handle A deps env msg).run s).2 = s ∨ ∃ raw st l,
      deps.canonicalAddress (msg.borrower env) = .ok raw ∧
      ((handle A deps env msg).run s).2 = s.write raw st l := by
  rcases hrun : (handle A deps env msg).run s with ⟨_ | r, s'⟩
  · cases msg with
    | borrowStable a toAddr =>
      rcases borrowStable_error hrun with rfl | ⟨-, raw, st, l, -, -, hraw, rfl⟩
      · exact .inl rfl
      · exact .inr ⟨raw, st, l, hraw, rfl⟩
    | repayStable => exact .inl (repayStable_error hrun)
    | repayStableFromLiquidation b p => exact .inl (repayStableFromLiquidation_error hrun)
  · cases msg with
    | borrowStable a toAddr =>
      obtain ⟨st, raw, l, -, -, -, -, loan, -, total, -, h2, -, -, -, -, -, -, -, -, -, rfl, -⟩ :=
        borrowStable_eq_ok hrun
      exact .inr ⟨raw, _, _, h2, rfl⟩
    | repayStable =>
      obtain ⟨st, raw, l, -, -, -, -, -, -, h2, -, -, -, rfl, -⟩ := repayStable_eq_ok hrun
      exact .inr ⟨raw, _, _, h2, rfl⟩
    | repayStableFromLiquidation b p =>
      obtain ⟨_, _, -, -, -, hr⟩ := repayStableFromLiquidation_eq_ok hrun
      obtain ⟨st, raw, l, -, -, -, -, -, -, h2, -, -, -, rfl, -⟩ := repayStable_eq_ok hr
      exact .inr ⟨raw, _, _, h2, rfl⟩

/-- A call the host runs: the chain's answers it sees, its env and its message. -/
structure Call (U D : Type) where
  deps : Deps U D
  env : Env U
  msg : HandleMsg U

/-- The storage after the host runs a call. -/
def Call.apply (A : Arith U D) (c : Call U D) (s : Storage U D) : Storage U D :=
  (execute (handle A c.deps c.env c.msg) s).2

/-- What the host answers a call: its response, or the failure that rolled it back. -/
def Call.result (A : Arith U D) (c : Call U D) (s : Storage U D) :
    Except Failure (HandleResponse U) :=
  (execute (handle A c.deps c.env c.msg) s).1

theorem Call.apply_of_run {c : Call U D} (h : (handle A c.deps c.env c.msg).run s = (.ok r, s')) :
    c.apply A s = s' := by
  simp only [Call.apply, execute, h]

theorem Call.result_of_run {c : Call U D} (h : (handle A c.deps c.env c.msg).run s = (.ok r, s')) :
    c.result A s = .ok r := by
  simp only [Call.result, execute, h]

theorem Call.result_of_error {c : Call U D} {e : Failure}
    (h : (handle A c.deps c.env c.msg).run s = (.error e, s')) :
    c.result A s = .error e ∧ c.apply A s = s := by
  simp only [Call.result, Call.apply, execute, h, and_self]

/-- A config to run the statements on. -/
def demoConfig : Config Decimal where
  overseerContract := ⟨[111]⟩
  interestModel := ⟨[105]⟩
  stableDenom := "uusd"
  reserveFactor := ⟨3 * 10 ^ 15, by decide⟩

/-- A chain to run the statements on: addresses convert byte for byte, the interest model quotes
`rate`, the overseer allows `limit`, and `tax` is taken from each coin sent. -/
def demoDeps (rate : Decimal) (limit tax : Uint128) : Deps Uint128 Decimal where
  canonicalAddress a := .ok ⟨a.str.toList.map fun c => c.toNat.toUInt8⟩
  humanAddress c := .ok ⟨String.mk (c.bytes.map fun b => Char.ofNat b.toNat)⟩
  queryBorrowRate _ := .ok rate
  queryBorrowLimit _ _ := .ok limit
  deductTax c := (Uint128.sub c.amount tax).map fun amount => ⟨c.denom, amount⟩
  queryBalance _ _ := .ok Uint128.zero

/-- A call at height `height` from `sender`, sending `funds`. -/
def demoEnv (height : UInt64) (sender : String) (funds : List (Coin Uint128)) : Env Uint128 where
  block := ⟨height⟩
  message := ⟨⟨sender⟩, funds⟩
  contract := ⟨⟨"market"⟩⟩

/-- A call keeps every record but that of the borrower it acts for, whatever its outcome. -/
theorem handle_keeps_other_records (msg : HandleMsg U) {k : CanonicalAddr}
    (hk : ∀ b, deps.canonicalAddress (msg.borrower env) = .ok b → k ≠ b) :
    ((handle A deps env msg).run s).2.liabilities.lookup k = s.liabilities.lookup k := by
  rcases (handle_storage msg : ((handle A deps env msg).run s).2 = s ∨ _) with h | ⟨b, st, l, hb, h⟩
  · rw [h]
  · rw [h, Storage.lookup_write_ne _ _ _ (hk b hb)]

theorem handle_keeps_other_records_demo :
    let deps := demoDeps ⟨10 ^ 16, by decide⟩ ⟨10 ^ 24, by decide⟩ Uint128.zero
    let env := demoEnv 1 "alice" []
    let msg : HandleMsg Uint128 := .borrowStable ⟨10 ^ 6, by decide⟩ none
    let s := (Call.mk deps (demoEnv 1 "bob" []) msg).apply fixed (instantiate fixed demoConfig 0)
    (∀ b, deps.canonicalAddress (msg.borrower env) = .ok b → (⟨[98, 111, 98]⟩ : CanonicalAddr) ≠ b) ∧
      ((handle fixed deps env msg).run s).2.liabilities.lookup ⟨[98, 111, 98]⟩ =
        s.liabilities.lookup ⟨[98, 111, 98]⟩ := by
  have hk : ∀ b, (demoDeps ⟨10 ^ 16, by decide⟩ ⟨10 ^ 24, by decide⟩ Uint128.zero).canonicalAddress
      ((HandleMsg.borrowStable (⟨10 ^ 6, by decide⟩ : Uint128) none).borrower
        (demoEnv 1 "alice" [])) = .ok b → (⟨[98, 111, 98]⟩ : CanonicalAddr) ≠ b := by
    rintro b hb rfl
    cases hb
  exact ⟨hk, handle_keeps_other_records _ hk⟩

/-- A borrow whose tax query fails: the call errs, and the pool's debt and the borrower's record
are already written. -/
theorem borrowStable_tax_error_after_store :
    let deps := demoDeps ⟨10 ^ 16, by decide⟩ ⟨100, by decide⟩ ⟨10, by decide⟩
    let s := instantiate fixed demoConfig 0
    let run := (borrowStable fixed deps (demoEnv 1 "b" []) ⟨5, by decide⟩ none).run s
    run.1 = .error (.err (.underflow "5" "10")) ∧ s.state.totalLiabilities.raw = 0 ∧
      run.2.state.totalLiabilities.raw = 5 * decimalFractional ∧
      s.liabilities.lookup ⟨[98]⟩ = none ∧
      (run.2.liabilities.lookup ⟨[98]⟩).map (·.loanAmount.val) = some 5 :=
  ⟨rfl, rfl, by decide, rfl, by decide⟩

/-- A failed repay writes nothing; a failed borrow writes nothing unless what failed is the tax
query it makes after its stores. -/
theorem handler_errors_write_nothing :
    (∀ e s', (repayStable A deps env).run s = (.error e, s') → s' = s) ∧
    (∀ borrower prevBalance e s',
      (repayStableFromLiquidation A deps env borrower prevBalance).run s = (.error e, s') →
        s' = s) ∧
    (∀ a toAddr e s', (borrowStable A deps env a toAddr).run s = (.error e, s') →
      s' = s ∨ ∃ e', deps.deductTax ⟨s.config.stableDenom, a⟩ = .error e' ∧ e = .err e') := by
  refine ⟨fun _ _ => repayStable_error, fun _ _ _ _ => repayStableFromLiquidation_error,
    fun _ _ _ _ h => ?_⟩
  rcases borrowStable_error h with h | ⟨e', -, -, -, he, rfl, -⟩
  · exact .inl h
  · exact .inr ⟨e', he, rfl⟩

end MoneyMarket
