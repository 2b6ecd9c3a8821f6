import MoneyMarket.Commute

/-!
# Laws of the handlers

Laws of `borrow.rs` over every state. Projection is idempotent: re-projecting at the same index
divides it by itself, exactly one, and multiplies by one, exactly (`computeLoan_idempotent`).
`query_loan_amount` answers only at or above the last update, where below it the `u64`
subtraction of heights traps (`queryLoanAmount_below_last_traps`), and the debt it reports never
falls as the queried height grows (`queryLoanAmount_mono_height`), nor below the stored debt
`query_liability` reports (`queryLoanAmount_ge_liability`). A borrow undone by a repay of the same
amount in the same block leaves what accrual alone leaves: the state accrued to the block, and the
borrower's record moved to the accrued index, owing what it owed there
(`borrow_then_repay_restores`). A repay split in two within one block stores what the whole repay
stores (`repayStable_merge`).

Within one block a repay finds the record the call before it stored at the index it stored it
at, where projection is exact (`computeLoan_at_index`, `projectedLoan_self`): that is what makes
the second call of each law settle against the debt the first one left.
-/

namespace MoneyMarket

/-- The env of a call by the same sender sending one coin, as a liquidation builds it. -/
def Env.sending {U : Type} (env : Env U) (denom : String) (amount : U) : Env U :=
  { env with message := { sender := env.message.sender, sentFunds := [⟨denom, amount⟩] } }

@[simp] theorem stableSent_sending (env : Env Uint128) (denom : String) (amount : Uint128) :
    stableSent fixed denom (env.sending denom amount).message.sentFunds = amount :=
  stableSent_single denom amount

theorem decimalDivision_self {G : Decimal} (hG : G.raw ≠ 0) :
    fixed.decimalDivision G G = some Decimal.one :=
  fixed.decimalDivision_eq_some.2 ⟨hG, (Nat.mul_div_cancel_left _ (Nat.pos_of_ne_zero hG)).symm⟩

theorem mulDecimal_one {u : Uint128} (hfit : u.val * decimalFractional < 2 ^ 128) :
    fixed.mulDecimal u Decimal.one = some u := by
  show mulDecimal u Decimal.one = some u
  unfold mulDecimal
  split
  · rename_i hz
    exact congrArg some (Uint128.ext (hz.resolve_right decimalFractional_pos.ne').symm)
  · rw [Decimal.one_raw, Uint128.ofNat?_isSome hfit, Option.some_bind,
      Nat.mul_div_cancel _ decimalFractional_pos]
    exact Uint128.ofNat?_eq_some.2 rfl

theorem computeLoan_at_index {st : State Decimal} {loan : Uint128}
    (hG : st.globalInterestIndex.raw ≠ 0) (hfit : loan.val * decimalFractional < 2 ^ 128) :
    computeLoan fixed st ⟨st.globalInterestIndex, loan⟩ = .ok ⟨st.globalInterestIndex, loan⟩ := by
  simp only [computeLoan, decimalDivision_self hG, except_bind_eq_ok, liftOption_eq_ok]
  exact ⟨_, rfl, _, mulDecimal_one hfit, rfl⟩

/-- Projection is idempotent wherever the index is not zero: the second projection divides the index
by itself, exactly one, and multiplies by one, exactly. -/
theorem computeLoan_idempotent {st : State Decimal} {l : Liability Uint128 Decimal}
    (hG : st.globalInterestIndex.raw ≠ 0) :
    (computeLoan fixed st l >>= computeLoan fixed st) = computeLoan fixed st l ∧
      fixed.decimalDivision st.globalInterestIndex st.globalInterestIndex = some Decimal.one ∧
      ∀ l', computeLoan fixed st l = .ok l' →
        fixed.mulDecimal l'.loanAmount Decimal.one = some l'.loanAmount := by
  refine ⟨?_, decimalDivision_self hG, fun l' h => mulDecimal_one (computeLoan_fit h)⟩
  rcases h : computeLoan fixed st l with e | ⟨I, loan⟩
  · rfl
  · have hfit := computeLoan_fit h
    dsimp only at hfit
    obtain ⟨-, hI, -⟩ := computeLoan_fixed h
    dsimp only at hI
    subst hI
    rw [except_ok_bind]
    exact computeLoan_at_index hG hfit

theorem computeLoan_idempotent_at_accrued_index :
    let st : State Decimal := ⟨⟨0, by decide⟩, ⟨0, by decide⟩, 5, ⟨105 * 10 ^ 16, by decide⟩⟩
    let l : Liability Uint128 Decimal := ⟨Decimal.one, ⟨10 ^ 6, by decide⟩⟩
    st.globalInterestIndex.raw ≠ 0 ∧
      ((computeLoan fixed st l >>= computeLoan fixed st) = computeLoan fixed st l ∧
        fixed.decimalDivision st.globalInterestIndex st.globalInterestIndex = some Decimal.one ∧
        ∀ l', computeLoan fixed st l = .ok l' →
          fixed.mulDecimal l'.loanAmount Decimal.one = some l'.loanAmount) := by
  refine ⟨?hG, computeLoan_idempotent ?hG⟩
  case hG => decide

theorem Storage.write_write {U D : Type} (s : Storage U D) (k : CanonicalAddr) (st st' : State D)
    (l l' : Liability U D) : (s.write k st l).write k st' l' = s.write k st' l' := by
  simp only [Storage.write, AList.insert_insert]

theorem computeLoan_eq_self {st : State Decimal} {l l' : Liability Uint128 Decimal}
    (h : computeLoan fixed st l = .ok l') (hidx : l.interestIndex = st.globalInterestIndex) :
    l' = l := by
  obtain ⟨hG, hidx', hloan⟩ := computeLoan_fixed h
  obtain ⟨I, L⟩ := l
  obtain ⟨I', L'⟩ := l'
  dsimp only at hG hidx hidx' hloan ⊢
  subst hidx hidx'
  rw [projectedLoan_self hG] at hloan
  rw [Uint128.ext hloan]

section Query

variable {deps : Deps Uint128 Decimal} {s : Storage Uint128 Decimal}

/-- Asked at a later height, `query_loan_amount` never reports less. -/
theorem queryLoanAmount_mono_height {borrower : HumanAddr} {h₁ h₂ : UInt64}
    {r₁ r₂ : LoanAmountResponse Uint128} (hh : h₁ ≤ h₂)
    (q₁ : queryLoanAmount fixed deps s borrower h₁ = .ok r₁)
    (q₂ : queryLoanAmount fixed deps s borrower h₂ = .ok r₂) :
    r₁.loanAmount.val ≤ r₂.loanAmount.val := by
  simp only [queryLoanAmount, except_bind_eq_ok, liftStd_eq_ok, except_pure,
    Except.ok.injEq] at q₁ q₂
  obtain ⟨raw, hraw, st₁, hc₁, l₁, hl₁, rfl⟩ := q₁
  obtain ⟨raw', hraw', st₂, hc₂, l₂, hl₂, rfl⟩ := q₂
  cases hraw.symm.trans hraw'
  obtain ⟨rate, hr, -, -, hG₁, -⟩ := computeInterest_fixed hc₁
  obtain ⟨rate', hr', -, -, hG₂, -⟩ := computeInterest_fixed hc₂
  cases hr.symm.trans hr'
  have hblocks : h₁.toNat - s.state.lastInterestUpdated.toNat ≤
      h₂.toNat - s.state.lastInterestUpdated.toNat :=
    Nat.sub_le_sub_right (UInt64.le_iff_toNat_le.1 hh) _
  have hG : st₁.globalInterestIndex.raw ≤ st₂.globalInterestIndex.raw := by
    rw [hG₁, hG₂]
    exact Nat.div_le_div_right (Nat.mul_le_mul_left _
      (Nat.add_le_add_left (Nat.mul_le_mul_right _ hblocks) _))
  rw [(computeLoan_fixed hl₁).2.2, (computeLoan_fixed hl₂).2.2]
  exact projectedLoan_mono _ hG

theorem queryLoanAmount_mono_height_demo :
    let deps := demoDeps ⟨10 ^ 16, by decide⟩ ⟨10 ^ 24, by decide⟩ Uint128.zero
    let s := ((borrowStable fixed deps (demoEnv 5 "a" []) ⟨10 ^ 6, by decide⟩ none).run
      (instantiate fixed demoConfig 0)).2
    let r₁ : LoanAmountResponse Uint128 := ⟨⟨"a"⟩, ⟨10 ^ 6, by decide⟩⟩
    let r₂ : LoanAmountResponse Uint128 := ⟨⟨"a"⟩, ⟨105 * 10 ^ 4, by decide⟩⟩
    (5 : UInt64) ≤ 10 ∧ queryLoanAmount fixed deps s ⟨"a"⟩ 5 = .ok r₁ ∧
      queryLoanAmount fixed deps s ⟨"a"⟩ 10 = .ok r₂ ∧ r₁.loanAmount.val ≤ r₂.loanAmount.val := by
  refine ⟨?hh, ?q₁, ?q₂, queryLoanAmount_mono_height ?hh ?q₁ ?q₂⟩
  case hh => decide
  case q₁ | q₂ => rfl

/-- On every reachable storage `query_loan_amount` never reports less than `query_liability`. -/
theorem queryLoanAmount_ge_liability {borrower : HumanAddr} {h : UInt64}
    {resp : LiabilityResponse Uint128 Decimal} {r : LoanAmountResponse Uint128}
    (hs : Reachable fixed s) (hl : queryLiability fixed deps s borrower = .ok resp)
    (hq : queryLoanAmount fixed deps s borrower h = .ok r) :
    resp.loanAmount.val ≤ r.loanAmount.val := by
  simp only [queryLiability, queryLoanAmount, except_bind_eq_ok, liftStd_eq_ok, except_pure,
    Except.ok.injEq] at hl hq
  obtain ⟨raw, hraw, rfl⟩ := hl
  obtain ⟨raw', hraw', st, hc, l, hl, rfl⟩ := hq
  cases hraw.symm.trans hraw'
  obtain ⟨hI, hIG⟩ := hs.indexed.liability raw
  rw [(computeLoan_fixed hl).2.2]
  calc (s.liability fixed raw).loanAmount.val
      = projectedLoan (s.liability fixed raw).interestIndex (s.liability fixed raw) :=
        (projectedLoan_self (decimalFractional_pos.trans_le hI).ne' _).symm
    _ ≤ projectedLoan st.globalInterestIndex (s.liability fixed raw) :=
        projectedLoan_mono _ (hIG.trans (computeInterest_mono hc).2.1)

theorem queryLoanAmount_ge_liability_demo :
    let deps := demoDeps ⟨10 ^ 16, by decide⟩ ⟨10 ^ 24, by decide⟩ Uint128.zero
    let s := (Call.mk deps (demoEnv 5 "a" []) (.borrowStable ⟨10 ^ 6, by decide⟩ none)).apply fixed
      (instantiate fixed demoConfig 0)
    let resp : LiabilityResponse Uint128 Decimal :=
      ⟨⟨"a"⟩, ⟨105 * 10 ^ 16, by decide⟩, ⟨10 ^ 6, by decide⟩⟩
    let r : LoanAmountResponse Uint128 := ⟨⟨"a"⟩, ⟨105 * 10 ^ 4, by decide⟩⟩
    Reachable fixed s ∧ queryLiability fixed deps s ⟨"a"⟩ = .ok resp ∧
      queryLoanAmount fixed deps s ⟨"a"⟩ 10 = .ok r ∧ resp.loanAmount.val ≤ r.loanAmount.val := by
  refine ⟨?hs, ?hl, ?hq, queryLoanAmount_ge_liability ?hs ?hl ?hq⟩
  case hs => exact (Reachable.instantiate _ _).apply _
  case hl | hq => rfl

/-- `query_loan_amount` answers only at or above the last update, traps below it, and at it projects
the stored record at the stored index. -/
theorem queryLoanAmount_below_last_traps {borrower : HumanAddr} :
    (∀ h resp, queryLoanAmount fixed deps s borrower h = .ok resp →
      s.state.lastInterestUpdated ≤ h) ∧
    ∀ raw rate, deps.canonicalAddress borrower = .ok raw → borrowRate deps s.config = .ok rate →
      (∀ h, h < s.state.lastInterestUpdated →
        queryLoanAmount fixed deps s borrower h = .error .abort) ∧
      queryLoanAmount fixed deps s borrower s.state.lastInterestUpdated =
        (computeLoan fixed s.state (s.liability fixed raw)).map
          fun l => ⟨borrower, l.loanAmount⟩ := by
  refine ⟨fun h resp hq => ?_, fun raw rate hraw hrate => ⟨fun h hh => ?_, ?_⟩⟩
  · simp only [queryLoanAmount, except_bind_eq_ok, liftStd_eq_ok] at hq
    obtain ⟨-, -, st, hc, -⟩ := hq
    obtain ⟨-, -, hle, -⟩ := computeInterest_fixed hc
    exact hle
  · simp only [queryLoanAmount, hraw, liftStd_ok, except_ok_bind,
      computeInterest_below_last hrate hh]
    rfl
  · simp only [queryLoanAmount, hraw, liftStd_ok, except_ok_bind, computeInterest_same_height hrate]
    cases computeLoan fixed s.state (s.liability fixed raw) <;> rfl

theorem queryLoanAmount_below_last_traps_demo :
    let deps := demoDeps ⟨10 ^ 16, by decide⟩ ⟨10 ^ 24, by decide⟩ Uint128.zero
    let s := ((borrowStable fixed deps (demoEnv 5 "a" []) ⟨10 ^ 6, by decide⟩ none).run
      (instantiate fixed demoConfig 0)).2
    deps.canonicalAddress ⟨"a"⟩ = .ok ⟨[97]⟩ ∧ borrowRate deps s.config = .ok ⟨10 ^ 16, by decide⟩ ∧
      (∀ h, h < s.state.lastInterestUpdated →
        queryLoanAmount fixed deps s ⟨"a"⟩ h = .error .abort) ∧
      queryLoanAmount fixed deps s ⟨"a"⟩ s.state.lastInterestUpdated =
        (computeLoan fixed s.state (s.liability fixed ⟨[97]⟩)).map
          fun l => ⟨⟨"a"⟩, l.loanAmount⟩ := by
  refine ⟨?hraw, ?hrate, queryLoanAmount_below_last_traps.2 _ _ ?hraw ?hrate⟩
  case hraw | hrate => rfl

/-- After a borrow of `10⁶` at height 5 the query at height 3 traps, where an elapsed time of zero
would answer `10⁶`. -/
theorem queryLoanAmount_past_height_fails :
    borrowRate (demoDeps ⟨10 ^ 16, by decide⟩ ⟨10 ^ 24, by decide⟩ Uint128.zero) demoConfig =
        .ok ⟨10 ^ 16, by decide⟩ ∧
      queryLoanAmount fixed (demoDeps ⟨10 ^ 16, by decide⟩ ⟨10 ^ 24, by decide⟩ Uint128.zero)
        ((borrowStable fixed (demoDeps ⟨10 ^ 16, by decide⟩ ⟨10 ^ 24, by decide⟩ Uint128.zero)
          (demoEnv 5 "a" []) ⟨10 ^ 6, by decide⟩ none).run (instantiate fixed demoConfig 0)).2
        ⟨"a"⟩ 3 = .error .abort ∧
      queryLoanAmount fixed (demoDeps ⟨10 ^ 16, by decide⟩ ⟨10 ^ 24, by decide⟩ Uint128.zero)
        ((borrowStable fixed (demoDeps ⟨10 ^ 16, by decide⟩ ⟨10 ^ 24, by decide⟩ Uint128.zero)
          (demoEnv 5 "a" []) ⟨10 ^ 6, by decide⟩ none).run (instantiate fixed demoConfig 0)).2
        ⟨"a"⟩ 5 = .ok ⟨⟨"a"⟩, ⟨10 ^ 6, by decide⟩⟩ :=
  ⟨rfl, rfl, rfl⟩

end Query

section RoundTrip

variable {deps : Deps Uint128 Decimal} {env : Env Uint128} {s s₁ : Storage Uint128 Decimal}

/-- A borrow of `a` undone by a repay of `a` in the same block leaves what accrual alone leaves, and
refunds nothing. -/
theorem borrow_then_repay_restores {a : Uint128} {toAddr : Option HumanAddr}
    {r : HandleResponse Uint128} {raw : CanonicalAddr} (hs : Reachable fixed s)
    (h : (borrowStable fixed deps env a toAddr).run s = (.ok r, s₁)) (ha : 0 < a.val)
    (hraw : deps.canonicalAddress env.message.sender = .ok raw)
    (hfit : (s₁.liability fixed raw).loanAmount.val * decimalFractional < 2 ^ 128) :
    ∃ st l, computeInterest fixed deps s.config s.state env.block.height = .ok st ∧
      computeLoan fixed st (s.liability fixed raw) = .ok l ∧
      (repayStable fixed deps (env.sending s.config.stableDenom a)).run s₁ =
        (.ok { messages := [], log := [⟨"action", "repay_stable"⟩,
          ⟨"borrower", env.message.sender.str⟩, ⟨"repay_amount", toString a.val⟩] },
          s.write raw st l) := by
  obtain ⟨st, raw', l, -, -, -, loan, amt, total, -, h1, h2, h3, -, -, -, -, h8, h9, h10, -, rfl,
    -⟩ := borrowStable_eq_ok h
  cases hraw.symm.trans h2
  obtain ⟨rate, hrate, -, hlast, -⟩ := computeInterest_fixed h1
  have hloan := fixed.add_eq_some.1 h8
  have hamt := fixed.fromAmount_eq_some.1 h9
  have htotal := fixed.decimalAdd_eq_some.1 h10
  have hindex := (computeLoan_fixed h3).2.1
  have hG : st.globalInterestIndex.raw ≠ 0 := (Nat.lt_of_lt_of_le decimalFractional_pos
    (hs.indexed.one_le_index.trans (computeInterest_mono h1).2.1)).ne'
  rw [Storage.liability_write_self] at hfit
  -- the repay accrues nothing more and finds the record at the index it was stored at
  have hsame : computeInterest fixed deps s.config { st with totalLiabilities := total }
      env.block.height = .ok { st with totalLiabilities := total } :=
    hlast ▸ computeInterest_same_height hrate
  have hproj : computeLoan fixed { st with totalLiabilities := total } { l with loanAmount := loan }
      = .ok { l with loanAmount := loan } := by
    obtain ⟨I, l₀⟩ := l
    dsimp only at hindex ⊢
    subst hindex
    exact computeLoan_at_index hG hfit
  have hsplit : RepaySplit fixed deps s.config.stableDenom env.contract.address env.message.sender
      a loan a l.loanAmount [] :=
    .inr ⟨Bool.eq_false_iff.2 fun h0 => by rw [fixed.lt_eq_true] at h0; omega, rfl,
      fixed.sub_eq_ok.2 ⟨by omega, by omega⟩, rfl⟩
  have hz : fixed.isZero a = false := Bool.eq_false_iff.2 fun h0 => by
    rw [fixed.isZero_eq_true] at h0
    omega
  have hT : fixed.decimalSubtraction total amt = st.totalLiabilities :=
    Decimal.ext (by rw [fixed.decimalSubtraction_raw, htotal, hamt, Nat.add_sub_cancel])
  refine ⟨st, l, h1, h3, Eq.trans (repayStable_run_of
    (by rwa [Storage.write_config, stableSent_sending]) hsame hraw
    (by rwa [Storage.liability_write_self])
    (by rwa [Storage.write_config, stableSent_sending]) h9) ?_⟩
  rw [Storage.write_write, hT]
  rfl

theorem borrow_then_repay_restores_demo :
    let deps := demoDeps ⟨10 ^ 16, by decide⟩ ⟨10 ^ 24, by decide⟩ Uint128.zero
    let s := instantiate fixed demoConfig 0
    let env := demoEnv 5 "a" []
    let a : Uint128 := ⟨10 ^ 6, by decide⟩
    let run := (borrowStable fixed deps env a none).run s
    let r : HandleResponse Uint128 := ⟨[.bank (.send ⟨"market"⟩ ⟨"a"⟩ [⟨"uusd", a⟩])],
      [⟨"action", "borrow_stable"⟩, ⟨"borrower", "a"⟩, ⟨"borrow_amount", "1000000"⟩]⟩
    let raw : CanonicalAddr := ⟨[97]⟩
    Reachable fixed s ∧ run = (.ok r, run.2) ∧ 0 < a.val ∧
      deps.canonicalAddress env.message.sender = .ok raw ∧
      (run.2.liability fixed raw).loanAmount.val * decimalFractional < 2 ^ 128 ∧
      ∃ st l, computeInterest fixed deps s.config s.state env.block.height = .ok st ∧
        computeLoan fixed st (s.liability fixed raw) = .ok l ∧
        (repayStable fixed deps (env.sending s.config.stableDenom a)).run run.2 =
          (.ok { messages := [], log := [⟨"action", "repay_stable"⟩,
            ⟨"borrower", env.message.sender.str⟩, ⟨"repay_amount", toString a.val⟩] },
            s.write raw st l) := by
  refine ⟨?hs, ?h, ?ha, ?hraw, ?hfit, borrow_then_repay_restores ?hs ?h ?ha ?hraw ?hfit⟩
  case hs => exact .instantiate _ _
  case h | hraw => rfl
  case ha | hfit => decide

end RoundTrip

section Split

theorem min_add_eq_min_add_min_sub (a b p : Nat) :
    min (a + b) p = min a p + min b (p - min a p) := by
  omega

variable {deps : Deps Uint128 Decimal} {env : Env Uint128} {s s₁ s₂ : Storage Uint128 Decimal}

theorem repayStable_after_write {st : State Decimal} {l : Liability Uint128 Decimal}
    {raw : CanonicalAddr} {rate : Decimal} {r : HandleResponse Uint128}
    (h : (repayStable fixed deps env).run (s.write raw st l) = (.ok r, s₂))
    (hrate : borrowRate deps s.config = .ok rate)
    (hlast : st.lastInterestUpdated = env.block.height)
    (hidx : l.interestIndex = st.globalInterestIndex)
    (hraw : deps.canonicalAddress env.message.sender = .ok raw) :
    ∃ repay loanLeft messages amt,
      RepaySplit fixed deps s.config.stableDenom env.contract.address env.message.sender
        (stableSent fixed s.config.stableDenom env.message.sentFunds) l.loanAmount repay loanLeft
        messages ∧
      fixed.fromAmount repay = some amt ∧
      s₂ = s.write raw
        { st with totalLiabilities := fixed.decimalSubtraction st.totalLiabilities amt }
        { l with loanAmount := loanLeft } := by
  obtain ⟨st', raw', l', repay, loanLeft, messages, amt, -, h1, h2, h3, hsplit, hamt, rfl, -⟩ :=
    repayStable_eq_ok h
  cases hraw.symm.trans h2
  cases (hlast ▸ computeInterest_same_height hrate : computeInterest fixed deps s.config st
    env.block.height = _).symm.trans h1
  rw [Storage.liability_write_self] at h3
  cases computeLoan_eq_self h3 hidx
  exact ⟨repay, loanLeft, messages, amt, hsplit, hamt, Storage.write_write _ _ _ _ _ _⟩

/-- Two repays of one sender in one block store what one repay of their sum stores. -/
theorem repayStable_merge {a b : Uint128} {r₁ r₂ : HandleResponse Uint128}
    (hab : a.val + b.val < 2 ^ 128)
    (h₁ : (repayStable fixed deps (env.sending s.config.stableDenom a)).run s = (.ok r₁, s₁))
    (h₂ : (repayStable fixed deps (env.sending s.config.stableDenom b)).run s₁ = (.ok r₂, s₂))
    (htax : ∀ amount : Uint128, ∃ coin, deps.deductTax ⟨s.config.stableDenom, amount⟩ = .ok coin) :
    ∃ r, (repayStable fixed deps (env.sending s.config.stableDenom ⟨a.val + b.val, hab⟩)).run s =
      (.ok r, s₂) := by
  obtain ⟨st, raw, l, rep₁, left₁, msgs₁, amt₁, hz, c1, hraw, hl, split₁, hamt₁, rfl, -⟩ :=
    repayStable_eq_ok h₁
  obtain ⟨rate, hrate, -, hlast, -⟩ := computeInterest_fixed c1
  obtain ⟨rep₂, left₂, msgs₂, amt₂, split₂, hamt₂, rfl⟩ :=
    repayStable_after_write h₂ hrate hlast (computeLoan_fixed hl).2.1 hraw
  rw [stableSent_sending] at split₁ split₂ hz
  obtain ⟨hrep₁, hleft₁, -, -⟩ := split₁.fixed_min
  obtain ⟨hrep₂, hleft₂, -, -⟩ := split₂.fixed_min
  obtain ⟨rep, left, msgs, split⟩ : ∃ repay loanLeft messages, RepaySplit fixed deps
      s.config.stableDenom env.contract.address env.message.sender ⟨a.val + b.val, hab⟩
      l.loanAmount repay loanLeft messages := RepaySplit.exists_fixed htax
  obtain ⟨hrep, hleft, -, -⟩ := split.fixed_min
  -- the single repay settles `min (a + b) p`, what the two settle together
  have hsum : rep.val = rep₁.val + rep₂.val := by
    rw [hrep, hrep₂, hleft₁, hrep₁]
    exact min_add_eq_min_add_min_sub _ _ _
  have hleft' : left = left₂ := Uint128.ext (by rw [hleft, hleft₂, hleft₁, Nat.sub_sub, hsum])
  have hfit : rep.val * decimalFractional < 2 ^ 128 :=
    (Nat.mul_le_mul_right _ (hrep ▸ min_le_right _ _)).trans_lt (computeLoan_fit hl)
  have hT : fixed.decimalSubtraction st.totalLiabilities ⟨_, hfit⟩ =
      fixed.decimalSubtraction (fixed.decimalSubtraction st.totalLiabilities amt₁) amt₂ :=
    Decimal.ext (by simp only [fixed.decimalSubtraction_raw, fixed.fromAmount_eq_some.1 hamt₁,
      fixed.fromAmount_eq_some.1 hamt₂, hsum, Nat.add_mul, Nat.sub_sub])
  have hz' : fixed.isZero (⟨a.val + b.val, hab⟩ : Uint128) = false := by
    rw [Bool.eq_false_iff, Ne, fixed.isZero_eq_true] at hz ⊢
    exact fun h0 => hz (Nat.eq_zero_of_add_eq_zero_right h0)
  refine ⟨_, Eq.trans (repayStable_run_of (by rwa [stableSent_sending]) c1 hraw hl
    (by rwa [stableSent_sending])
    (fixed.fromAmount_eq_some.2 (rfl : (⟨_, hfit⟩ : Decimal).raw = _)))
    (congrArg (Prod.mk _) ?_)⟩
  rw [hT, hleft']

end Split

end MoneyMarket
