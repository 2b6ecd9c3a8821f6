import MoneyMarket.Laws

/-!
# Calls of one borrower within a block

Within one block the calls of one borrower find the record the call before them stored, at the
index it stored it at, and accrue nothing more (`borrowStable_after_write`,
`repayStable_after_write`). So a block of borrows by one sender stores what one borrow of their
total stores (`borrows_in_block_merge`), and a block of repays what one repay of their total
stores (`repays_in_block_merge`): splitting a call changes the messages, never the storage.
-/

namespace MoneyMarket

variable {deps : Deps Uint128 Decimal} {env : Env Uint128} {s s₁ s₂ : Storage Uint128 Decimal}

theorem borrowStable_after_write {a : Uint128} {toAddr : Option HumanAddr} {st : State Decimal}
    {l : Liability Uint128 Decimal} {raw : CanonicalAddr} {rate : Decimal}
    {r : HandleResponse Uint128}
    (h : (borrowStable fixed deps env a toAddr).run (s.write raw st l) = (.ok r, s₂))
    (hrate : borrowRate deps s.config = .ok rate)
    (hlast : st.lastInterestUpdated = env.block.height)
    (hidx : l.interestIndex = st.globalInterestIndex)
    (hraw : deps.canonicalAddress env.message.sender = .ok raw) :
    ∃ limit loan total,
      (deps.humanAddress s.config.overseerContract >>= fun overseer =>
        deps.queryBorrowLimit overseer env.message.sender) = .ok limit ∧
      loan.val = l.loanAmount.val + a.val ∧ loan.val ≤ limit.val ∧
      total.raw = st.totalLiabilities.raw + a.val * decimalFractional ∧
      s₂ = s.write raw { st with totalLiabilities := total } { l with loanAmount := loan } := by
  obtain ⟨st', raw', l', o, limit, sum, loan, amt, total, -, h1, h2, h3, h4, h5, h6, h7, h8, h9,
    h10, -, rfl, -⟩ := borrowStable_eq_ok h
  cases hraw.symm.trans h2
  cases (hlast ▸ computeInterest_same_height hrate : computeInterest fixed deps s.config st
    env.block.height = _).symm.trans h1
  rw [Storage.liability_write_self] at h3
  cases computeLoan_eq_self h3 hidx
  have hsum := fixed.add_eq_some.1 h6
  have hloan := fixed.add_eq_some.1 h8
  have hlim : ¬ limit.val < sum.val := fun hlt => by
    rw [fixed.lt_eq_true.2 hlt] at h7
    cases h7
  refine ⟨limit, loan, total, except_bind_eq_ok.2 ⟨o, h4, h5⟩, hloan, by omega,
    ?_, Storage.write_write _ _ _ _ _ _⟩
  rw [fixed.decimalAdd_eq_some.1 h10, fixed.fromAmount_eq_some.1 h9]

/-- Two borrows of one sender in one block store what one borrow of their sum stores. -/
theorem borrowStable_merge {a b : Uint128} {toA toB : Option HumanAddr}
    {r₁ r₂ : HandleResponse Uint128}
    (h₁ : (borrowStable fixed deps env a toA).run s = (.ok r₁, s₁))
    (h₂ : (borrowStable fixed deps env b toB).run s₁ = (.ok r₂, s₂)) (toAddr : Option HumanAddr)
    (htax : ∀ c : Uint128, c.val = a.val + b.val →
      ∃ coin, deps.deductTax ⟨s.config.stableDenom, c⟩ = .ok coin) :
    ∃ c : Uint128, c.val = a.val + b.val ∧
      ∃ r, (borrowStable fixed deps env c toAddr).run s = (.ok r, s₂) := by
  obtain ⟨st, raw, l, o, limit, sum, loan, amt, total, -, h1, h2, h3, h4, h5, -, -, h8, h9, h10,
    -, rfl, -⟩ := borrowStable_eq_ok h₁
  obtain ⟨rate, hrate, -, hlast, -⟩ := computeInterest_fixed h1
  obtain ⟨limit₂, loan₂, total₂, hlim₂, hloan₂, hle₂, htotal₂, rfl⟩ :=
    borrowStable_after_write h₂ hrate hlast (computeLoan_fixed h3).2.1 h2
  cases (except_bind_eq_ok.2 ⟨o, h4, h5⟩).symm.trans hlim₂
  have hloan := fixed.add_eq_some.1 h8
  have htotal : total.raw = st.totalLiabilities.raw + a.val * decimalFractional := by
    rw [fixed.decimalAdd_eq_some.1 h10, fixed.fromAmount_eq_some.1 h9]
  dsimp only at hloan₂ htotal₂
  -- the second borrow's total bounds the single borrow's amount and its total
  have hT : st.totalLiabilities.raw + (a.val + b.val) * decimalFractional = total₂.raw := by
    rw [htotal₂, htotal, Nat.add_mul, Nat.add_assoc]
  have hc : a.val + b.val < 2 ^ 128 := by
    have := total₂.isLt
    have := Nat.le_mul_of_pos_right (a.val + b.val) decimalFractional_pos
    omega
  obtain ⟨coin, hcoin⟩ := htax ⟨a.val + b.val, hc⟩ rfl
  obtain ⟨loan', total', hloan', htotal', r, hrun⟩ := borrowStable_run_fixed h1 h2 h3 h4 h5
    (by dsimp only; omega) (hT ▸ total₂.isLt) hcoin
  obtain rfl : total' = total₂ := Decimal.ext (htotal'.trans hT)
  obtain rfl : loan' = loan₂ := Uint128.ext (by rw [hloan', hloan₂, hloan, Nat.add_assoc])
  exact ⟨_, rfl, r, hrun⟩

theorem borrowStable_retarget {a : Uint128} {toAddr : Option HumanAddr} {r : HandleResponse Uint128}
    (h : (borrowStable fixed deps env a toAddr).run s = (.ok r, s₁)) (toAddr' : Option HumanAddr) :
    ∃ r', (borrowStable fixed deps env a toAddr').run s = (.ok r', s₁) := by
  obtain ⟨st, raw, l, o, lim, sum, loan, amt, total, coin, h1, h2, h3, h4, h5, h6, h7, h8, h9, h10,
    h11, rfl, -⟩ := borrowStable_eq_ok h
  exact ⟨_, borrowStable_run_of h1 h2 h3 h4 h5 h6 h7 h8 h9 h10 h11⟩

theorem borrowStable_config {a : Uint128} {toAddr : Option HumanAddr} {r : HandleResponse Uint128}
    (h : (borrowStable fixed deps env a toAddr).run s = (.ok r, s₁)) : s₁.config = s.config := by
  obtain ⟨-, -, -, -, -, -, -, -, -, -, -, -, -, -, -, -, -, -, -, -, -, rfl, -⟩ :=
    borrowStable_eq_ok h
  rfl

theorem repayStable_config {r : HandleResponse Uint128}
    (h : (repayStable fixed deps env).run s = (.ok r, s₁)) : s₁.config = s.config := by
  obtain ⟨-, -, -, -, -, -, -, -, -, -, -, -, -, rfl, -⟩ := repayStable_eq_ok h
  rfl

/-- A block of borrows by one sender, each succeeding, in the order the host runs them. -/
inductive BorrowsInBlock (deps : Deps Uint128 Decimal) (env : Env Uint128) :
    Storage Uint128 Decimal → List (Uint128 × Option HumanAddr) → Storage Uint128 Decimal → Prop
  | nil (s : Storage Uint128 Decimal) : BorrowsInBlock deps env s [] s
  | cons {s s₁ s₂ : Storage Uint128 Decimal} {a : Uint128} {toAddr : Option HumanAddr}
      {calls : List (Uint128 × Option HumanAddr)} {r : HandleResponse Uint128} :
      (borrowStable fixed deps env a toAddr).run s = (.ok r, s₁) →
      BorrowsInBlock deps env s₁ calls s₂ → BorrowsInBlock deps env s ((a, toAddr) :: calls) s₂

/-- A block of repays by one sender, each succeeding and each sending one coin of `denom`. -/
inductive RepaysInBlock (deps : Deps Uint128 Decimal) (env : Env Uint128) (denom : String) :
    Storage Uint128 Decimal → List Uint128 → Storage Uint128 Decimal → Prop
  | nil (s : Storage Uint128 Decimal) : RepaysInBlock deps env denom s [] s
  | cons {s s₁ s₂ : Storage Uint128 Decimal} {a : Uint128} {amounts : List Uint128}
      {r : HandleResponse Uint128} :
      (repayStable fixed deps (env.sending denom a)).run s = (.ok r, s₁) →
      RepaysInBlock deps env denom s₁ amounts s₂ → RepaysInBlock deps env denom s (a :: amounts) s₂

theorem BorrowsInBlock.runCalls {calls : List (Uint128 × Option HumanAddr)}
    (h : BorrowsInBlock deps env s calls s₁) :
    runCalls fixed s (calls.map fun c => ⟨deps, env, .borrowStable c.1 c.2⟩) = s₁ := by
  induction h with
  | nil s => rfl
  | cons h₁ _ ih =>
    rw [List.map_cons, runCalls_cons,
      (Call.apply_of_run h₁ : Call.apply fixed ⟨deps, env, .borrowStable _ _⟩ _ = _), ih]

theorem RepaysInBlock.runCalls {denom : String} {amounts : List Uint128}
    (h : RepaysInBlock deps env denom s amounts s₁) :
    runCalls fixed s (amounts.map fun a => ⟨deps, env.sending denom a, .repayStable⟩) = s₁ := by
  induction h with
  | nil s => rfl
  | cons h₁ _ ih =>
    rw [List.map_cons, runCalls_cons,
      (Call.apply_of_run h₁ : Call.apply fixed ⟨deps, env.sending denom _, .repayStable⟩ _ = _), ih]

theorem borrowsInBlock_merge_cons {a : Uint128} {toAddr : Option HumanAddr}
    {calls : List (Uint128 × Option HumanAddr)}
    (h : BorrowsInBlock deps env s ((a, toAddr) :: calls) s₁)
    (htax : ∀ c : Uint128, ∃ coin, deps.deductTax ⟨s.config.stableDenom, c⟩ = .ok coin)
    (toAddr' : Option HumanAddr) :
    ∃ c : Uint128, c.val = a.val + (calls.map fun c => c.1.val).sum ∧
      ∃ r, (borrowStable fixed deps env c toAddr').run s = (.ok r, s₁) := by
  induction calls generalizing a toAddr s with
  | nil =>
    cases h with
    | cons h₁ rest =>
      cases rest
      exact ⟨a, by simp, borrowStable_retarget h₁ toAddr'⟩
  | cons b calls ih =>
    cases h with
    | cons h₁ rest =>
      rw [← borrowStable_config h₁] at htax
      obtain ⟨c', hc', r', h₂⟩ := ih rest htax
      rw [borrowStable_config h₁] at htax
      obtain ⟨c, hc, hrun⟩ := borrowStable_merge h₁ h₂ toAddr' fun c _ => htax c
      exact ⟨c, by rw [hc, hc', List.map_cons, List.sum_cons], hrun⟩

/-- A block of borrows by one sender stores what one borrow of their total stores. -/
theorem borrows_in_block_merge {calls : List (Uint128 × Option HumanAddr)}
    (h : BorrowsInBlock deps env s calls s₁) (hne : calls ≠ []) (toAddr : Option HumanAddr)
    (htax : ∀ c : Uint128, ∃ coin, deps.deductTax ⟨s.config.stableDenom, c⟩ = .ok coin) :
    runCalls fixed s (calls.map fun c => ⟨deps, env, .borrowStable c.1 c.2⟩) = s₁ ∧
      ∃ c : Uint128, c.val = (calls.map fun c => c.1.val).sum ∧
        ∃ r, (borrowStable fixed deps env c toAddr).run s = (.ok r, s₁) := by
  refine ⟨h.runCalls, ?_⟩
  cases calls with
  | nil => exact absurd rfl hne
  | cons call calls =>
    obtain ⟨c, hc, hrun⟩ := borrowsInBlock_merge_cons h htax toAddr
    exact ⟨c, by rw [hc, List.map_cons, List.sum_cons], hrun⟩

theorem borrows_in_block_merge_demo :
    let deps := demoDeps ⟨10 ^ 16, by decide⟩ ⟨10 ^ 24, by decide⟩ Uint128.zero
    let env := demoEnv 5 "a" []
    let s := instantiate fixed demoConfig 0
    let calls : List (Uint128 × Option HumanAddr) :=
      [(⟨10 ^ 6, by decide⟩, none), (⟨2 * 10 ^ 6, by decide⟩, some ⟨"b"⟩)]
    let s₁ := ((borrowStable fixed deps env ⟨2 * 10 ^ 6, by decide⟩ (some ⟨"b"⟩)).run
      ((borrowStable fixed deps env ⟨10 ^ 6, by decide⟩ none).run s).2).2
    BorrowsInBlock deps env s calls s₁ ∧ calls ≠ [] ∧
      (∀ c : Uint128, ∃ coin, deps.deductTax ⟨s.config.stableDenom, c⟩ = .ok coin) ∧
      runCalls fixed s (calls.map fun c => ⟨deps, env, .borrowStable c.1 c.2⟩) = s₁ ∧
      ∃ c : Uint128, c.val = (calls.map fun c => c.1.val).sum ∧
        ∃ r, (borrowStable fixed deps env c none).run s = (.ok r, s₁) := by
  refine ⟨?h, ?hne, ?htax, borrows_in_block_merge ?h ?hne none ?htax⟩
  case h => exact .cons rfl (.cons rfl (.nil _))
  case hne => exact List.cons_ne_nil _ _
  case htax =>
    refine fun amount => ⟨⟨"uusd", amount⟩, ?_⟩
    simp only [demoDeps, Uint128.sub, Uint128.zero, Nat.zero_le, dite_true, Nat.sub_zero]
    rfl

theorem repaysInBlock_merge_cons {a : Uint128} {amounts : List Uint128}
    (h : RepaysInBlock deps env s.config.stableDenom s (a :: amounts) s₁)
    (hsum : a.val + (amounts.map Uint128.val).sum < 2 ^ 128)
    (htax : ∀ c : Uint128, ∃ coin, deps.deductTax ⟨s.config.stableDenom, c⟩ = .ok coin) :
    ∃ c : Uint128, c.val = a.val + (amounts.map Uint128.val).sum ∧
      ∃ r, (repayStable fixed deps (env.sending s.config.stableDenom c)).run s = (.ok r, s₁) := by
  induction amounts generalizing a s with
  | nil =>
    cases h with
    | cons h₁ rest =>
      cases rest
      exact ⟨a, by simp, _, h₁⟩
  | cons b amounts ih =>
    cases h with
    | cons h₁ rest =>
      have hconfig := repayStable_config h₁
      rw [← hconfig] at rest htax
      rw [List.map_cons, List.sum_cons] at hsum
      obtain ⟨c', hc', r', h₂⟩ := ih rest (by omega) htax
      rw [hconfig] at htax h₂
      obtain ⟨r, hrun⟩ := repayStable_merge (by omega : a.val + c'.val < 2 ^ 128) h₁ h₂ htax
      refine ⟨_, ?_, r, hrun⟩
      rw [List.map_cons, List.sum_cons]
      exact congrArg (a.val + ·) hc'

/-- A block of repays by one sender stores what one repay of their total stores. -/
theorem repays_in_block_merge {amounts : List Uint128}
    (h : RepaysInBlock deps env s.config.stableDenom s amounts s₁) (hne : amounts ≠ [])
    (hsum : (amounts.map Uint128.val).sum < 2 ^ 128)
    (htax : ∀ c : Uint128, ∃ coin, deps.deductTax ⟨s.config.stableDenom, c⟩ = .ok coin) :
    runCalls fixed s (amounts.map fun a => ⟨deps, env.sending s.config.stableDenom a,
        .repayStable⟩) = s₁ ∧
      ∃ r, (repayStable fixed deps (env.sending s.config.stableDenom ⟨_, hsum⟩)).run s =
        (.ok r, s₁) := by
  refine ⟨h.runCalls, ?_⟩
  cases amounts with
  | nil => exact absurd rfl hne
  | cons a amounts =>
    obtain ⟨⟨v, hv⟩, hc, hrun⟩ :=
      repaysInBlock_merge_cons h (by rwa [List.map_cons, List.sum_cons] at hsum) htax
    dsimp only at hc
    subst hc
    exact hrun

theorem repays_in_block_merge_demo :
    let deps := demoDeps ⟨10 ^ 16, by decide⟩ ⟨10 ^ 24, by decide⟩ Uint128.zero
    let s := ((borrowStable fixed deps (demoEnv 5 "a" []) ⟨10 ^ 6, by decide⟩ none).run
      (instantiate fixed demoConfig 0)).2
    let env := demoEnv 7 "a" []
    let amounts : List Uint128 := [⟨3 * 10 ^ 5, by decide⟩, ⟨4 * 10 ^ 5, by decide⟩]
    let s₁ := ((repayStable fixed deps
      (env.sending s.config.stableDenom ⟨4 * 10 ^ 5, by decide⟩)).run ((repayStable fixed deps
        (env.sending s.config.stableDenom ⟨3 * 10 ^ 5, by decide⟩)).run s).2).2
    ∃ hsum : (amounts.map Uint128.val).sum < 2 ^ 128,
      RepaysInBlock deps env s.config.stableDenom s amounts s₁ ∧ amounts ≠ [] ∧
      (∀ c : Uint128, ∃ coin, deps.deductTax ⟨s.config.stableDenom, c⟩ = .ok coin) ∧
      runCalls fixed s (amounts.map fun a => ⟨deps, env.sending s.config.stableDenom a,
        .repayStable⟩) = s₁ ∧
      ∃ r, (repayStable fixed deps (env.sending s.config.stableDenom ⟨_, hsum⟩)).run s =
        (.ok r, s₁) := by
  refine ⟨?hsum, ?h, ?hne, ?htax, repays_in_block_merge ?h ?hne ?hsum ?htax⟩
  case hsum => decide
  case h => exact .cons rfl (.cons rfl (.nil _))
  case hne => exact List.cons_ne_nil _ _
  case htax =>
    refine fun amount => ⟨⟨"uusd", amount⟩, ?_⟩
    simp only [demoDeps, Uint128.sub, Uint128.zero, Nat.zero_le, dite_true, Nat.sub_zero]
    rfl

end MoneyMarket
