import MoneyMarket.Handlers

/-!
# Calls in one block

The handlers read the state only to accrue it, so a call runs alike from two states that accrue
to the same state at its height (`handle_run_withState`). A second accrual in a block passes zero
blocks and changes nothing (`computeInterest_same_height`), so the calls of a block run from the
stored state as from the state accrued once at the block's height: each call fails from both or
ends alike from both (`Call.apply_withState`), and the block either leaves the storage as it was
or ends where the run from the once-accrued state ends (`runCalls_withState`).

From an accrued state a call keeps the config, the index, the reserves and the height
(`KeepsAccrual`), and moves the liabilities by its own settlement only: up by what a borrow
lends, down by what a repay repays, clamped at zero (`Call.apply_accrued`, `Call.settledTotal`).
A block of calls therefore accrues at most once (`same_block_accrues_once`), but not at all when
no call succeeds (`failed_call_accrues_nothing`).
-/

namespace MoneyMarket

section Transport

variable {U D : Type} {A : Arith U D} {deps : Deps U D} {env : Env U} {s s' : Storage U D}
  {r : HandleResponse U} {x : State D}

theorem repayStable_run_withState (h : (repayStable A deps env).run s = (.ok r, s'))
    (hx : computeInterest A deps s.config x env.block.height =
      computeInterest A deps s.config s.state env.block.height) :
    (repayStable A deps env).run { s with state := x } = (.ok r, s') := by
  obtain ⟨st, raw, l, repay, loanLeft, messages, amt, hz, h1, h2, h3, hsplit, h5, rfl, rfl⟩ :=
    repayStable_eq_ok h
  exact repayStable_run_of hz (hx.trans h1) h2 h3 hsplit h5

theorem handle_run_withState (msg : HandleMsg U)
    (hx : computeInterest A deps s.config x env.block.height =
      computeInterest A deps s.config s.state env.block.height)
    (h : (handle A deps env msg).run s = (.ok r, s')) :
    (handle A deps env msg).run { s with state := x } = (.ok r, s') := by
  cases msg with
  | borrowStable a toAddr =>
    obtain ⟨st, raw, l, o, limit, sum, loan, amt, total, coin, h1, h2, h3, h4, h5, h6, h7, h8, h9,
      h10, h11, rfl, rfl⟩ := borrowStable_eq_ok h
    exact borrowStable_run_of (hx.trans h1) h2 h3 h4 h5 h6 h7 h8 h9 h10 h11
  | repayStable => exact repayStable_run_withState h hx
  | repayStableFromLiquidation borrower prevBalance =>
    obtain ⟨_, _, h1, h2, h3, h4⟩ := repayStableFromLiquidation_eq_ok h
    have h6 : (repayStableFromLiquidation A deps env borrower prevBalance).run
        { s with state := x } = _ := repayStableFromLiquidation_run_of h1 h2 h3
    exact h6.trans (repayStable_run_withState h4 hx)

theorem Call.apply_withState (c : Call U D) (s : Storage U D)
    (hx : computeInterest A c.deps s.config x c.env.block.height =
      computeInterest A c.deps s.config s.state c.env.block.height) :
    (c.apply A s = s ∧ c.apply A { s with state := x } = { s with state := x }) ∨
      c.apply A { s with state := x } = c.apply A s := by
  rcases c.apply_cases s with hs | ⟨r, hr⟩
  · rcases c.apply_cases { s with state := x } with hs' | ⟨r', hr'⟩
    · exact .inl ⟨hs, hs'⟩
    · have h : c.apply A s = c.apply A { s with state := x } :=
        c.apply_of_run (@handle_run_withState U D A c.deps c.env { s with state := x } _ r' s.state
          c.msg hx.symm hr')
      exact .inr h.symm
  · exact .inr (c.apply_of_run (handle_run_withState c.msg hx hr))

@[simp] theorem runCalls_nil (s : Storage U D) : runCalls A s [] = s := rfl

@[simp] theorem runCalls_cons (s : Storage U D) (c : Call U D) (calls : List (Call U D)) :
    runCalls A s (c :: calls) = runCalls A (c.apply A s) calls := rfl

theorem runCalls_append (s : Storage U D) (pre post : List (Call U D)) :
    runCalls A s (pre ++ post) = runCalls A (runCalls A s pre) post :=
  List.foldl_append _ _ _ _

theorem runCalls_withState {calls : List (Call U D)}
    (hx : ∀ c ∈ calls, computeInterest A c.deps s.config x c.env.block.height =
      computeInterest A c.deps s.config s.state c.env.block.height) :
    (runCalls A s calls = s ∧ runCalls A { s with state := x } calls = { s with state := x }) ∨
      runCalls A { s with state := x } calls = runCalls A s calls := by
  induction calls with
  | nil => exact .inl ⟨rfl, rfl⟩
  | cons c calls ih =>
    rcases c.apply_withState s (hx c (List.mem_cons_self _ _)) with ⟨h₁, h₂⟩ | h
    · simp only [runCalls_cons, h₁, h₂]
      exact ih fun c hc => hx c (List.mem_cons_of_mem _ hc)
    · exact .inr (by rw [runCalls_cons, runCalls_cons, h])

end Transport

section Fixed

variable {s : Storage Uint128 Decimal}

/-- What a call tendered to repay: the first stable coin it sent, or, for a liquidation, what
reached the contract since `prev_balance`. -/
def Call.tendered (config : Config Decimal) (c : Call Uint128 Decimal) : Nat :=
  match c.msg with
  | .borrowStable .. => 0
  | .repayStable => (stableSent fixed config.stableDenom c.env.message.sentFunds).val
  | .repayStableFromLiquidation _ prevBalance =>
    match c.deps.queryBalance c.env.contract.address config.stableDenom with
    | .ok curBalance => curBalance.val - prevBalance.val
    | .error _ => 0

/-- The liabilities `total` become after a successful call for a borrower who owes `debt`: a
borrow adds what it lends; a repay takes off the lesser of the debt and what it tendered, clamped
at zero. -/
def Call.settledTotal (config : Config Decimal) (c : Call Uint128 Decimal) (total debt : Nat) :
    Nat :=
  match c.msg with
  | .borrowStable borrowAmount _ => total + borrowAmount.val * decimalFractional
  | _ => total - min (c.tendered config) debt * decimalFractional

/-- `t` has the config, the index, the reserves and the accrual height of `s`. -/
structure KeepsAccrual (s t : Storage Uint128 Decimal) : Prop where
  config : t.config = s.config
  index : t.state.globalInterestIndex = s.state.globalInterestIndex
  reserves : t.state.totalReserves = s.state.totalReserves
  height : t.state.lastInterestUpdated = s.state.lastInterestUpdated

theorem KeepsAccrual.refl (s : Storage Uint128 Decimal) : KeepsAccrual s s :=
  ⟨rfl, rfl, rfl, rfl⟩

theorem KeepsAccrual.trans {t u : Storage Uint128 Decimal} (h₁ : KeepsAccrual s t)
    (h₂ : KeepsAccrual t u) : KeepsAccrual s u :=
  ⟨h₂.config.trans h₁.config, h₂.index.trans h₁.index, h₂.reserves.trans h₁.reserves,
    h₂.height.trans h₁.height⟩

theorem keepsAccrual_write (k : CanonicalAddr) (total : Decimal) (l : Liability Uint128 Decimal) :
    KeepsAccrual s (s.write k { s.state with totalLiabilities := total } l) :=
  ⟨rfl, rfl, rfl, rfl⟩

theorem Call.apply_settles (c : Call Uint128 Decimal) (s : Storage Uint128 Decimal)
    {st : State Decimal} {r : HandleResponse Uint128}
    (hst : computeInterest fixed c.deps s.config s.state c.env.block.height = .ok st)
    (hr : (handle fixed c.deps c.env c.msg).run s = (.ok r, c.apply fixed s)) :
    ∃ raw, c.deps.canonicalAddress (c.msg.borrower c.env) = .ok raw ∧
      c.apply fixed s = s.write raw
        { st with totalLiabilities := (c.apply fixed s).state.totalLiabilities }
        ((c.apply fixed s).liability fixed raw) ∧
      (c.apply fixed s).state.totalLiabilities.raw =
        c.settledTotal s.config st.totalLiabilities.raw
          (projectedLoan st.globalInterestIndex (s.liability fixed raw)) := by
  obtain ⟨st₁, raw, l, total, loan, h1, h2, h3, -, hs⟩ := handle_eq_ok hr
  cases hst.symm.trans h1
  have hl := (computeLoan_fixed h3).2.2
  refine ⟨raw, h2, by rw [hs, Storage.liability_write_self]; rfl, ?_⟩
  obtain ⟨deps, env, msg⟩ := c
  cases msg with
  | borrowStable a toAddr =>
    obtain ⟨st', raw', l', -, -, -, loan', amt, total', -, h1', -, -, -, -, -, -, -, h9, h10, -, hs',
      -⟩ := borrowStable_eq_ok hr
    cases hst.symm.trans h1'
    rw [hs', Storage.write_state, fixed.decimalAdd_eq_some.1 h10, fixed.fromAmount_eq_some.1 h9]
    rfl
  | repayStable =>
    obtain ⟨st', raw', l', h1', h2', h3', -, -, hT, -⟩ := repayStable_repaidAs hr
    cases hst.symm.trans h1'
    cases h2.symm.trans h2'
    cases h3.symm.trans h3'
    rw [hT, hl]
    rfl
  | repayStableFromLiquidation borrower prevBalance =>
    obtain ⟨cur, -, hbal, -, st', raw', l', h1', h2', h3', -, -, hT, -⟩ :=
      repayStableFromLiquidation_repaidAs hr
    cases hst.symm.trans h1'
    cases h2.symm.trans h2'
    cases h3.symm.trans h3'
    dsimp only at hbal
    simp only [Call.settledTotal, Call.tendered, hbal, hT, hl]

theorem Call.apply_accrued (c : Call Uint128 Decimal) (s : Storage Uint128 Decimal)
    {rate : Decimal} (hrate : borrowRate c.deps s.config = .ok rate)
    (hh : c.env.block.height = s.state.lastInterestUpdated) :
    KeepsAccrual s (c.apply fixed s) ∧
      ((∃ e, c.result fixed s = .error e ∧ c.apply fixed s = s) ∨
        ∃ r raw, c.result fixed s = .ok r ∧
          c.deps.canonicalAddress (c.msg.borrower c.env) = .ok raw ∧
          (c.apply fixed s).state.totalLiabilities.raw =
            c.settledTotal s.config s.state.totalLiabilities.raw
              (projectedLoan s.state.globalInterestIndex (s.liability fixed raw))) := by
  rcases hrun : (handle fixed c.deps c.env c.msg).run s with ⟨e | r, s'⟩
  · obtain ⟨he, ha⟩ := Call.result_of_error hrun
    rw [ha]
    exact ⟨KeepsAccrual.refl s, .inl ⟨e, he, rfl⟩⟩
  rw [← Call.apply_of_run hrun] at hrun
  have hst : computeInterest fixed c.deps s.config s.state c.env.block.height = .ok s.state := by
    rw [hh]
    exact computeInterest_same_height hrate
  obtain ⟨raw, h2, hs, hT⟩ := c.apply_settles s hst hrun
  exact ⟨by rw [hs]; exact keepsAccrual_write raw _ _,
    .inr ⟨r, raw, Call.result_of_run hrun, h2, hT⟩⟩

theorem runCalls_accrued {rate : Decimal} {calls : List (Call Uint128 Decimal)}
    (hcalls : ∀ c ∈ calls, c.env.block.height = s.state.lastInterestUpdated ∧
      borrowRate c.deps s.config = .ok rate) :
    KeepsAccrual s (runCalls fixed s calls) := by
  induction calls generalizing s with
  | nil => exact KeepsAccrual.refl s
  | cons c calls ih =>
    obtain ⟨hh, hrate⟩ := hcalls c (List.mem_cons_self _ _)
    have hk := (c.apply_accrued s hrate hh).1
    refine hk.trans (ih fun c' hc' => ?_)
    rw [hk.height, hk.config]
    exact hcalls c' (List.mem_cons_of_mem _ hc')

/-- A block of calls at `h` leaves the storage as it was, or ends as the calls run from the state
accrued once at `h`; along that run each call fails, or succeeds and settles only its own amount. -/
theorem same_block_accrues_once {deps₀ : Deps Uint128 Decimal} {h : UInt64} {st₀ : State Decimal}
    {calls : List (Call Uint128 Decimal)}
    (h₀ : computeInterest fixed deps₀ s.config s.state h = .ok st₀)
    (hcalls : ∀ c ∈ calls, c.env.block.height = h ∧
      borrowRate c.deps s.config = borrowRate deps₀ s.config) :
    (runCalls fixed s calls = s ∨
      runCalls fixed s calls = runCalls fixed { s with state := st₀ } calls ∧
        (runCalls fixed s calls).config = s.config ∧
        (runCalls fixed s calls).state.globalInterestIndex = st₀.globalInterestIndex ∧
        (runCalls fixed s calls).state.totalReserves = st₀.totalReserves ∧
        (runCalls fixed s calls).state.lastInterestUpdated = h) ∧
      ∀ pre c post, calls = pre ++ c :: post →
        (∃ e, c.result fixed (runCalls fixed { s with state := st₀ } pre) = .error e ∧
            c.apply fixed (runCalls fixed { s with state := st₀ } pre) =
              runCalls fixed { s with state := st₀ } pre) ∨
          ∃ r raw, c.result fixed (runCalls fixed { s with state := st₀ } pre) = .ok r ∧
            c.deps.canonicalAddress (c.msg.borrower c.env) = .ok raw ∧
            (c.apply fixed (runCalls fixed { s with state := st₀ } pre)).state.totalLiabilities.raw =
              c.settledTotal s.config
                (runCalls fixed { s with state := st₀ } pre).state.totalLiabilities.raw
                (projectedLoan st₀.globalInterestIndex
                  ((runCalls fixed { s with state := st₀ } pre).liability fixed raw)) := by
  obtain ⟨rate, hrate, -, hlast, -⟩ := computeInterest_fixed h₀
  have hacc : ∀ c ∈ calls, c.env.block.height = st₀.lastInterestUpdated ∧
      borrowRate c.deps s.config = .ok rate := fun c hc =>
    ⟨(hcalls c hc).1.trans hlast.symm, (hcalls c hc).2.trans hrate⟩
  have hx : ∀ c ∈ calls, computeInterest fixed c.deps s.config st₀ c.env.block.height =
      computeInterest fixed c.deps s.config s.state c.env.block.height := fun c hc => by
    rw [(hacc c hc).1, computeInterest_same_height (hacc c hc).2, hlast,
      computeInterest_congr (hcalls c hc).2, h₀]
  refine ⟨?_, fun pre c post hsplit => ?_⟩
  · rcases runCalls_withState hx with ⟨hs, -⟩ | hs
    · exact .inl hs
    · have hk : KeepsAccrual { s with state := st₀ } (runCalls fixed { s with state := st₀ } calls) :=
        runCalls_accrued hacc
      rw [hs] at hk
      exact .inr ⟨hs.symm, hk.config, hk.index, hk.reserves, hk.height.trans hlast⟩
  · have hmem : ∀ c' ∈ pre ++ c :: post, c' ∈ calls := fun c' hc' => hsplit ▸ hc'
    have hk : KeepsAccrual { s with state := st₀ } (runCalls fixed { s with state := st₀ } pre) :=
      runCalls_accrued fun c' hc' => hacc c' (hmem c' (List.mem_append_left _ hc'))
    obtain ⟨hh, hr⟩ := hacc c (hmem c (List.mem_append_right _ (List.mem_cons_self _ _)))
    have := (c.apply_accrued (runCalls fixed { s with state := st₀ } pre)
      (hk.config ▸ hr) (hh.trans hk.height.symm)).2
    rwa [hk.config, hk.index] at this

theorem same_block_accrues_once_demo :
    let deps₀ := demoDeps ⟨10 ^ 16, by decide⟩ ⟨10 ^ 24, by decide⟩ Uint128.zero
    let s := instantiate fixed demoConfig 0
    let st₀ : State Decimal := ⟨⟨0, by decide⟩, ⟨0, by decide⟩, 5, ⟨105 * 10 ^ 16, by decide⟩⟩
    let calls := [Call.mk deps₀ (demoEnv 5 "a" []) (.borrowStable ⟨10 ^ 6, by decide⟩ none),
      Call.mk deps₀ (demoEnv 5 "a" [⟨"uusd", ⟨4 * 10 ^ 5, by decide⟩⟩]) .repayStable]
    computeInterest fixed deps₀ s.config s.state 5 = .ok st₀ ∧
    (∀ c ∈ calls, c.env.block.height = 5 ∧
      borrowRate c.deps s.config = borrowRate deps₀ s.config) ∧
    (runCalls fixed s calls = s ∨
      runCalls fixed s calls = runCalls fixed { s with state := st₀ } calls ∧
        (runCalls fixed s calls).config = s.config ∧
        (runCalls fixed s calls).state.globalInterestIndex = st₀.globalInterestIndex ∧
        (runCalls fixed s calls).state.totalReserves = st₀.totalReserves ∧
        (runCalls fixed s calls).state.lastInterestUpdated = 5) ∧
      ∀ pre c post, calls = pre ++ c :: post →
        (∃ e, c.result fixed (runCalls fixed { s with state := st₀ } pre) = .error e ∧
            c.apply fixed (runCalls fixed { s with state := st₀ } pre) =
              runCalls fixed { s with state := st₀ } pre) ∨
          ∃ r raw, c.result fixed (runCalls fixed { s with state := st₀ } pre) = .ok r ∧
            c.deps.canonicalAddress (c.msg.borrower c.env) = .ok raw ∧
            (c.apply fixed (runCalls fixed { s with state := st₀ } pre)).state.totalLiabilities.raw =
              c.settledTotal s.config
                (runCalls fixed { s with state := st₀ } pre).state.totalLiabilities.raw
                (projectedLoan st₀.globalInterestIndex
                  ((runCalls fixed { s with state := st₀ } pre).liability fixed raw)) :=
  have h₀ : computeInterest fixed (demoDeps ⟨10 ^ 16, by decide⟩ ⟨10 ^ 24, by decide⟩ Uint128.zero)
      demoConfig (instantiate fixed demoConfig 0).state 5 =
        .ok ⟨⟨0, by decide⟩, ⟨0, by decide⟩, 5, ⟨105 * 10 ^ 16, by decide⟩⟩ := rfl
  have hcalls : ∀ c ∈ [Call.mk (demoDeps ⟨10 ^ 16, by decide⟩ ⟨10 ^ 24, by decide⟩ Uint128.zero)
        (demoEnv 5 "a" []) (.borrowStable ⟨10 ^ 6, by decide⟩ none),
      Call.mk (demoDeps ⟨10 ^ 16, by decide⟩ ⟨10 ^ 24, by decide⟩ Uint128.zero)
        (demoEnv 5 "a" [⟨"uusd", ⟨4 * 10 ^ 5, by decide⟩⟩]) .repayStable],
      c.env.block.height = 5 ∧ borrowRate c.deps demoConfig =
        borrowRate (demoDeps ⟨10 ^ 16, by decide⟩ ⟨10 ^ 24, by decide⟩ Uint128.zero) demoConfig := by
    rw [List.forall_mem_cons, List.forall_mem_cons]
    exact ⟨⟨rfl, rfl⟩, ⟨rfl, rfl⟩, fun _ h => absurd h (List.not_mem_nil _)⟩
  ⟨h₀, hcalls, same_block_accrues_once h₀ hcalls⟩

/-- A repay of no coins at height 5, after instantiation at height 0 at a rate of 1% a block:
the call fails, so the index stays at one, where one accrual at height 5 would give 1.05. -/
theorem failed_call_accrues_nothing :
    let deps := demoDeps ⟨10 ^ 16, by decide⟩ ⟨10 ^ 24, by decide⟩ Uint128.zero
    let s := instantiate fixed demoConfig 0
    (runCalls fixed s [⟨deps, demoEnv 5 "a" [], .repayStable⟩]).state.globalInterestIndex.raw =
        10 ^ 18 ∧
      (computeInterest fixed deps s.config s.state 5).map (·.globalInterestIndex.raw) =
        .ok (105 * 10 ^ 16) :=
  ⟨rfl, rfl⟩

end Fixed

end MoneyMarket
