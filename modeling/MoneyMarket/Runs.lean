import MoneyMarket.SameBlock

/-!
# Whole runs: who moves what, and when nothing moves again

Across any run of calls, at any heights and in any order, the storage changes only as the
handlers allow. A record changes only in a call that acts for its borrower, and a liquidation
changes it only when the overseer sent it (`Call.apply_authorized`, `runCalls_authorized`): no
call borrows against another's record, and only the overseer repays for someone else.

Accrual never runs backwards. A call below the last accrual traps and is rolled back, and
`compute_interest` multiplies the index by `1 + f` and adds to the reserves, so no call lowers the
accrual height, the index or the reserves, and none writes the config (`runCalls_accruedFrom`).

On `Decimal`s `compute_interest` takes five values that must fit a `u128`: the blocks passed as a
`Decimal`, `1 + f`, the new index, the new liabilities and the new reserves, where `f` is the
blocks passed times the rate (`AccrualFits`, `computeInterest_fixed_ok_iff`). Each only grows with
the blocks passed and with the rate (`AccrualFits.mono`). So an accrual that overflows at a height
overflows at every later height from the same state, at any rate no lower
(`computeInterest_ok_of_le`).

Every handler accrues before it writes. Once accrual overflows at a height, every call there or
later traps and is rolled back, so the storage never changes again (`runCalls_frozen`): no
borrower can repay, and every debt stays locked at the value it had.
-/

namespace MoneyMarket

section Authority

variable {U D : Type} {A : Arith U D}

section Records

def HandleMsg.isLiquidation : HandleMsg U → Bool
  | .repayStableFromLiquidation .. => true
  | _ => false

/-- What a call needs to change the record at `k`: it acts for the borrower at `k`, and if it
liquidates, the overseer at `overseer` sent it. -/
def Call.Authorized (c : Call U D) (overseer k : CanonicalAddr) : Prop :=
  c.deps.canonicalAddress (c.msg.borrower c.env) = .ok k ∧
    (c.msg.isLiquidation = true → c.deps.canonicalAddress c.env.message.sender = .ok overseer)

theorem Call.apply_config (c : Call U D) (s : Storage U D) : (c.apply A s).config = s.config := by
  rcases c.apply_cases s with h | ⟨r, hr⟩
  · rw [h]
  · obtain ⟨st, raw, l, total, loan, -, -, -, -, hs⟩ := handle_eq_ok hr
    rw [hs, Storage.write_config]

theorem Call.apply_authorized (c : Call U D) (s : Storage U D) {k : CanonicalAddr}
    (h : (c.apply A s).liabilities.lookup k ≠ s.liabilities.lookup k) :
    c.Authorized s.config.overseerContract k := by
  rcases c.apply_cases s with hs | ⟨r, hr⟩
  · exact absurd (congrArg (·.liabilities.lookup k) hs) h
  obtain ⟨st, raw, l, total, loan, -, hraw, -, -, hs⟩ := handle_eq_ok hr
  obtain rfl : k = raw := by
    by_contra hne
    exact h (hs ▸ Storage.lookup_write_ne _ _ _ hne)
  refine ⟨hraw, fun hliq => ?_⟩
  obtain ⟨deps, env, msg⟩ := c
  cases msg with
  | repayStableFromLiquidation b p =>
    obtain ⟨_, _, hauth, -⟩ := repayStableFromLiquidation_eq_ok hr
    exact hauth
  | _ => cases hliq

/-- Across any run, the record at `k` changes only if a call of the run acts for its borrower,
sent by the overseer if it liquidates. -/
theorem runCalls_authorized (s : Storage U D) (calls : List (Call U D)) {k : CanonicalAddr}
    (h : (runCalls A s calls).liabilities.lookup k ≠ s.liabilities.lookup k) :
    ∃ c ∈ calls, c.Authorized s.config.overseerContract k := by
  induction calls generalizing s with
  | nil => exact absurd rfl h
  | cons c calls ih =>
    by_cases hc : (c.apply A s).liabilities.lookup k = s.liabilities.lookup k
    · obtain ⟨c', hc', hauth⟩ := ih (c.apply A s) fun he => h (he.trans hc)
      rw [c.apply_config s] at hauth
      exact ⟨c', List.mem_cons_of_mem c hc', hauth⟩
    · exact ⟨c, List.mem_cons_self c calls, c.apply_authorized s hc⟩

theorem runCalls_authorized_demo :
    let deps := demoDeps ⟨10 ^ 16, by decide⟩ ⟨10 ^ 24, by decide⟩ Uint128.zero
    let s := instantiate fixed demoConfig 0
    let calls := [Call.mk deps (demoEnv 5 "a" []) (.borrowStable ⟨10 ^ 6, by decide⟩ none)]
    (runCalls fixed s calls).liabilities.lookup ⟨[97]⟩ ≠ s.liabilities.lookup ⟨[97]⟩ ∧
      ∃ c ∈ calls, c.Authorized s.config.overseerContract ⟨[97]⟩ := by
  refine ⟨?h, runCalls_authorized _ _ ?h⟩
  case h => exact Option.ne_none_iff_isSome.2 rfl

end Records

section Accrual

/-- `s'` has accrued at least as far as `s`: under the same config, at an accrual height, an index
and reserves no lower. -/
structure AccruedFrom (s s' : Storage Uint128 Decimal) : Prop where
  config : s'.config = s.config
  height : s.state.lastInterestUpdated ≤ s'.state.lastInterestUpdated
  index : s.state.globalInterestIndex.raw ≤ s'.state.globalInterestIndex.raw
  reserves : s.state.totalReserves.raw ≤ s'.state.totalReserves.raw

theorem AccruedFrom.refl (s : Storage Uint128 Decimal) : AccruedFrom s s :=
  ⟨rfl, UInt64.le_refl _, le_rfl, le_rfl⟩

theorem AccruedFrom.trans {s₁ s₂ s₃ : Storage Uint128 Decimal} (h₁ : AccruedFrom s₁ s₂)
    (h₂ : AccruedFrom s₂ s₃) : AccruedFrom s₁ s₃ :=
  ⟨h₂.config.trans h₁.config, UInt64.le_trans h₁.height h₂.height, h₁.index.trans h₂.index,
    h₁.reserves.trans h₂.reserves⟩

theorem Call.apply_accruedFrom (c : Call Uint128 Decimal) (s : Storage Uint128 Decimal) :
    AccruedFrom s (c.apply fixed s) := by
  rcases c.apply_cases s with h | ⟨r, hr⟩
  · rw [h]
    exact .refl s
  obtain ⟨st, raw, l, total, loan, h1, -, -, -, hs⟩ := handle_eq_ok hr
  obtain ⟨hh, hG, hR⟩ := computeInterest_mono h1
  rw [hs]
  exact ⟨rfl, hh, hG, hR⟩

/-- Across any run of calls, at any heights and in any order, the config stays, and the accrual
height, the index and the reserves never decrease. -/
theorem runCalls_accruedFrom (s : Storage Uint128 Decimal) (calls : List (Call Uint128 Decimal)) :
    AccruedFrom s (runCalls fixed s calls) := by
  induction calls generalizing s with
  | nil => exact .refl s
  | cons c calls ih => exact (c.apply_accruedFrom s).trans (ih _)

end Accrual

end Authority

section Freeze

variable {deps : Deps Uint128 Decimal} {config : Config Decimal} {state : State Decimal}
  {h : UInt64}

/-- What accruing `n` blocks at `rate` takes to fit a `u128`: the blocks as a `Decimal`, `1 + f`,
the new index, the new liabilities and the new reserves, with `f = n * rate`. -/
structure AccrualFits (config : Config Decimal) (state : State Decimal) (n : Nat) (rate : Decimal) :
    Prop where
  blocks : n * decimalFractional < 2 ^ 128
  factor : decimalFractional + n * rate.raw < 2 ^ 128
  index : state.globalInterestIndex.raw * (decimalFractional + n * rate.raw) / decimalFractional <
    2 ^ 128
  liabilities : state.totalLiabilities.raw +
    state.totalLiabilities.raw * (n * rate.raw) / decimalFractional < 2 ^ 128
  reserves : state.totalReserves.raw + state.totalLiabilities.raw * (n * rate.raw) /
    decimalFractional * config.reserveFactor.raw / decimalFractional < 2 ^ 128

/-- In the code's reading accrual goes through exactly when the rate query answers, the height is
not below the last update, and the accrual fits. -/
theorem computeInterest_fixed_ok_iff :
    (∃ st, computeInterest fixed deps config state h = .ok st) ↔
      ∃ rate, borrowRate deps config = .ok rate ∧ state.lastInterestUpdated ≤ h ∧
        AccrualFits config state (h.toNat - state.lastInterestUpdated.toNat) rate := by
  constructor
  · rintro ⟨st, hc⟩
    simp only [computeInterest, except_bind_eq_ok, liftStd_eq_ok, liftOption_eq_ok,
      Except.ok.injEq, subU64_eq_some, fixed.fromBlocks_eq_some,
      fixed.decimalMultiplication_eq_some, fixed.decimalAdd_eq_some, fixed.decimalOne_raw] at hc
    obtain ⟨m, hm, rate, hr, _, ⟨hle, rfl⟩, blocks, hb, fac, hf, acc, hacc, one', hone, g, hg, t,
      ht, res, hres, r, hrr, -⟩ := hc
    have hfac : fac.raw = (h.toNat - state.lastInterestUpdated.toNat) * rate.raw := by
      rw [hf, hb, Nat.mul_right_comm, Nat.mul_div_cancel _ decimalFractional_pos]
    exact ⟨rate, except_bind_eq_ok.2 ⟨m, hm, hr⟩, hle, hb ▸ blocks.isLt, hfac ▸ hone ▸ one'.isLt,
      hfac ▸ hone ▸ hg ▸ g.isLt, hfac ▸ hacc ▸ ht ▸ t.isLt, hfac ▸ hacc ▸ hres ▸ hrr ▸ r.isLt⟩
  · rintro ⟨rate, hr, hle, hfits⟩
    obtain ⟨m, hm, hq⟩ := except_bind_eq_ok.1 hr
    -- each step's value, fitting by `hfits`
    have hf : (h.toNat - state.lastInterestUpdated.toNat) * rate.raw < 2 ^ 128 := by
      have := hfits.factor
      omega
    have hI : state.totalLiabilities.raw *
        ((h.toNat - state.lastInterestUpdated.toNat) * rate.raw) / decimalFractional < 2 ^ 128 := by
      have := hfits.liabilities
      omega
    have hR : state.totalLiabilities.raw *
        ((h.toNat - state.lastInterestUpdated.toNat) * rate.raw) / decimalFractional *
          config.reserveFactor.raw / decimalFractional < 2 ^ 128 := by
      have := hfits.reserves
      omega
    have e1 : fixed.fromBlocks (h.toNat - state.lastInterestUpdated.toNat) =
        some ⟨_, hfits.blocks⟩ := fixed.fromBlocks_eq_some.2 rfl
    have e2 : fixed.decimalMultiplication ⟨_, hfits.blocks⟩ rate = some ⟨_, hf⟩ :=
      fixed.decimalMultiplication_eq_some.2 (by
        dsimp only
        rw [Nat.mul_right_comm, Nat.mul_div_cancel _ decimalFractional_pos])
    have e3 : fixed.decimalMultiplication state.totalLiabilities ⟨_, hf⟩ = some ⟨_, hI⟩ :=
      fixed.decimalMultiplication_eq_some.2 rfl
    have e4 : fixed.decimalAdd fixed.decimalOne ⟨_, hf⟩ = some ⟨_, hfits.factor⟩ :=
      fixed.decimalAdd_eq_some.2 rfl
    have e5 : fixed.decimalMultiplication state.globalInterestIndex ⟨_, hfits.factor⟩ =
        some ⟨_, hfits.index⟩ := fixed.decimalMultiplication_eq_some.2 rfl
    have e6 : fixed.decimalAdd state.totalLiabilities ⟨_, hI⟩ = some ⟨_, hfits.liabilities⟩ :=
      fixed.decimalAdd_eq_some.2 rfl
    have e7 : fixed.decimalMultiplication ⟨_, hI⟩ config.reserveFactor = some ⟨_, hR⟩ :=
      fixed.decimalMultiplication_eq_some.2 rfl
    have e8 : fixed.decimalAdd state.totalReserves ⟨_, hR⟩ = some ⟨_, hfits.reserves⟩ :=
      fixed.decimalAdd_eq_some.2 rfl
    exact ⟨_, by simp only [computeInterest, hm, hq, subU64, if_pos hle, liftStd_ok,
      liftOption_some, except_ok_bind, e1, e2, e3, e4, e5, e6, e7, e8]; rfl⟩

theorem AccrualFits.mono {n n' : Nat} {rate rate' : Decimal} (h : AccrualFits config state n' rate')
    (hn : n ≤ n') (hr : rate.raw ≤ rate'.raw) : AccrualFits config state n rate := by
  have hf : n * rate.raw ≤ n' * rate'.raw := Nat.mul_le_mul hn hr
  have hI : state.totalLiabilities.raw * (n * rate.raw) / decimalFractional ≤
      state.totalLiabilities.raw * (n' * rate'.raw) / decimalFractional :=
    Nat.div_le_div_right (Nat.mul_le_mul_left _ hf)
  exact ⟨(Nat.mul_le_mul_right _ hn).trans_lt h.blocks,
    (Nat.add_le_add_left hf _).trans_lt h.factor,
    (Nat.div_le_div_right (Nat.mul_le_mul_left _ (Nat.add_le_add_left hf _))).trans_lt h.index,
    (Nat.add_le_add_left hI _).trans_lt h.liabilities,
    (Nat.add_le_add_left (Nat.div_le_div_right (Nat.mul_le_mul_right _ hI)) _).trans_lt
      h.reserves⟩

theorem computeInterest_ok_of_le {deps' : Deps Uint128 Decimal} {h' : UInt64} {rate : Decimal}
    (hrate : borrowRate deps config = .ok rate) (hlast : state.lastInterestUpdated ≤ h)
    (hh : h ≤ h') (hok : ∃ st, computeInterest fixed deps' config state h' = .ok st)
    (hle : ∀ r, borrowRate deps' config = .ok r → rate.raw ≤ r.raw) :
    ∃ st, computeInterest fixed deps config state h = .ok st := by
  obtain ⟨r, hr, -, hfits⟩ := computeInterest_fixed_ok_iff.1 hok
  have := UInt64.le_iff_toNat_le.1 hh
  exact computeInterest_fixed_ok_iff.2 ⟨rate, hrate, hlast, hfits.mono (by omega) (hle r hr)⟩

section Frozen

variable {s : Storage Uint128 Decimal} {rate : Decimal}

theorem Call.apply_frozen (hrate : borrowRate deps s.config = .ok rate)
    (hlast : s.state.lastInterestUpdated ≤ h)
    (hover : computeInterest fixed deps s.config s.state h = .error .abort)
    (c : Call Uint128 Decimal) (hh : h ≤ c.env.block.height)
    (hle : ∀ r, borrowRate c.deps s.config = .ok r → rate.raw ≤ r.raw) :
    c.apply fixed s = s := by
  rcases c.apply_cases s with hs | ⟨r, hr⟩
  · exact hs
  obtain ⟨st, raw, l, total, loan, h1, -⟩ := handle_eq_ok hr
  obtain ⟨st', hst'⟩ := computeInterest_ok_of_le hrate hlast hh ⟨st, h1⟩ hle
  cases hover.symm.trans hst'

/-- Once accrual traps at a height `h`, the market is frozen: every run of calls at `h` or later,
whose interest models quote no lower rate, leaves the storage as it was. -/
theorem runCalls_frozen (hrate : borrowRate deps s.config = .ok rate)
    (hlast : s.state.lastInterestUpdated ≤ h)
    (hover : computeInterest fixed deps s.config s.state h = .error .abort)
    (calls : List (Call Uint128 Decimal))
    (hcalls : ∀ c ∈ calls, h ≤ c.env.block.height ∧
      ∀ r, borrowRate c.deps s.config = .ok r → rate.raw ≤ r.raw) :
    runCalls fixed s calls = s := by
  induction calls with
  | nil => rfl
  | cons c calls ih =>
    obtain ⟨hh, hle⟩ := hcalls c (List.mem_cons_self c calls)
    rw [runCalls_cons, Call.apply_frozen hrate hlast hover c hh hle]
    exact ih fun c' hc' => hcalls c' (List.mem_cons_of_mem c hc')

/-- At an index of `2¹²⁷` units and 1% a block, accrual to height 100 overflows: a repay at 100 and
a borrow at 200 both trap. -/
theorem runCalls_frozen_demo :
    let deps := demoDeps ⟨10 ^ 16, by decide⟩ ⟨10 ^ 24, by decide⟩ Uint128.zero
    let s : Storage Uint128 Decimal := { instantiate fixed demoConfig 0 with
      state := ⟨Decimal.zero, Decimal.zero, 0, ⟨2 ^ 127, by decide⟩⟩ }
    let calls := [Call.mk deps (demoEnv 100 "a" [⟨"uusd", ⟨5, by decide⟩⟩]) .repayStable,
      Call.mk deps (demoEnv 200 "b" []) (.borrowStable ⟨7, by decide⟩ none)]
    borrowRate deps s.config = .ok ⟨10 ^ 16, by decide⟩ ∧ s.state.lastInterestUpdated ≤ 100 ∧
      computeInterest fixed deps s.config s.state 100 = .error .abort ∧
      (∀ c ∈ calls, 100 ≤ c.env.block.height ∧
        ∀ r, borrowRate c.deps s.config = .ok r → (⟨10 ^ 16, by decide⟩ : Decimal).raw ≤ r.raw) ∧
      runCalls fixed s calls = s := by
  refine ⟨?hr, ?hl, ?ho, ?hc, runCalls_frozen ?hr ?hl ?ho _ ?hc⟩
  case hr | ho => rfl
  case hl => decide
  case hc =>
    intro c hc
    simp only [List.mem_cons, List.mem_singleton, List.not_mem_nil, or_false] at hc
    rcases hc with rfl | rfl <;>
      exact ⟨by decide, fun r hr => (Except.ok.inj hr) ▸ le_rfl⟩

end Frozen

end Freeze

end MoneyMarket
