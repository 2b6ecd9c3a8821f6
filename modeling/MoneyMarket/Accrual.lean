import MoneyMarket.Outcome

/-!
# Accrual and projection in the code's reading

On `Uint128` and `Decimal`, `computeInterest` multiplies the index by `1 + f` and adds the
interest `T * f` to the liabilities, where `f` is the factor `passed_blocks * rate`, both products
truncated to units (`computeInterest_fixed`). At a height already accrued it changes nothing
(`computeInterest_same_height`): the factor is zero and multiplying by `Decimal::one()` is exact.

`computeLoan` scales a debt by the index's growth since its record was stored, truncating the
ratio and then the product (`projectedLoan`).
-/

namespace MoneyMarket

variable {U D : Type} {deps : Deps Uint128 Decimal}

/-- The rate `compute_interest` asks the interest model for. -/
def borrowRate (deps : Deps U D) (config : Config D) : Except StdError D :=
  deps.humanAddress config.interestModel >>= deps.queryBorrowRate

theorem computeInterest_congr {A : Arith U D} {d₁ d₂ : Deps U D} {config : Config D}
    {state : State D} {height : UInt64} (h : borrowRate d₁ config = borrowRate d₂ config) :
    computeInterest A d₁ config state height = computeInterest A d₂ config state height := by
  unfold borrowRate at h
  unfold computeInterest
  rcases h1 : d₁.humanAddress config.interestModel with e₁ | m₁ <;>
    rcases h2 : d₂.humanAddress config.interestModel with e₂ | m₂ <;>
    rw [h1, h2] at h <;>
    simp only [h1, h2, liftM, monadLift, MonadLift.monadLift, Except.mapError, bind,
      Except.bind] at h ⊢
  · cases h
    rfl
  · rw [← h]
  · rw [h]
  · rw [h]

theorem subU64_eq_some {a b : UInt64} {n : Nat} :
    subU64 a b = some n ↔ b ≤ a ∧ n = a.toNat - b.toNat := by
  unfold subU64
  split <;> simp_all [eq_comm]

theorem UInt64.le_iff_toNat_le {a b : UInt64} : a ≤ b ↔ a.toNat ≤ b.toNat := by
  simp [UInt64.le_def, BitVec.le_def, UInt64.toNat]

/-- `compute_interest` in the code's reading. -/
theorem computeInterest_fixed {config : Config Decimal} {state st : State Decimal} {h : UInt64}
    (hc : computeInterest fixed deps config state h = .ok st) :
    ∃ rate, borrowRate deps config = .ok rate ∧ state.lastInterestUpdated ≤ h ∧
      st.lastInterestUpdated = h ∧
      let f := (h.toNat - state.lastInterestUpdated.toNat) * rate.raw
      st.globalInterestIndex.raw =
        state.globalInterestIndex.raw * (decimalFractional + f) / decimalFractional ∧
      st.totalLiabilities.raw =
        state.totalLiabilities.raw + state.totalLiabilities.raw * f / decimalFractional ∧
      st.totalReserves.raw = state.totalReserves.raw +
        state.totalLiabilities.raw * f / decimalFractional * config.reserveFactor.raw /
          decimalFractional := by
  simp only [computeInterest, except_bind_eq_ok, liftStd_eq_ok, liftOption_eq_ok,
    Except.ok.injEq, subU64_eq_some, fixed.fromBlocks_eq_some,
    fixed.decimalMultiplication_eq_some, fixed.decimalAdd_eq_some, fixed.decimalOne_raw] at hc
  obtain ⟨m, hm, rate, hr, _, ⟨hle, rfl⟩, blocks, hb, fac, hf, acc, hacc, one', hone, g, hg, t, ht,
    res, hres, r, hrr, hst⟩ := hc
  cases hst
  have hfac : fac.raw = (h.toNat - state.lastInterestUpdated.toNat) * rate.raw := by
    rw [hf, hb, Nat.mul_right_comm, Nat.mul_div_cancel _ decimalFractional_pos]
  refine ⟨rate, except_bind_eq_ok.2 ⟨m, hm, hr⟩, hle, rfl, ?_, ?_, ?_⟩
  · rw [hg, hone, hfac]
  · rw [ht, hacc, hfac]
  · rw [hrr, hres, hacc, hfac]

/-- At the height of its last update accrual changes nothing. -/
theorem computeInterest_same_height {config : Config Decimal} {state : State Decimal}
    {rate : Decimal} (hr : borrowRate deps config = .ok rate) :
    computeInterest fixed deps config state state.lastInterestUpdated = .ok state := by
  obtain ⟨m, hm, hq⟩ := except_bind_eq_ok.1 hr
  have hF := decimalFractional_pos
  simp [computeInterest, hm, hq, subU64, fixed, Decimal.fromRatio, decimalMultiplication,
    Decimal.one, Nat.mul_div_cancel _ hF]

/-- Below the last update accrual traps: the `u64` subtraction of heights never goes below zero. -/
theorem computeInterest_below_last {A : Arith U D} {d : Deps U D} {config : Config D}
    {state : State D} {h : UInt64} {rate : D} (hr : borrowRate d config = .ok rate)
    (hh : h < state.lastInterestUpdated) :
    computeInterest A d config state h = .error .abort := by
  obtain ⟨m, hm, hq⟩ := except_bind_eq_ok.1 hr
  simp only [computeInterest, hm, hq, subU64, if_neg (UInt64.not_le.2 hh), liftStd_ok,
    except_ok_bind, liftOption_none]
  rfl

/-- The debt `compute_loan` gives a record at index `G`: the ratio `G / I` truncated to units,
then the debt times the ratio, truncated. -/
def projectedLoan (G : Decimal) (l : Liability Uint128 Decimal) : Nat :=
  l.loanAmount.val * (G.raw * decimalFractional / l.interestIndex.raw) / decimalFractional

/-- `compute_loan` in the code's reading. -/
theorem computeLoan_fixed {st : State Decimal} {l l' : Liability Uint128 Decimal}
    (h : computeLoan fixed st l = .ok l') :
    l.interestIndex.raw ≠ 0 ∧ l'.interestIndex = st.globalInterestIndex ∧
      l'.loanAmount.val = projectedLoan st.globalInterestIndex l := by
  simp only [computeLoan, except_bind_eq_ok, liftOption_eq_ok, fixed.decimalDivision_eq_some,
    except_pure, Except.ok.injEq] at h
  obtain ⟨ratio, ⟨hI, hratio⟩, loan, hloan, rfl⟩ := h
  exact ⟨hI, rfl, by rw [fixed.mulDecimal_val hloan, hratio]; rfl⟩

/-- What `Uint128 * Decimal` returns times one fits, as the `u128` product of `multiply_ratio`
did. -/
theorem mulDecimal_fit {u c : Uint128} {d : Decimal} (h : mulDecimal u d = some c) :
    c.val * decimalFractional < 2 ^ 128 := by
  unfold mulDecimal at h
  split at h
  · cases h
    exact Nat.zero_mul _ ▸ Nat.two_pow_pos 128
  · obtain ⟨p, hp, hc⟩ := Option.bind_eq_some.1 h
    rw [Uint128.ofNat?_eq_some.1 hc]
    exact (Nat.div_mul_le_self _ _).trans_lt p.isLt

theorem computeLoan_fit {st : State Decimal} {l l' : Liability Uint128 Decimal}
    (h : computeLoan fixed st l = .ok l') : l'.loanAmount.val * decimalFractional < 2 ^ 128 := by
  simp only [computeLoan, except_bind_eq_ok, liftOption_eq_ok, except_pure, Except.ok.injEq] at h
  obtain ⟨ratio, -, loan, hloan, rfl⟩ := h
  exact mulDecimal_fit hloan

theorem projectedLoan_mono {G G' : Decimal} (l : Liability Uint128 Decimal)
    (h : G.raw ≤ G'.raw) : projectedLoan G l ≤ projectedLoan G' l :=
  Nat.div_le_div_right (Nat.mul_le_mul_left _
    (Nat.div_le_div_right (Nat.mul_le_mul_right _ h)))

theorem projectedLoan_self {G : Decimal} (hG : G.raw ≠ 0) (loan : Uint128) :
    projectedLoan G ⟨G, loan⟩ = loan.val := by
  simp [projectedLoan, Nat.mul_div_cancel_left _ (Nat.pos_of_ne_zero hG),
    Nat.mul_div_cancel _ decimalFractional_pos]

end MoneyMarket
