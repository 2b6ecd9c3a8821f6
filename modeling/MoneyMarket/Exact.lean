import Mathlib
import MoneyMarket.Drift

/-!
# The exact reading

`borrow.rs` read on non-negative rationals, where no operation truncates (`exact`). There the
pool's two bookkeepings agree on every reachable state (`exact_liabilities_eq_sum`): accrual
scales `total_liabilities` and every record's projection by the same factor `1 + f`, and a call
settles the same amount on its borrower's projected debt and on the total, so the total stays the
sum over the records of `loan_amount * global_interest_index / interest_index`.

Within one accrual the interest is simple: over `n` blocks at rate `r` the index and the
liabilities grow by `1 + n * r` (`computeInterest_exact_eq`). Across accruals it compounds.
Accruing at `h₁` and then at `h₂` leaves the index, the liabilities and the reserves above one
accrual from the same state to `h₂` by the product `a * b` of the two accruals' factors
(`accrual_compounds`), so what the pool earns over the same blocks depends on how often a call
touches it.
-/

namespace MoneyMarket

/-- The exact reading: amounts and ratios are non-negative rationals and no operation truncates.
A zero divisor still fails, and `Uint128 - Uint128` still refuses to go below zero. -/
def exact : Arith ℚ≥0 ℚ≥0 where
  uintZero := 0
  isZero u := decide ((u : ℚ) = 0)
  lt a b := decide ((a : ℚ) < b)
  add a b := some (a + b)
  sub a b := if (b : ℚ) ≤ a then .ok (a - b) else .error (.underflow (toString (a : ℚ)) (toString (b : ℚ)))
  mulDecimal u d := some (u * d)
  fmt u := toString (u : ℚ)
  decimalZero := 0
  decimalOne := 1
  decimalAdd a b := some (a + b)
  fromAmount u := some u
  fromBlocks n := some n
  decimalMultiplication a b := some (a * b)
  decimalDivision a b := if (b : ℚ) = 0 then none else some (a / b)
  decimalSubtraction a b := a - b

variable {deps : Deps ℚ≥0 ℚ≥0} {config : Config ℚ≥0} {state st : State ℚ≥0} {h : UInt64}

theorem computeInterest_exact (hc : computeInterest exact deps config state h = .ok st) :
    ∃ f : ℚ≥0, st.globalInterestIndex = state.globalInterestIndex * (1 + f) ∧
      st.totalLiabilities = state.totalLiabilities * (1 + f) := by
  simp only [computeInterest, except_bind_eq_ok, liftStd_eq_ok, liftOption_eq_ok,
    Except.ok.injEq, exact, Option.some.injEq] at hc
  obtain ⟨-, -, -, -, -, -, -, -, _, rfl, _, rfl, -, rfl, _, rfl, -, rfl, _, rfl, -, rfl, -, rfl,
    rfl⟩ := hc
  exact ⟨_, rfl, by ring⟩

theorem computeLoan_exact {l l' : Liability ℚ≥0 ℚ≥0} (h : computeLoan exact st l = .ok l') :
    l'.interestIndex = st.globalInterestIndex ∧
      l'.loanAmount = l.loanAmount * st.globalInterestIndex / l.interestIndex := by
  simp only [computeLoan, except_bind_eq_ok, liftOption_eq_ok, exact, except_pure,
    Except.ok.injEq, Option.some.injEq] at h
  obtain ⟨_, hr, _, rfl, rfl⟩ := h
  split_ifs at hr
  cases hr
  exact ⟨rfl, (mul_div_assoc _ _ _).symm⟩

/-- A record's debt at index `G`, read exactly. -/
def owed (G : ℚ≥0) (l : Liability ℚ≥0 ℚ≥0) : ℚ≥0 := l.loanAmount * G / l.interestIndex

@[simp] theorem owed_default (G : ℚ≥0) : owed G ⟨exact.decimalOne, exact.uintZero⟩ = 0 := by
  simp [owed, exact]

theorem sumRecords_owed_mul (s : Storage ℚ≥0 ℚ≥0) (G c : ℚ≥0) :
    s.sumRecords (owed (G * c)) = c * s.sumRecords (owed G) := by
  rw [Storage.sumRecords, Storage.sumRecords, ← List.sum_map_mul_left]
  congr 1
  refine List.map_congr_left fun e _ => ?_
  simp only [owed, div_eq_mul_inv]
  ring

theorem Settles.total_add_loan {loan loan' total total' : ℚ≥0}
    (h : Settles exact loan loan' total total') (hcover : loan ≤ total) :
    total' + loan = loan' + total := by
  rcases h with ⟨a, amt, ha, hamt, htotal⟩ | ⟨amount, repay, amt, hsplit, hamt, rfl⟩
  · simp only [MoneyMarket.exact, Option.some.injEq] at ha hamt htotal
    subst ha hamt htotal
    ring
  · simp only [MoneyMarket.exact, Option.some.injEq] at hamt ⊢
    subst hamt
    rcases hsplit with ⟨-, rfl, rfl⟩ | ⟨-, rfl, hsub⟩
    · rw [tsub_add_cancel_of_le hcover]
      exact (zero_add _).symm
    · simp only [MoneyMarket.exact] at hsub
      split_ifs at hsub with hle
      cases hsub
      rw [NNRat.coe_le_coe] at hle
      rw [tsub_add_eq_add_tsub (hle.trans hcover), tsub_add_eq_add_tsub hle, add_comm]

/-- The exact reading's ledger: the index is positive, and the total is what the records owe at
the index. -/
structure ExactLedger (s : Storage ℚ≥0 ℚ≥0) : Prop where
  index_pos : 0 < s.state.globalInterestIndex
  total_eq : s.state.totalLiabilities = s.sumRecords (owed s.state.globalInterestIndex)

theorem exactLedger_instantiate (config : Config ℚ≥0) (height : UInt64) :
    ExactLedger (instantiate exact config height) :=
  ⟨zero_lt_one, rfl⟩

theorem ExactLedger.apply {s : Storage ℚ≥0 ℚ≥0} (hs : ExactLedger s) (c : Call ℚ≥0 ℚ≥0) :
    ExactLedger (c.apply exact s) := by
  rcases c.apply_cases s with hc | ⟨r, hr⟩
  · rwa [hc]
  obtain ⟨st, raw, l, total, loan, h1, -, h3, hsettle, hs'⟩ := handle_eq_ok hr
  obtain ⟨f, hG, hT⟩ := computeInterest_exact h1
  obtain ⟨hI, hL⟩ := computeLoan_exact h3
  have hpos : 0 < st.globalInterestIndex :=
    hG ▸ mul_pos hs.index_pos (add_pos_of_pos_of_nonneg zero_lt_one (zero_le f))
  have hsum : s.sumRecords (owed st.globalInterestIndex) = st.totalLiabilities := by
    rw [hG, sumRecords_owed_mul, ← hs.total_eq, hT, mul_comm]
  have hold : owed st.globalInterestIndex (s.liability exact raw) = l.loanAmount := hL.symm
  have hnew : owed st.globalInterestIndex { l with loanAmount := loan } = loan := by
    simp only [owed, hI]
    exact mul_div_cancel_right₀ _ hpos.ne'
  have hw := s.sumRecords_write (owed_default st.globalInterestIndex) raw
    { st with totalLiabilities := total } { l with loanAmount := loan }
  rw [hold, hnew, hsum] at hw
  have hcover : l.loanAmount ≤ st.totalLiabilities :=
    hold ▸ hsum ▸ s.liability_le_sumRecords (owed_default _) raw
  rw [hs']
  exact ⟨hpos, add_right_cancel ((hsettle.total_add_loan hcover).trans hw.symm)⟩

theorem Reachable.exactLedger {s : Storage ℚ≥0 ℚ≥0} (hs : Reachable exact s) : ExactLedger s := by
  induction hs with
  | instantiate config height => exact exactLedger_instantiate config height
  | handle c _ _ ih => exact ih.apply c

/-- Read exactly, on every reachable state `total_liabilities` is the sum over the records of
`loan_amount * global_interest_index / interest_index`. -/
theorem exact_liabilities_eq_sum {s : Storage ℚ≥0 ℚ≥0} (hs : Reachable exact s) :
    s.state.totalLiabilities =
      s.sumRecords fun l => l.loanAmount * s.state.globalInterestIndex / l.interestIndex :=
  hs.exactLedger.total_eq

/-- Read exactly: `b` borrows 100 at height 1 and repays 50 at height 3, at 1% a block. The pool
owes 52, what `b` owes. -/
theorem exact_liabilities_eq_sum_after_repay :
    let deps : Deps ℚ≥0 ℚ≥0 := ⟨fun _ => .ok ⟨[98]⟩, fun _ => .ok ⟨"o"⟩, fun _ => .ok (1 / 100),
      fun _ _ => .ok 1000, .ok, fun _ _ => .ok 0⟩
    let s := runCalls exact (instantiate exact ⟨⟨[111]⟩, ⟨[105]⟩, "uusd", 3 / 1000⟩ 0)
      [⟨deps, ⟨⟨1⟩, ⟨⟨"b"⟩, []⟩, ⟨⟨"market"⟩⟩⟩, .borrowStable 100 none⟩,
        ⟨deps, ⟨⟨3⟩, ⟨⟨"b"⟩, [⟨"uusd", 50⟩]⟩, ⟨⟨"market"⟩⟩⟩, .repayStable⟩]
    Reachable exact s ∧ s.state.totalLiabilities = 52 ∧
      (s.liabilities.lookup ⟨[98]⟩).map (·.loanAmount) = some 52 ∧
      s.state.totalLiabilities =
        s.sumRecords fun l => l.loanAmount * s.state.globalInterestIndex / l.interestIndex := by
  refine ⟨?hs, ?total, ?record, exact_liabilities_eq_sum ?hs⟩
  case hs => exact (Reachable.instantiate _ 0).runCalls _
  case total | record => with_unfolding_all decide

/-- `compute_interest` read exactly: over `n` blocks the index and the liabilities grow by `1 + n *
rate`. -/
theorem computeInterest_exact_eq :
    computeInterest exact deps config state h = .ok st ↔
      ∃ rate, borrowRate deps config = .ok rate ∧ state.lastInterestUpdated ≤ h ∧
        let f := ((h.toNat - state.lastInterestUpdated.toNat : ℕ) : ℚ≥0) * rate
        st = { totalLiabilities := state.totalLiabilities + state.totalLiabilities * f
               totalReserves :=
                 state.totalReserves + state.totalLiabilities * f * config.reserveFactor
               lastInterestUpdated := h
               globalInterestIndex := state.globalInterestIndex * (1 + f) } := by
  constructor
  · intro hc
    simp only [computeInterest, except_bind_eq_ok, liftStd_eq_ok, liftOption_eq_ok,
      Except.ok.injEq, subU64_eq_some, exact, Option.some.injEq, except_pure] at hc
    obtain ⟨m, hm, rate, hr, _, ⟨hle, rfl⟩, _, rfl, _, rfl, _, rfl, _, rfl, _, rfl, _, rfl, _, rfl,
      _, rfl, rfl⟩ := hc
    exact ⟨rate, except_bind_eq_ok.2 ⟨m, hm, hr⟩, hle, rfl⟩
  · rintro ⟨rate, hr, hle, rfl⟩
    obtain ⟨m, hm, hq⟩ := except_bind_eq_ok.1 hr
    simp [computeInterest, hm, hq, subU64, hle, exact]

/-- Read exactly, two accruals exceed one accrual to the same height by the product of their
factors. -/
theorem accrual_compounds {h₁ h₂ : UInt64} {st₁ st₂ : State ℚ≥0} {rate : ℚ≥0}
    (hrate : borrowRate deps config = .ok rate)
    (hc₁ : computeInterest exact deps config state h₁ = .ok st₁)
    (hc₂ : computeInterest exact deps config st₁ h₂ = .ok st₂) :
    let a := ((h₁.toNat - state.lastInterestUpdated.toNat : ℕ) : ℚ≥0) * rate
    let b := ((h₂.toNat - h₁.toNat : ℕ) : ℚ≥0) * rate
    ∃ st, computeInterest exact deps config state h₂ = .ok st ∧
      st₂.globalInterestIndex = st.globalInterestIndex + state.globalInterestIndex * a * b ∧
      st₂.totalLiabilities = st.totalLiabilities + state.totalLiabilities * a * b ∧
      st₂.totalReserves =
        st.totalReserves + state.totalLiabilities * a * b * config.reserveFactor ∧
      st₂.lastInterestUpdated = st.lastInterestUpdated := by
  obtain ⟨r₁, hr₁, hle₁, rfl⟩ := computeInterest_exact_eq.1 hc₁
  obtain ⟨r₂, hr₂, hle₂, rfl⟩ := computeInterest_exact_eq.1 hc₂
  cases hrate.symm.trans hr₁
  cases hrate.symm.trans hr₂
  have hle : state.lastInterestUpdated.toNat ≤ h₁.toNat := UInt64.le_iff_toNat_le.1 hle₁
  have hle' : h₁.toNat ≤ h₂.toNat := UInt64.le_iff_toNat_le.1 hle₂
  -- the blocks of the one accrual are those of the two
  have hn : ((h₂.toNat - state.lastInterestUpdated.toNat : ℕ) : ℚ≥0) =
      ((h₁.toNat - state.lastInterestUpdated.toNat : ℕ) : ℚ≥0) +
        ((h₂.toNat - h₁.toNat : ℕ) : ℚ≥0) := by
    rw [← Nat.cast_add]
    congr 1
    omega
  refine ⟨_, computeInterest_exact_eq.2 ⟨rate, hrate, UInt64.le_trans hle₁ hle₂, rfl⟩, ?_, ?_, ?_,
    rfl⟩ <;> simp only [hn] <;> ring

theorem accrual_compounds_demo :
    let deps : Deps ℚ≥0 ℚ≥0 := ⟨fun _ => .ok ⟨[]⟩, fun _ => .ok ⟨""⟩, fun _ => .ok (1 / 100),
      fun _ _ => .ok 0, .ok, fun _ _ => .ok 0⟩
    let config : Config ℚ≥0 := ⟨⟨[111]⟩, ⟨[105]⟩, "uusd", 3 / 1000⟩
    let state : State ℚ≥0 := ⟨100, 0, 0, 1⟩
    ∃ st₁ st₂, borrowRate deps config = .ok (1 / 100) ∧
      computeInterest exact deps config state 2 = .ok st₁ ∧
      computeInterest exact deps config st₁ 5 = .ok st₂ ∧
      let a := (((2 : UInt64).toNat - state.lastInterestUpdated.toNat : ℕ) : ℚ≥0) * (1 / 100)
      let b := (((5 : UInt64).toNat - (2 : UInt64).toNat : ℕ) : ℚ≥0) * (1 / 100)
      ∃ st, computeInterest exact deps config state 5 = .ok st ∧
        st₂.globalInterestIndex = st.globalInterestIndex + state.globalInterestIndex * a * b ∧
        st₂.totalLiabilities = st.totalLiabilities + state.totalLiabilities * a * b ∧
        st₂.totalReserves =
          st.totalReserves + state.totalLiabilities * a * b * config.reserveFactor ∧
        st₂.lastInterestUpdated = st.lastInterestUpdated := by
  intro deps config state
  have hr : borrowRate deps config = .ok (1 / 100) := rfl
  have h₁ : computeInterest exact deps config state 2 = .ok _ :=
    computeInterest_exact_eq.2 ⟨_, hr, by decide, rfl⟩
  exact ⟨_, _, hr, h₁, computeInterest_exact_eq.2 ⟨_, hr, by decide, rfl⟩,
    accrual_compounds hr h₁ (computeInterest_exact_eq.2 ⟨_, hr, by decide, rfl⟩)⟩

end MoneyMarket
