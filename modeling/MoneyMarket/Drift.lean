import Mathlib.Algebra.BigOperators.Ring
import Mathlib.Algebra.BigOperators.Ring.List
import Mathlib.Algebra.Order.BigOperators.Group.List
import Mathlib.Data.Nat.Cast.Order.Field
import Mathlib.Tactic.Linarith
import Mathlib.Tactic.Ring
import MoneyMarket.Index

/-!
# Truncation drift between the pool's debt and its borrowers' debts

The market keeps its debt twice: once in `total_liabilities`, accrued eagerly by
`compute_interest`, and once per borrower, as a record stored at the index of its last call and
projected lazily by `compute_loan`. Summing over the records (`Storage.sumRecords`), storing one
record replaces its old term in the sum by the new one (`Storage.sumRecords_write`).

In the code's reading `compute_interest` rounds the index and the accrued interest down
separately, and `compute_loan` rounds each projection down, so `total_liabilities` and the sum
of the projected debts drift apart. The drift can go against the pool: after a borrow of 2 and
six accruals, the borrower's debt projects to 8 while the pool records 8 less one unit
(`liabilities_below_projected_debt`), and a repay of the 8 then clamps in `decimal_subtraction`.

It stays small. Let `S` be what the records owe without any truncation, each debt times
`G / I`. Borrows and repays settle the same amount on the total as on a projection that never
exceeds its record's term of `S` (`drift_write`), and one accrual over `n ≥ 1` blocks scales
`F * S - T` by `G' / G` and adds less than one unit (`drift_accrue`). So `F * (F * S - T)` stays
below the last accrual's height times the index (`Reachable.drift`), and the total falls short of
the projected debts by at most that much (`liabilities_cover_projected_debt`).
-/

namespace MoneyMarket

section Sum

variable {U D M : Type} [AddCommMonoid M]

/-- The sum of `g` over the stored records. -/
def Storage.sumRecords (s : Storage U D) (g : Liability U D → M) : M :=
  (s.liabilities.entries.map fun e => g e.2).sum

theorem sum_kerase_add_dlookup (g : Liability U D → M) {d : Liability U D} (hd : g d = 0)
    (k : CanonicalAddr) :
    ∀ l : List (Sigma fun _ : CanonicalAddr => Liability U D),
      ((l.kerase k).map fun e => g e.2).sum + g ((l.dlookup k).getD d) =
        (l.map fun e => g e.2).sum
  | [] => by simp [hd]
  | ⟨k', v⟩ :: l => by
    by_cases h : k = k'
    · subst h
      simp [List.kerase_cons_eq, List.dlookup_cons_eq, add_comm]
    · have h' : k ≠ (⟨k', v⟩ : Sigma fun _ : CanonicalAddr => Liability U D).1 := h
      simp only [List.kerase_cons_ne h', List.dlookup_cons_ne _ _ h', List.map_cons, List.sum_cons,
        add_assoc, sum_kerase_add_dlookup g hd k l]

variable {A : Arith U D} {g : Liability U D → M}

theorem Storage.sumRecords_write (hg : g ⟨A.decimalOne, A.uintZero⟩ = 0) (s : Storage U D)
    (k : CanonicalAddr) (st : State D) (l : Liability U D) :
    (s.write k st l).sumRecords g + g (s.liability A k) = g l + s.sumRecords g := by
  simp only [sumRecords, write, AList.insert_entries, List.map_cons, List.sum_cons, add_assoc,
    liability, AList.lookup, sum_kerase_add_dlookup g hg]

theorem Storage.liability_le_sumRecords {M : Type} [CanonicallyOrderedAddCommMonoid M]
    {g : Liability U D → M} (hg : g ⟨A.decimalOne, A.uintZero⟩ = 0) (s : Storage U D)
    (k : CanonicalAddr) : g (s.liability A k) ≤ s.sumRecords g := by
  rw [sumRecords, ← sum_kerase_add_dlookup g hg k]
  exact le_add_self

@[simp] theorem Storage.sumRecords_instantiate (config : Config D) (height : UInt64) :
    (instantiate A config height).sumRecords g = 0 :=
  rfl

end Sum

/-- A record's debt at index `G` with no truncation: its debt times `G / I`. -/
def debtAt (G : Decimal) (l : Liability Uint128 Decimal) : ℚ :=
  l.loanAmount.val * G.raw / l.interestIndex.raw

@[simp] theorem debtAt_default (G : Decimal) :
    debtAt G ⟨fixed.decimalOne, fixed.uintZero⟩ = 0 := by
  simp [debtAt]

theorem projectedLoan_le_debtAt (G : Decimal) (l : Liability Uint128 Decimal) :
    (projectedLoan G l : ℚ) ≤ debtAt G l := by
  have hF : (0 : ℚ) < decimalFractional := Nat.cast_pos.2 decimalFractional_pos
  calc (projectedLoan G l : ℚ)
      ≤ (l.loanAmount.val : ℚ) * ((G.raw * decimalFractional / l.interestIndex.raw : ℕ) : ℚ) /
          decimalFractional := by
        unfold projectedLoan
        exact_mod_cast Nat.cast_div_le
    _ ≤ (l.loanAmount.val : ℚ) * ((G.raw : ℚ) * decimalFractional / l.interestIndex.raw) /
          decimalFractional :=
        div_le_div_of_nonneg_right (mul_le_mul_of_nonneg_left
          (Nat.cast_div_le.trans_eq (by rw [Nat.cast_mul])) (Nat.cast_nonneg _)) hF.le
    _ = debtAt G l := by
        rw [debtAt, mul_div_right_comm (G.raw : ℚ), ← mul_assoc, mul_div_cancel_right₀ _ hF.ne',
          mul_div_assoc]

theorem sumRecords_projectedLoan_le (s : Storage Uint128 Decimal) (G : Decimal) :
    ((s.sumRecords (projectedLoan G) : ℕ) : ℚ) ≤ s.sumRecords (debtAt G) := by
  rw [Storage.sumRecords, Nat.cast_list_sum, List.map_map]
  exact List.sum_le_sum fun e _ => projectedLoan_le_debtAt G e.2

theorem sumRecords_debtAt_mul (s : Storage Uint128 Decimal) (G G' : Decimal) :
    s.sumRecords (debtAt G') * G.raw = s.sumRecords (debtAt G) * G'.raw := by
  rw [Storage.sumRecords, Storage.sumRecords, ← List.sum_map_mul_right, ← List.sum_map_mul_right]
  congr 1
  refine List.map_congr_left fun e _ => ?_
  simp only [debtAt, div_eq_mul_inv]
  ring

theorem Settles.fixed_le {loan loan' : Uint128} {total total' : Decimal}
    (h : Settles fixed loan loan' total total') :
    decimalFractional * loan'.val + total.raw ≤ decimalFractional * loan.val + total'.raw := by
  rcases h with ⟨a, amt, ha, hamt, htotal⟩ | ⟨amount, repay, amt, hsplit, hamt, rfl⟩
  · rw [fixed.add_eq_some] at ha
    rw [fixed.fromAmount_eq_some] at hamt
    rw [fixed.decimalAdd_eq_some] at htotal
    rw [ha, htotal, hamt, Nat.mul_add, Nat.mul_comm a.val]
    omega
  · rw [fixed.fromAmount_eq_some] at hamt
    rw [fixed.decimalSubtraction_raw, hamt]
    rcases hsplit with ⟨-, rfl, rfl⟩ | ⟨-, rfl, hsub⟩
    · rw [fixed.uintZero_val, Nat.mul_comm repay.val]
      omega
    · obtain ⟨hle, hloan⟩ := fixed.sub_eq_ok.1 hsub
      have := Nat.mul_le_mul_left decimalFractional hle
      rw [hloan, Nat.mul_sub, Nat.mul_comm repay.val]
      omega

/-- How far the pool's debt may fall below what the records owe without truncation: one unit of
the index per block up to the last accrual. -/
def Drift (s : Storage Uint128 Decimal) : Prop :=
  (decimalFractional : ℚ) *
      (decimalFractional * s.sumRecords (debtAt s.state.globalInterestIndex) -
        s.state.totalLiabilities.raw) ≤
    s.state.lastInterestUpdated.toNat * s.state.globalInterestIndex.raw

variable {deps : Deps Uint128 Decimal} {s : Storage Uint128 Decimal} {st : State Decimal}
  {h : UInt64}

theorem drift_accrue (hi : Indexed s) (hd : Drift s)
    (hc : computeInterest fixed deps s.config s.state h = .ok st) :
    (decimalFractional : ℚ) *
        (decimalFractional * s.sumRecords (debtAt st.globalInterestIndex) -
          st.totalLiabilities.raw) ≤
      h.toNat * st.globalInterestIndex.raw := by
  obtain ⟨rate, -, hle, -, hG, hT, -⟩ := computeInterest_fixed hc
  rw [UInt64.le_iff_toNat_le] at hle
  unfold Drift at hd
  have hA : (decimalFractional : ℚ) * decimalFractional *
      (s.sumRecords (debtAt st.globalInterestIndex) * s.state.globalInterestIndex.raw) =
        decimalFractional * decimalFractional *
          (s.sumRecords (debtAt s.state.globalInterestIndex) * st.globalInterestIndex.raw) := by
    rw [sumRecords_debtAt_mul]
  rcases Nat.eq_zero_or_pos (h.toNat - s.state.lastInterestUpdated.toNat) with hn | hn
  · -- no block passed: the accrual is the identity
    rw [hn, Nat.zero_mul, Nat.add_zero, Nat.mul_div_cancel _ decimalFractional_pos] at hG
    rw [hn, Nat.zero_mul, Nat.mul_zero, Nat.zero_div, Nat.add_zero] at hT
    rw [Decimal.ext hG, hT, show h.toNat = s.state.lastInterestUpdated.toNat by omega]
    exact hd
  generalize hf : (h.toNat - s.state.lastInterestUpdated.toNat) * rate.raw = f at hG hT
  -- the index rounds down, and the interest on the total by less than one unit
  have hg' : (st.globalInterestIndex.raw : ℚ) * decimalFractional ≤
      s.state.globalInterestIndex.raw * (decimalFractional + f) := by
    rw [hG]
    exact_mod_cast Nat.div_mul_le_self _ _
  have ht' : (s.state.totalLiabilities.raw : ℚ) * (decimalFractional + f) <
      (st.totalLiabilities.raw + 1) * decimalFractional := by
    have : ((s.state.totalLiabilities.raw * f : ℕ) : ℚ) < ((decimalFractional *
        (s.state.totalLiabilities.raw * f / decimalFractional + 1) : ℕ) : ℚ) := by
      exact_mod_cast Nat.lt_mul_div_succ _ decimalFractional_pos
    rw [hT]
    push_cast at this ⊢
    linarith
  have hgF : (decimalFractional : ℚ) ≤ s.state.globalInterestIndex.raw := by
    exact_mod_cast hi.one_le_index
  have hgg' : (s.state.globalInterestIndex.raw : ℚ) ≤ st.globalInterestIndex.raw := by
    exact_mod_cast hG ▸ le_mul_add_div _ f
  have hn1 : (1 : ℚ) ≤ (h.toNat - s.state.lastInterestUpdated.toNat : ℕ) := by exact_mod_cast hn
  have hh : (h.toNat : ℚ) =
      s.state.lastInterestUpdated.toNat + (h.toNat - s.state.lastInterestUpdated.toNat : ℕ) := by
    rw [← Nat.cast_add, Nat.add_sub_cancel' hle]
  have hg0 : (0 : ℚ) < s.state.globalInterestIndex.raw :=
    (Nat.cast_pos.2 decimalFractional_pos).trans_le hgF
  have ht0 : (0 : ℚ) ≤ s.state.totalLiabilities.raw := Nat.cast_nonneg _
  rw [hh]
  refine le_of_mul_le_mul_left ?_ hg0
  linarith [mul_le_mul_of_nonneg_left hd (hg0.le.trans hgg'), mul_le_mul_of_nonneg_left hg' ht0,
    mul_lt_mul_of_pos_left ht' hg0, mul_le_mul_of_nonneg_left
      (mul_le_mul (hgF.trans hgg') hn1 zero_le_one (hg0.le.trans hgg')) hg0.le]

theorem drift_write {raw : CanonicalAddr} {l : Liability Uint128 Decimal} {total : Decimal}
    {loan : Uint128} (hl : computeLoan fixed st (s.liability fixed raw) = .ok l)
    (hset : Settles fixed l.loanAmount loan st.totalLiabilities total)
    (hG : 0 < st.globalInterestIndex.raw) :
    (decimalFractional : ℚ) * (decimalFractional *
        (s.write raw { st with totalLiabilities := total } { l with loanAmount := loan }).sumRecords
          (debtAt st.globalInterestIndex) - total.raw) ≤
      decimalFractional * (decimalFractional * s.sumRecords (debtAt st.globalInterestIndex) -
        st.totalLiabilities.raw) := by
  obtain ⟨-, hI, hL⟩ := computeLoan_fixed hl
  have hw := s.sumRecords_write (debtAt_default st.globalInterestIndex) raw
    { st with totalLiabilities := total } { l with loanAmount := loan }
  have hnew : debtAt st.globalInterestIndex { l with loanAmount := loan } = loan.val := by
    simp only [debtAt, hI]
    exact mul_div_cancel_right₀ _ (Nat.cast_pos.2 hG).ne'
  have hold : (l.loanAmount.val : ℚ) ≤ debtAt st.globalInterestIndex (s.liability fixed raw) := by
    rw [hL]
    exact projectedLoan_le_debtAt _ _
  have hset' : (decimalFractional : ℚ) * loan.val + st.totalLiabilities.raw ≤
      decimalFractional * l.loanAmount.val + total.raw := by
    exact_mod_cast hset.fixed_le
  have hF : (0 : ℚ) ≤ decimalFractional := Nat.cast_nonneg _
  rw [hnew] at hw
  have hw' := congrArg ((decimalFractional : ℚ) * ·) hw
  simp only [mul_add] at hw'
  exact mul_le_mul_of_nonneg_left (by linarith [mul_le_mul_of_nonneg_left hold hF]) hF

theorem Drift.apply (hi : Indexed s) (hd : Drift s) (c : Call Uint128 Decimal) :
    Drift (c.apply fixed s) := by
  rcases c.apply_cases s with hc | ⟨r, hr⟩
  · rwa [hc]
  obtain ⟨st, raw, l, total, loan, h1, -, h3, hset, hs'⟩ := handle_eq_ok hr
  obtain ⟨-, -, -, hlast, -⟩ := computeInterest_fixed h1
  have hG : 0 < st.globalInterestIndex.raw :=
    decimalFractional_pos.trans_le (hi.one_le_index.trans (computeInterest_mono h1).2.1)
  simp only [hs', Drift, Storage.write_state]
  rw [hlast]
  exact (drift_write h3 hset hG).trans (drift_accrue hi hd h1)

theorem Reachable.drift (hs : Reachable fixed s) : Drift s := by
  induction hs with
  | instantiate config height =>
    rw [Drift, Storage.sumRecords_instantiate]
    simp only [MoneyMarket.instantiate, fixed.decimalZero_raw, mul_zero, Nat.cast_zero, sub_zero]
    exact_mod_cast Nat.zero_le _
  | handle c hs _ ih => exact ih.apply hs.indexed c

/-- On every reachable state the pool's debt covers its borrowers' projected debts, up to one unit
of the index per block up to the last accrual. -/
theorem liabilities_cover_projected_debt (hs : Reachable fixed s) :
    decimalFractional *
        (decimalFractional * s.sumRecords (projectedLoan s.state.globalInterestIndex)) ≤
      decimalFractional * s.state.totalLiabilities.raw +
        s.state.lastInterestUpdated.toNat * s.state.globalInterestIndex.raw := by
  have hd : Drift s := hs.drift
  have hp := sumRecords_projectedLoan_le s s.state.globalInterestIndex
  have hF : (0 : ℚ) ≤ decimalFractional * decimalFractional :=
    mul_nonneg (Nat.cast_nonneg _) (Nat.cast_nonneg _)
  unfold Drift at hd
  have : (decimalFractional : ℚ) *
      (decimalFractional * (s.sumRecords (projectedLoan s.state.globalInterestIndex) : ℕ)) ≤
        decimalFractional * s.state.totalLiabilities.raw +
          s.state.lastInterestUpdated.toNat * s.state.globalInterestIndex.raw := by
    linarith [mul_le_mul_of_nonneg_left hp hF]
  exact_mod_cast this

/-- A call that only accrues: borrower `p` borrows nothing at `height`, at rate `rate`. -/
def accrualCall (height : UInt64) (rate : Decimal) : Call Uint128 Decimal :=
  ⟨demoDeps rate ⟨10 ^ 30, by decide⟩ Uint128.zero, demoEnv height "p" [],
    .borrowStable Uint128.zero none⟩

/-- A run that drifts against the pool: borrower `b` borrows 2 at height 1, and six accruals
follow. -/
def driftCalls : List (Call Uint128 Decimal) :=
  [⟨demoDeps ⟨1889622577274283031, by decide⟩ ⟨10 ^ 30, by decide⟩ Uint128.zero,
      demoEnv 1 "b" [], .borrowStable ⟨2, by decide⟩ none⟩,
    accrualCall 2 ⟨100103395990984043, by decide⟩, accrualCall 3 ⟨167866934773549965, by decide⟩,
    accrualCall 4 ⟨228128413903458887, by decide⟩, accrualCall 5 ⟨149626945458482232, by decide⟩,
    accrualCall 6 ⟨190469543795633764, by decide⟩, accrualCall 7 ⟨852311915459162654, by decide⟩]

theorem liabilities_cover_projected_debt_after_drift :
    let s := runCalls fixed (instantiate fixed demoConfig 0) driftCalls
    Reachable fixed s ∧
      decimalFractional *
          (decimalFractional * s.sumRecords (projectedLoan s.state.globalInterestIndex)) ≤
        decimalFractional * s.state.totalLiabilities.raw +
          s.state.lastInterestUpdated.toNat * s.state.globalInterestIndex.raw :=
  have hs := (Reachable.instantiate demoConfig 0 : Reachable fixed _).runCalls driftCalls
  ⟨hs, liabilities_cover_projected_debt hs⟩

/-- After `driftCalls` borrower `b`'s debt projects to 8 while `total_liabilities` is one unit
less than 8. -/
theorem liabilities_below_projected_debt :
    ¬ ∀ s, Reachable fixed s →
      decimalFractional * s.sumRecords (projectedLoan s.state.globalInterestIndex) ≤
        s.state.totalLiabilities.raw := fun h =>
  absurd (h _ ((Reachable.instantiate demoConfig 0 : Reachable fixed _).runCalls driftCalls))
    (by decide)

end MoneyMarket
