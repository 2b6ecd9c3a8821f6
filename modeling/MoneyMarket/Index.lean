import MoneyMarket.Accrual

/-!
# Runs of the market, and the index along them

A run starts at instantiation and goes through any calls of the three handlers, each at a height
no lower than the last accrual; the host rolls a failed call back (`Reachable`). Whatever the
handler, a successful call accrues to its height, projects the record of the borrower it acts
for, and writes the new state and that record (`handle_eq_ok`): invariants of runs are proved
from this one shape.

In the code's reading the index starts at one and only grows: multiplying it by `1 + f` and
truncating never goes below it. Each record is stored at the index of its call, so every record's
index lies between one and the current index (`Indexed`), and the division in `compute_loan` never
meets a zero divisor. A borrower's projected debt then never falls but in a repay for that
borrower (`ledger_monotone`): accrual only raises the index a record is projected at, and a borrow
stores the projected debt plus the amount at the current index, where it projects to itself.
-/

namespace MoneyMarket

section Runs

variable {U D : Type} {A : Arith U D}

def HandleMsg.isRepay : HandleMsg U → Bool
  | .borrowStable .. => false
  | _ => true

/-- The storages a market reaches. -/
inductive Reachable (A : Arith U D) : Storage U D → Prop where
  | instantiate (config : Config D) (height : UInt64) : Reachable A (instantiate A config height)
  | handle {s : Storage U D} (c : Call U D) : Reachable A s →
      s.state.lastInterestUpdated ≤ c.env.block.height → Reachable A (c.apply A s)

theorem Call.apply_cases (c : Call U D) (s : Storage U D) :
    c.apply A s = s ∨ ∃ r, (handle A c.deps c.env c.msg).run s = (.ok r, c.apply A s) := by
  unfold apply execute
  split
  · rename_i r s' h
    exact .inr ⟨r, h⟩
  · exact .inl rfl

/-- How a successful call moves the borrower's projected debt and the accrued liabilities: a borrow
adds its amount to both, a repay takes off what it repays, the liabilities clamped at zero. -/
def Settles (A : Arith U D) (loan loan' : U) (total total' : D) : Prop :=
  (∃ a amt, A.add loan a = some loan' ∧ A.fromAmount a = some amt ∧
      A.decimalAdd total amt = some total') ∨
    ∃ amount repay amt,
      ((A.lt loan amount = true ∧ repay = loan ∧ loan' = A.uintZero) ∨
        (A.lt loan amount = false ∧ repay = amount ∧ A.sub loan amount = .ok loan')) ∧
      A.fromAmount repay = some amt ∧ total' = A.decimalSubtraction total amt

theorem RepaySplit.settles {deps : Deps U D} {denom : String} {contract borrower : HumanAddr}
    {amount loan repay loan' : U} {messages : List (CosmosMsg U)} {amt : D} {total : D}
    (h : RepaySplit A deps denom contract borrower amount loan repay loan' messages)
    (ha : A.fromAmount repay = some amt) :
    Settles A loan loan' total (A.decimalSubtraction total amt) := by
  refine .inr ⟨amount, repay, amt, ?_, ha, rfl⟩
  rcases h with ⟨h1, h2, h3, -⟩ | ⟨h1, h2, h3, -⟩
  · exact .inl ⟨h1, h2, h3⟩
  · exact .inr ⟨h1, h2, h3⟩

/-- A successful call accrues, projects the record of the borrower it acts for, settles, and
writes. -/
theorem handle_eq_ok {deps : Deps U D} {env : Env U} {msg : HandleMsg U} {s s' : Storage U D}
    {r : HandleResponse U} (h : (handle A deps env msg).run s = (.ok r, s')) :
    ∃ st raw l total loan,
      computeInterest A deps s.config s.state env.block.height = .ok st ∧
      deps.canonicalAddress (msg.borrower env) = .ok raw ∧
      computeLoan A st (s.liability A raw) = .ok l ∧
      Settles A l.loanAmount loan st.totalLiabilities total ∧
      s' = s.write raw { st with totalLiabilities := total } { l with loanAmount := loan } := by
  cases msg with
  | borrowStable a toAddr =>
    obtain ⟨st, raw, l, _, _, _, loan, amt, total, _, h1, h2, h3, -, -, -, -, h8, h9, h10, -, hs,
      -⟩ := borrowStable_eq_ok h
    exact ⟨st, raw, l, total, loan, h1, h2, h3, .inl ⟨a, amt, h8, h9, h10⟩, hs⟩
  | repayStable =>
    obtain ⟨st, raw, l, _, loan, _, _, -, h1, h2, h3, hsplit, ha, hs, -⟩ := repayStable_eq_ok h
    exact ⟨st, raw, l, _, loan, h1, h2, h3, hsplit.settles ha, hs⟩
  | repayStableFromLiquidation b p =>
    obtain ⟨_, _, -, -, -, hr⟩ := repayStableFromLiquidation_eq_ok h
    obtain ⟨st, raw, l, _, loan, _, _, -, h1, h2, h3, hsplit, ha, hs, -⟩ := repayStable_eq_ok hr
    exact ⟨st, raw, l, _, loan, h1, h2, h3, hsplit.settles ha, hs⟩

theorem Call.apply_of_lt (c : Call U D) {s : Storage U D}
    (hh : c.env.block.height < s.state.lastInterestUpdated) : c.apply A s = s := by
  rcases c.apply_cases s with hc | ⟨r, hr⟩
  · exact hc
  obtain ⟨st, -, -, -, -, h1, -⟩ := handle_eq_ok hr
  simp only [computeInterest, except_bind_eq_ok, liftOption_eq_ok, subU64] at h1
  obtain ⟨_, _, _, _, _, h, _⟩ := h1
  rw [if_neg (UInt64.not_le.2 hh)] at h
  cases h

theorem Reachable.apply {s : Storage U D} (hs : Reachable A s) (c : Call U D) :
    Reachable A (c.apply A s) := by
  by_cases hh : s.state.lastInterestUpdated ≤ c.env.block.height
  · exact .handle c hs hh
  · rwa [c.apply_of_lt (UInt64.not_le.1 hh)]

/-- The storage after the host runs `calls` in order. -/
def runCalls (A : Arith U D) (s : Storage U D) (calls : List (Call U D)) : Storage U D :=
  calls.foldl (fun s c => c.apply A s) s

theorem Reachable.runCalls {s : Storage U D} (hs : Reachable A s) (calls : List (Call U D)) :
    Reachable A (runCalls A s calls) := by
  induction calls generalizing s with
  | nil => exact hs
  | cons c calls ih => exact ih (hs.apply c)

end Runs

/-- The index is at least one, and every record's index lies between one and it. -/
structure Indexed (s : Storage Uint128 Decimal) : Prop where
  one_le_index : decimalFractional ≤ s.state.globalInterestIndex.raw
  record_index : ∀ k l, s.liabilities.lookup k = some l →
    decimalFractional ≤ l.interestIndex.raw ∧ l.interestIndex.raw ≤ s.state.globalInterestIndex.raw

theorem le_mul_add_div (G f : Nat) :
    G ≤ G * (decimalFractional + f) / decimalFractional :=
  (Nat.le_div_iff_mul_le decimalFractional_pos).2 (Nat.mul_le_mul_left _ (Nat.le_add_right _ _))

variable {deps : Deps Uint128 Decimal} {config : Config Decimal} {state st : State Decimal}
  {h : UInt64}

theorem computeInterest_mono (hc : computeInterest fixed deps config state h = .ok st) :
    state.lastInterestUpdated ≤ st.lastInterestUpdated ∧
      state.globalInterestIndex.raw ≤ st.globalInterestIndex.raw ∧
      state.totalReserves.raw ≤ st.totalReserves.raw := by
  obtain ⟨rate, -, hle, hlast, hG, -, hR⟩ := computeInterest_fixed hc
  exact ⟨hlast ▸ hle, hG ▸ le_mul_add_div _ _, hR ▸ Nat.le_add_right _ _⟩

theorem Indexed.liability {s : Storage Uint128 Decimal} (hs : Indexed s) (k : CanonicalAddr) :
    decimalFractional ≤ (s.liability fixed k).interestIndex.raw ∧
      (s.liability fixed k).interestIndex.raw ≤ s.state.globalInterestIndex.raw := by
  unfold Storage.liability
  cases hk : s.liabilities.lookup k with
  | none => exact ⟨le_rfl, hs.one_le_index⟩
  | some l => exact hs.record_index k l hk

theorem indexed_instantiate (config : Config Decimal) (height : UInt64) :
    Indexed (instantiate fixed config height) :=
  ⟨le_rfl, fun k l h => by simp [instantiate, AList.lookup_empty] at h⟩

theorem Indexed.apply {s : Storage Uint128 Decimal} (hs : Indexed s) (c : Call Uint128 Decimal) :
    Indexed (c.apply fixed s) := by
  rcases c.apply_cases s with hc | ⟨r, hr⟩
  · rwa [hc]
  obtain ⟨st, raw, l, total, loan, h1, -, h3, -, hs'⟩ := handle_eq_ok hr
  have hG := (computeInterest_mono h1).2.1
  have hl := (computeLoan_fixed h3).2.1
  rw [hs']
  refine ⟨hs.one_le_index.trans hG, fun k l' hk => ?_⟩
  by_cases hkr : k = raw
  · subst hkr
    simp only [Storage.lookup_write_self, Option.some.injEq] at hk
    subst hk
    simp only [hl, Storage.write_state, le_refl, and_true]
    exact hs.one_le_index.trans hG
  · rw [Storage.lookup_write_ne _ _ _ hkr] at hk
    exact ⟨(hs.record_index k l' hk).1, (hs.record_index k l' hk).2.trans hG⟩

theorem Reachable.indexed {s : Storage Uint128 Decimal} (hs : Reachable fixed s) : Indexed s := by
  induction hs with
  | instantiate config height => exact indexed_instantiate config height
  | handle c _ _ ih => exact ih.apply c

theorem Indexed.decimalDivision_isSome {s : Storage Uint128 Decimal} (hs : Indexed s)
    (k : CanonicalAddr) :
    (fixed.decimalDivision s.state.globalInterestIndex (s.liability fixed k).interestIndex).isSome := by
  obtain ⟨h1, h2⟩ := hs.liability k
  have hpos : 0 < (s.liability fixed k).interestIndex.raw := decimalFractional_pos.trans_le h1
  have hlt : s.state.globalInterestIndex.raw * decimalFractional /
      (s.liability fixed k).interestIndex.raw < 2 ^ 128 :=
    ((Nat.div_le_div_left h1 decimalFractional_pos).trans
      (Nat.mul_div_cancel _ decimalFractional_pos).le).trans_lt s.state.globalInterestIndex.isLt
  rw [Option.isSome_iff_exists]
  exact ⟨⟨_, hlt⟩, fixed.decimalDivision_eq_some.2 ⟨hpos.ne', rfl⟩⟩

theorem projection_mono_of_ne {s : Storage Uint128 Decimal} {k raw : CanonicalAddr}
    {st : State Decimal} {l' : Liability Uint128 Decimal} {l₁ l₂ : Liability Uint128 Decimal}
    (hG : s.state.globalInterestIndex.raw ≤ st.globalInterestIndex.raw) (hk : k ≠ raw)
    (h₁ : computeLoan fixed s.state (s.liability fixed k) = .ok l₁)
    (h₂ : computeLoan fixed st ((s.write raw st l').liability fixed k) = .ok l₂) :
    l₁.loanAmount.val ≤ l₂.loanAmount.val := by
  rw [Storage.liability_write_ne _ _ _ hk] at h₂
  rw [(computeLoan_fixed h₁).2.2, (computeLoan_fixed h₂).2.2]
  exact projectedLoan_mono _ hG

theorem borrowStable_projection_mono {s s' : Storage Uint128 Decimal} {env : Env Uint128}
    {a : Uint128} {toAddr : Option HumanAddr} {r : HandleResponse Uint128} {raw : CanonicalAddr}
    {l₁ l₂ : Liability Uint128 Decimal} (hi : Indexed s)
    (h : (borrowStable fixed deps env a toAddr).run s = (.ok r, s'))
    (hraw : deps.canonicalAddress env.message.sender = .ok raw)
    (h₁ : computeLoan fixed s.state (s.liability fixed raw) = .ok l₁)
    (h₂ : computeLoan fixed s'.state (s'.liability fixed raw) = .ok l₂) :
    l₁.loanAmount.val ≤ l₂.loanAmount.val := by
  obtain ⟨st, raw', l, -, -, -, loan, -, total, -, h1, h2, h3, -, -, -, -, hloan, -, -, -, rfl, -⟩ :=
    borrowStable_eq_ok h
  cases hraw.symm.trans h2
  have hG := (computeInterest_mono h1).2.1
  simp only [Storage.liability_write_self, Storage.write_state] at h₂
  obtain ⟨-, hl, hl'⟩ := computeLoan_fixed h3
  calc l₁.loanAmount.val
      = projectedLoan s.state.globalInterestIndex (s.liability fixed raw) :=
        (computeLoan_fixed h₁).2.2
    _ ≤ projectedLoan st.globalInterestIndex (s.liability fixed raw) := projectedLoan_mono _ hG
    _ = l.loanAmount.val := hl'.symm
    _ ≤ loan.val := by rw [fixed.add_eq_some.1 hloan]; omega
    _ = l₂.loanAmount.val := by
        rw [(computeLoan_fixed h₂).2.2, hl, projectedLoan_self
          (decimalFractional_pos.trans_le (hi.one_le_index.trans hG)).ne']

/-- Over any call from a reachable state accrual never runs back, every record's index lies between
one and the index, and a projected debt falls only in its borrower's repay. -/
theorem ledger_monotone {s : Storage Uint128 Decimal} (hs : Reachable fixed s)
    (c : Call Uint128 Decimal) :
    (s.state.lastInterestUpdated ≤ (c.apply fixed s).state.lastInterestUpdated ∧
      s.state.globalInterestIndex.raw ≤ (c.apply fixed s).state.globalInterestIndex.raw ∧
      s.state.totalReserves.raw ≤ (c.apply fixed s).state.totalReserves.raw) ∧
    (decimalFractional ≤ s.state.globalInterestIndex.raw ∧
      (∀ k l, s.liabilities.lookup k = some l → decimalFractional ≤ l.interestIndex.raw ∧
        l.interestIndex.raw ≤ s.state.globalInterestIndex.raw) ∧
      ∀ k, (fixed.decimalDivision s.state.globalInterestIndex
        (s.liability fixed k).interestIndex).isSome) ∧
    ∀ k, ¬ (c.msg.isRepay = true ∧ c.deps.canonicalAddress (c.msg.borrower c.env) = .ok k) →
      ∀ l₁ l₂, computeLoan fixed s.state (s.liability fixed k) = .ok l₁ →
        computeLoan fixed (c.apply fixed s).state ((c.apply fixed s).liability fixed k) = .ok l₂ →
          l₁.loanAmount.val ≤ l₂.loanAmount.val := by
  have hi := hs.indexed
  refine ⟨?_, ⟨hi.one_le_index, hi.record_index, hi.decimalDivision_isSome⟩, ?_⟩
  · rcases c.apply_cases s with hc | ⟨r, hr⟩
    · rw [hc]
      exact ⟨UInt64.le_refl _, le_rfl, le_rfl⟩
    obtain ⟨st, raw, l, total, loan, h1, -, -, -, hs'⟩ := handle_eq_ok hr
    have hmono := computeInterest_mono h1
    rw [hs']
    exact hmono
  intro k hk l₁ l₂ h₁ h₂
  rcases c.apply_cases s with hc | ⟨r, hr⟩
  · rw [hc, h₁, Except.ok.injEq] at h₂
    exact h₂ ▸ le_rfl
  obtain ⟨st, raw, l, total, loan, h1, h2, -, -, hs'⟩ := handle_eq_ok hr
  by_cases hkr : k = raw
  · subst hkr
    obtain ⟨deps, env, msg⟩ := c
    cases msg with
    | borrowStable a toAddr => exact borrowStable_projection_mono hi hr h2 h₁ h₂
    | repayStable => exact absurd ⟨rfl, h2⟩ hk
    | repayStableFromLiquidation b p => exact absurd ⟨rfl, h2⟩ hk
  · rw [hs'] at h₂
    exact projection_mono_of_ne (computeInterest_mono h1).2.1 hkr h₁ h₂

theorem ledger_monotone_after_borrow :
    let deps := demoDeps ⟨10 ^ 16, by decide⟩ ⟨10 ^ 6, by decide⟩ Uint128.zero
    let s := (Call.mk deps (demoEnv 1 "b" []) (.borrowStable ⟨10 ^ 5, by decide⟩ none)).apply fixed
      (instantiate fixed demoConfig 0)
    let c : Call Uint128 Decimal :=
      ⟨deps, demoEnv 5 "a" [], .borrowStable ⟨10 ^ 6, by decide⟩ none⟩
    Reachable fixed s ∧ s.liabilities.lookup ⟨[98]⟩ ≠ none ∧
    (s.state.lastInterestUpdated ≤ (c.apply fixed s).state.lastInterestUpdated ∧
      s.state.globalInterestIndex.raw ≤ (c.apply fixed s).state.globalInterestIndex.raw ∧
      s.state.totalReserves.raw ≤ (c.apply fixed s).state.totalReserves.raw) ∧
    (decimalFractional ≤ s.state.globalInterestIndex.raw ∧
      (∀ k l, s.liabilities.lookup k = some l → decimalFractional ≤ l.interestIndex.raw ∧
        l.interestIndex.raw ≤ s.state.globalInterestIndex.raw) ∧
      ∀ k, (fixed.decimalDivision s.state.globalInterestIndex
        (s.liability fixed k).interestIndex).isSome) ∧
    ∀ k, ¬ (c.msg.isRepay = true ∧ c.deps.canonicalAddress (c.msg.borrower c.env) = .ok k) →
      ∀ l₁ l₂, computeLoan fixed s.state (s.liability fixed k) = .ok l₁ →
        computeLoan fixed (c.apply fixed s).state ((c.apply fixed s).liability fixed k) = .ok l₂ →
          l₁.loanAmount.val ≤ l₂.loanAmount.val := by
  refine ⟨?hs, ?hne, ledger_monotone ?hs _⟩
  case hs => exact (Reachable.instantiate demoConfig 0).apply _
  case hne => exact Option.ne_none_iff_isSome.2 rfl

end MoneyMarket
