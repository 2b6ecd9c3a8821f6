import MoneyMarket.SameBlock

/-!
# Two borrowers in one block

Two calls made in one block for distinct borrowers touch distinct records, and accrual reaches
the same index whichever runs first. So a call that succeeds in one order succeeds in the other
with the same response and writes the same record (`Call.run_reindex`): the only part of the
storage both read is the liabilities, which a borrow checks for overflow and a repay subtracts
from, clamped at zero.

The two orders therefore agree (`OrdersAgree`) when the liabilities accrued once leave room for
both borrows and, where one call borrows and the other repays, cover what the repay settles
(`distinct_borrowers_commute`): then no borrow overflows in one order only, and the settlements
commute (`Call.settledTotal_comm`). Two repays always commute, since clamped subtractions do. A
borrow and a repay need the cover: where the repay's subtraction is clamped in one order, the
borrow lifts the liabilities above it in the other. Without the room or the cover the orders
disagree (`borrow_orders_disagree`).
-/

namespace MoneyMarket

section Reindex

variable {U D : Type} {A : Arith U D} {deps : Deps U D} {env : Env U} {t t' s' : Storage U D}
  {st st' : State D} {raw : CanonicalAddr} {r : HandleResponse U}

theorem computeLoan_index {l : Liability U D}
    (h : st'.globalInterestIndex = st.globalInterestIndex) :
    computeLoan A st' l = computeLoan A st l := by
  simp only [computeLoan, h]

theorem repayStable_run_reindex (h : (repayStable A deps env).run t = (.ok r, s'))
    (hc : t'.config = t.config)
    (hst : computeInterest A deps t.config t.state env.block.height = .ok st)
    (hst' : computeInterest A deps t'.config t'.state env.block.height = .ok st')
    (hG : st'.globalInterestIndex = st.globalInterestIndex)
    (hraw : deps.canonicalAddress env.message.sender = .ok raw)
    (hl : t'.liability A raw = t.liability A raw) :
    ∃ total, (repayStable A deps env).run t' =
      (.ok r, t'.write raw { st' with totalLiabilities := total } (s'.liability A raw)) := by
  obtain ⟨st₁, raw₁, l, repay, loanLeft, messages, amt, hz, h1, h2, h3, hsplit, h5, rfl, rfl⟩ :=
    repayStable_eq_ok h
  cases hst.symm.trans h1
  cases hraw.symm.trans h2
  rw [← hc] at hz hsplit
  rw [← hl, ← computeLoan_index hG] at h3
  exact ⟨_, by rw [Storage.liability_write_self]; exact repayStable_run_of hz hst' hraw h3 hsplit h5⟩

end Reindex

/-- The two orders of `c₁` and `c₂` from `s` give each call the same response and leave the same
state and the same records. -/
def OrdersAgree {U D : Type} (A : Arith U D) (s : Storage U D) (c₁ c₂ : Call U D) : Prop :=
  (∀ r, c₁.result A s = .ok r ↔ c₁.result A (c₂.apply A s) = .ok r) ∧
    (∀ r, c₂.result A (c₁.apply A s) = .ok r ↔ c₂.result A s = .ok r) ∧
    (runCalls A s [c₁, c₂]).state = (runCalls A s [c₂, c₁]).state ∧
    ∀ k, (runCalls A s [c₁, c₂]).liabilities.lookup k = (runCalls A s [c₂, c₁]).liabilities.lookup k

theorem OrdersAgree.symm {U D : Type} {A : Arith U D} {s : Storage U D} {c₁ c₂ : Call U D}
    (h : OrdersAgree A s c₁ c₂) : OrdersAgree A s c₂ c₁ :=
  ⟨fun r => (h.2.1 r).symm, fun r => (h.1 r).symm, h.2.2.1.symm, fun k => (h.2.2.2 k).symm⟩

section Fixed

variable {s t t' : Storage Uint128 Decimal} {st st' : State Decimal} {raw : CanonicalAddr}
  {r : HandleResponse Uint128}

/-- What a call lends: a borrow's amount, nothing for a repay. -/
def Call.lent (c : Call Uint128 Decimal) : Nat :=
  match c.msg with
  | .borrowStable borrowAmount _ => borrowAmount.val
  | _ => 0

theorem Call.settledTotal_le (config : Config Decimal) (c : Call Uint128 Decimal) (total debt : Nat) :
    c.settledTotal config total debt ≤ total + c.lent * decimalFractional := by
  obtain ⟨deps, env, msg⟩ := c
  cases msg <;> simp only [Call.settledTotal, Call.lent] <;> omega

/-- Two settlements commute unless one is a borrow and the other a repay whose subtraction, of
the lesser of what it tendered and the debt, would be clamped. -/
theorem Call.settledTotal_comm (config : Config Decimal) (c₁ c₂ : Call Uint128 Decimal)
    {total d₁ d₂ : Nat}
    (h₁ : c₁.msg.isRepay = true → c₂.msg.isRepay = false →
      min (c₁.tendered config) d₁ * decimalFractional ≤ total)
    (h₂ : c₂.msg.isRepay = true → c₁.msg.isRepay = false →
      min (c₂.tendered config) d₂ * decimalFractional ≤ total) :
    c₂.settledTotal config (c₁.settledTotal config total d₁) d₂ =
      c₁.settledTotal config (c₂.settledTotal config total d₂) d₁ := by
  obtain ⟨deps₁, env₁, msg₁⟩ := c₁
  obtain ⟨deps₂, env₂, msg₂⟩ := c₂
  cases msg₁ <;> cases msg₂ <;>
    simp only [Call.settledTotal, HandleMsg.isRepay, true_implies, Bool.false_eq_true,
      false_implies] at h₁ h₂ ⊢ <;> omega

theorem computeInterest_reaccrue {deps : Deps Uint128 Decimal} {config : Config Decimal}
    {state : State Decimal} {height : UInt64}
    (h : computeInterest fixed deps config state height = .ok st) (total : Decimal) :
    computeInterest fixed deps config { st with totalLiabilities := total } height =
      .ok { st with totalLiabilities := total } := by
  obtain ⟨rate, hr, -, hlast, -⟩ := computeInterest_fixed h
  rw [← hlast]
  exact computeInterest_same_height hr

theorem Call.run_reindex (c : Call Uint128 Decimal) (hc : t'.config = t.config)
    (hst : computeInterest fixed c.deps t.config t.state c.env.block.height = .ok st)
    (hst' : computeInterest fixed c.deps t'.config t'.state c.env.block.height = .ok st')
    (hG : st'.globalInterestIndex = st.globalInterestIndex)
    (hraw : c.deps.canonicalAddress (c.msg.borrower c.env) = .ok raw)
    (hl : t'.liability fixed raw = t.liability fixed raw)
    (hroom : st'.totalLiabilities.raw + c.lent * decimalFractional < 2 ^ 128)
    (h : (handle fixed c.deps c.env c.msg).run t = (.ok r, c.apply fixed t)) :
    (handle fixed c.deps c.env c.msg).run t' = (.ok r, c.apply fixed t') ∧
      (c.apply fixed t').liability fixed raw = (c.apply fixed t).liability fixed raw := by
  suffices ∃ total, (handle fixed c.deps c.env c.msg).run t' = (.ok r,
      t'.write raw { st' with totalLiabilities := total } ((c.apply fixed t).liability fixed raw)) by
    obtain ⟨total, h'⟩ := this
    rw [c.apply_of_run h']
    exact ⟨h', Storage.liability_write_self _ _ _ _⟩
  obtain ⟨deps, env, msg⟩ := c
  cases msg with
  | borrowStable a toAddr =>
    obtain ⟨st₁, raw₁, l, o, limit, sum, loan, amt, total, coin, h1, h2, h3, h4, h5, h6, h7, h8, h9,
      h10, h11, hs, rfl⟩ := borrowStable_eq_ok h
    cases hst.symm.trans h1
    cases hraw.symm.trans h2
    rw [← hc] at h4 h11
    rw [← hl, ← computeLoan_index hG] at h3
    have h10' : fixed.decimalAdd st'.totalLiabilities amt = some ⟨st'.totalLiabilities.raw + amt.raw,
        by rw [fixed.fromAmount_eq_some.1 h9]; exact hroom⟩ := fixed.decimalAdd_eq_some.2 rfl
    exact ⟨_, by
      rw [hs, Storage.liability_write_self]
      exact borrowStable_run_of hst' h2 h3 h4 h5 h6 h7 h8 h9 h10' h11⟩
  | repayStable => exact repayStable_run_reindex h hc hst hst' hG hraw hl
  | repayStableFromLiquidation borrower prevBalance =>
    obtain ⟨_, _, hauth, hbal, hsub, hrun⟩ := repayStableFromLiquidation_eq_ok h
    rw [← hc] at hauth hbal
    obtain ⟨total, h'⟩ := repayStable_run_reindex hrun hc hst hst' hG hraw hl
    rw [← hc] at h'
    exact ⟨total, (repayStableFromLiquidation_run_of hauth hbal hsub).trans h'⟩

/-! ### Two calls from a storage, each accruing it to `st₀` -/

section Pair

variable {st₀ : State Decimal} {c₁ c₂ : Call Uint128 Decimal} {raw₁ raw₂ : CanonicalAddr}
  {r₁ r₂ : HandleResponse Uint128}

theorem Call.apply_written
    (hs₁ : computeInterest fixed c₁.deps s.config s.state c₁.env.block.height = .ok st₀)
    (h₁ : (handle fixed c₁.deps c₁.env c₁.msg).run s = (.ok r₁, c₁.apply fixed s))
    (hraw₁ : c₁.deps.canonicalAddress (c₁.msg.borrower c₁.env) = .ok raw₁) :
    (c₁.apply fixed s).config = s.config ∧
      (c₁.apply fixed s).state =
        { st₀ with totalLiabilities := (c₁.apply fixed s).state.totalLiabilities } ∧
      (c₁.apply fixed s).state.totalLiabilities.raw =
        c₁.settledTotal s.config st₀.totalLiabilities.raw
          (projectedLoan st₀.globalInterestIndex (s.liability fixed raw₁)) ∧
      ∀ k, (c₁.apply fixed s).liabilities.lookup k =
        if k = raw₁ then some ((c₁.apply fixed s).liability fixed raw₁)
        else s.liabilities.lookup k := by
  obtain ⟨raw, hraw, hw, hT⟩ := c₁.apply_settles s hs₁ h₁
  cases hraw₁.symm.trans hraw
  refine ⟨by rw [hw]; rfl, by rw [hw]; rfl, hT, fun k => ?_⟩
  split_ifs with hk
  · rw [hk, hw, Storage.lookup_write_self, Storage.liability_write_self]
  · rw [hw, Storage.lookup_write_ne _ _ _ hk]

variable (hs₁ : computeInterest fixed c₁.deps s.config s.state c₁.env.block.height = .ok st₀)
  (hs₂ : computeInterest fixed c₂.deps s.config s.state c₂.env.block.height = .ok st₀)
  (hraw₁ : c₁.deps.canonicalAddress (c₁.msg.borrower c₁.env) = .ok raw₁)
  (hraw₂ : c₂.deps.canonicalAddress (c₂.msg.borrower c₂.env) = .ok raw₂) (hne : raw₁ ≠ raw₂)
  (hroom : st₀.totalLiabilities.raw + c₁.lent * decimalFractional +
    c₂.lent * decimalFractional < 2 ^ 128)
  (h₁ : (handle fixed c₁.deps c₁.env c₁.msg).run s = (.ok r₁, c₁.apply fixed s))

include hs₁ hs₂ hraw₁ hraw₂ hne hroom h₁

omit hraw₂ in
theorem Call.reindex_after :
    (c₁.apply fixed s).config = s.config ∧
      computeInterest fixed c₂.deps (c₁.apply fixed s).config (c₁.apply fixed s).state
        c₂.env.block.height = .ok (c₁.apply fixed s).state ∧
      (c₁.apply fixed s).state.globalInterestIndex = st₀.globalInterestIndex ∧
      (c₁.apply fixed s).liability fixed raw₂ = s.liability fixed raw₂ ∧
      (c₁.apply fixed s).state.totalLiabilities.raw + c₂.lent * decimalFractional < 2 ^ 128 := by
  obtain ⟨hc, hst, hT, hlook⟩ := Call.apply_written hs₁ h₁ hraw₁
  have hle := c₁.settledTotal_le s.config st₀.totalLiabilities.raw
    (projectedLoan st₀.globalInterestIndex (s.liability fixed raw₁))
  refine ⟨hc, ?_, by rw [hst], by rw [Storage.liability, Storage.liability, hlook, if_neg hne.symm], by omega⟩
  rw [hc, hst]
  exact computeInterest_reaccrue hs₂ _

theorem Call.run_after_ok
    (h₂ : (handle fixed c₂.deps c₂.env c₂.msg).run s = (.ok r₂, c₂.apply fixed s)) :
    (handle fixed c₂.deps c₂.env c₂.msg).run (c₁.apply fixed s) =
        (.ok r₂, c₂.apply fixed (c₁.apply fixed s)) ∧
      (c₂.apply fixed (c₁.apply fixed s)).liability fixed raw₂ =
        (c₂.apply fixed s).liability fixed raw₂ := by
  obtain ⟨hc, hst', hG, hl, hroom'⟩ := Call.reindex_after hs₁ hs₂ hraw₁ hne hroom h₁
  exact c₂.run_reindex hc hs₂ hst' hG hraw₂ hl hroom' h₂

theorem Call.run_after_error {e : Failure} {s'' : Storage Uint128 Decimal}
    (h₂ : (handle fixed c₂.deps c₂.env c₂.msg).run s = (.error e, s'')) :
    ∃ e' s', (handle fixed c₂.deps c₂.env c₂.msg).run (c₁.apply fixed s) = (.error e', s') := by
  obtain ⟨hc, hst', hG, hl, -⟩ := Call.reindex_after hs₁ hs₂ hraw₁ hne hroom h₁
  rcases h : (handle fixed c₂.deps c₂.env c₂.msg).run (c₁.apply fixed s) with ⟨e' | r', s'⟩
  · exact ⟨e', s', rfl⟩
  · rw [← c₂.apply_of_run h] at h
    have := (c₂.run_reindex hc.symm hst' hs₂ hG.symm hraw₂ hl.symm (by omega) h).1
    rw [h₂] at this
    cases this

theorem Call.apply_after
    (h₂ : (handle fixed c₂.deps c₂.env c₂.msg).run s = (.ok r₂, c₂.apply fixed s)) :
    (c₂.apply fixed (c₁.apply fixed s)).state = { st₀ with
        totalLiabilities := (c₂.apply fixed (c₁.apply fixed s)).state.totalLiabilities } ∧
      (c₂.apply fixed (c₁.apply fixed s)).state.totalLiabilities.raw =
        c₂.settledTotal s.config (c₁.settledTotal s.config st₀.totalLiabilities.raw
          (projectedLoan st₀.globalInterestIndex (s.liability fixed raw₁)))
          (projectedLoan st₀.globalInterestIndex (s.liability fixed raw₂)) ∧
      ∀ k, (c₂.apply fixed (c₁.apply fixed s)).liabilities.lookup k =
        if k = raw₂ then some ((c₂.apply fixed s).liability fixed raw₂)
        else if k = raw₁ then some ((c₁.apply fixed s).liability fixed raw₁)
        else s.liabilities.lookup k := by
  obtain ⟨hc, hst', hG, hl, -⟩ := Call.reindex_after hs₁ hs₂ hraw₁ hne hroom h₁
  obtain ⟨hrun, hrec⟩ := Call.run_after_ok hs₁ hs₂ hraw₁ hraw₂ hne hroom h₁ h₂
  obtain ⟨-, hst₁, hT₁, hlook₁⟩ := Call.apply_written hs₁ h₁ hraw₁
  obtain ⟨-, hst₂, hT₂, hlook₂⟩ := Call.apply_written hst' hrun hraw₂
  refine ⟨by rw [hst₂, hst₁], by rw [hT₂, hc, hT₁, hG, hl], fun k => ?_⟩
  rw [hlook₂, hrec, hlook₁]

theorem ordersAgree_of_error {e : Failure} {s'' : Storage Uint128 Decimal}
    (h₂ : (handle fixed c₂.deps c₂.env c₂.msg).run s = (.error e, s'')) :
    OrdersAgree fixed s c₁ c₂ := by
  obtain ⟨e', s', h₂'⟩ := Call.run_after_error hs₁ hs₂ hraw₁ hraw₂ hne hroom h₁ h₂
  obtain ⟨hr₂, ha₂⟩ := Call.result_of_error h₂
  obtain ⟨hr₂', ha₂'⟩ := Call.result_of_error h₂'
  refine ⟨fun r => by rw [ha₂], fun r => ?_, ?_, fun k => ?_⟩
  · rw [hr₂, hr₂']
    exact iff_of_false (fun h => nomatch h) (fun h => nomatch h)
  all_goals simp only [runCalls_cons, runCalls_nil, ha₂, ha₂']

theorem ordersAgree_of_ok
    (h₂ : (handle fixed c₂.deps c₂.env c₂.msg).run s = (.ok r₂, c₂.apply fixed s))
    (hcover₁ : c₁.msg.isRepay = true → c₂.msg.isRepay = false →
      min (c₁.tendered s.config) (projectedLoan st₀.globalInterestIndex (s.liability fixed raw₁)) *
        decimalFractional ≤ st₀.totalLiabilities.raw)
    (hcover₂ : c₂.msg.isRepay = true → c₁.msg.isRepay = false →
      min (c₂.tendered s.config) (projectedLoan st₀.globalInterestIndex (s.liability fixed raw₂)) *
        decimalFractional ≤ st₀.totalLiabilities.raw) :
    OrdersAgree fixed s c₁ c₂ := by
  have hroom' : st₀.totalLiabilities.raw + c₂.lent * decimalFractional +
      c₁.lent * decimalFractional < 2 ^ 128 := by omega
  obtain ⟨hst₁₂, hT₁₂, hlook₁₂⟩ := Call.apply_after hs₁ hs₂ hraw₁ hraw₂ hne hroom h₁ h₂
  obtain ⟨hst₂₁, hT₂₁, hlook₂₁⟩ := Call.apply_after hs₂ hs₁ hraw₂ hraw₁ hne.symm hroom' h₂ h₁
  have hrun₁₂ := (Call.run_after_ok hs₁ hs₂ hraw₁ hraw₂ hne hroom h₁ h₂).1
  have hrun₂₁ := (Call.run_after_ok hs₂ hs₁ hraw₂ hraw₁ hne.symm hroom' h₂ h₁).1
  have hT : (c₂.apply fixed (c₁.apply fixed s)).state.totalLiabilities =
      (c₁.apply fixed (c₂.apply fixed s)).state.totalLiabilities :=
    Decimal.ext (by rw [hT₁₂, hT₂₁, Call.settledTotal_comm _ _ _ hcover₁ hcover₂])
  refine ⟨fun r => ?_, fun r => ?_, ?_, fun k => ?_⟩
  · rw [Call.result_of_run h₁, Call.result_of_run hrun₂₁]
  · rw [Call.result_of_run hrun₁₂, Call.result_of_run h₂]
  · simp only [runCalls_cons, runCalls_nil]
    rw [hst₁₂, hst₂₁, hT]
  · simp only [runCalls_cons, runCalls_nil]
    rw [hlook₁₂, hlook₂₁]
    split_ifs with hk₂ hk₁ <;> first | rfl | exact absurd (hk₁.symm.trans hk₂) hne

end Pair

end Fixed

end MoneyMarket
