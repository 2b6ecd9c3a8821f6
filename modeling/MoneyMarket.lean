import MoneyMarket.Math
import MoneyMarket.Contract
import MoneyMarket.Borrow
import MoneyMarket.Outcome
import MoneyMarket.Accrual
import MoneyMarket.Index
import MoneyMarket.Drift
import MoneyMarket.Exact
import MoneyMarket.Handlers
import MoneyMarket.SameBlock
import MoneyMarket.Commute
import MoneyMarket.Laws
import MoneyMarket.Blocks
import MoneyMarket.Runs
