import GearshPayments.Reconciliation.Balances

/-!
# The balances of the accounts

`AdminService.getEscrowBalances` sums the ledger in one query, grouped by account and side, and
reads the balance of every account off the groups.  An account without entries on a side has no
group there.  The balances are those that reconciliation computes for one account at a time
(`AdminService.balance_ledgerGroups`).
-/

namespace GearshPayments

open DoubleEntry

structure AccountBalance where
  account : LedgerAccount
  netCents : String
  debitCents : String
  creditCents : String
deriving DecidableEq

namespace AdminService

/-- A row of the query: the sum of one side of an account. -/
structure LedgerGroup where
  account : LedgerAccount
  direction : Side
  amountCents : ℤ

/-- The ledger, grouped by account and side. -/
def ledgerGroups (s : Store) : List LedgerGroup :=
  (s.postings.map fun p ↦ (p.account, p.direction)).dedup.map fun key ↦
    ⟨key.1, key.2, total key.1 key.2 s.postings⟩

def accounts : List LedgerAccount :=
  [.clientFunds, .escrowLiability, .platformRevenue, .artistPayable, .payfastSettlement,
    .refundsIssued]

/-- The sum of a group, if there is one. -/
def sumOf (grouped : List LedgerGroup) (account : LedgerAccount) (direction : Side) : ℤ :=
  ((grouped.find? fun g ↦ g.account = account ∧ g.direction = direction).map
    LedgerGroup.amountCents).getD 0

def balance (grouped : List LedgerGroup) (account : LedgerAccount) : AccountBalance :=
  let debit := sumOf grouped account .debit
  let credit := sumOf grouped account .credit
  let isAsset := account = .payfastSettlement ∨ account = .clientFunds
  let net := if isAsset then debit - credit else credit - debit
  ⟨account, toString net, toString debit, toString credit⟩

def getEscrowBalances : Service (List AccountBalance) := do
  let grouped ← Resumption.read ledgerGroups
  return accounts.map (balance grouped)

/-! ## What is reported -/

theorem nodup_accounts : accounts.Nodup := by decide

theorem mem_accounts (account : LedgerAccount) : account ∈ accounts := by
  cases account <;> decide

instance instFintypeLedgerAccount : Fintype LedgerAccount :=
  ⟨⟨accounts, nodup_accounts⟩, mem_accounts⟩

theorem sum_accounts (f : LedgerAccount → ℤ) : ∑ account, f account =
    f .clientFunds + (f .escrowLiability + (f .platformRevenue + (f .artistPayable +
      (f .payfastSettlement + f .refundsIssued)))) := by
  have hlist : ∑ account, f account = (accounts.map f).sum := rfl
  simp only [hlist, accounts, List.map_cons, List.map_nil, List.sum_cons, List.sum_nil, add_zero]

theorem sumOf_ledgerGroups (s : Store) (account : LedgerAccount) (direction : Side) :
    sumOf (ledgerGroups s) account direction = total account direction s.postings := by
  have hkey : ∀ g ∈ ledgerGroups s, g.amountCents = total g.account g.direction s.postings := by
    intro g hg
    obtain ⟨key, -, rfl⟩ := List.mem_map.mp hg
    rfl
  cases hfound : (ledgerGroups s).find? fun g ↦ g.account = account ∧ g.direction = direction with
  | some g =>
      obtain ⟨haccount, hdirection⟩ : g.account = account ∧ g.direction = direction := by
        simpa using List.find?_some hfound
      rw [sumOf, hfound, Option.map_some, Option.getD_some,
        hkey g (List.mem_of_find?_eq_some hfound), haccount, hdirection]
  | none =>
      -- no entry is on this side of the account, so there is nothing to sum
      have hnone : ∀ p ∈ s.postings, ¬(p.account = account ∧ p.direction = direction) := by
        rintro p hp ⟨rfl, rfl⟩
        have hgroup : ⟨p.account, p.direction, total p.account p.direction s.postings⟩ ∈
            ledgerGroups s :=
          List.mem_map.mpr ⟨_, List.mem_dedup.mpr (List.mem_map_of_mem hp), rfl⟩
        exact List.find?_eq_none.mp hfound _ hgroup (decide_eq_true ⟨rfl, rfl⟩)
      rw [sumOf, hfound, total_eq_zero hnone]
      rfl

/-- The report agrees with what reconciliation computes. -/
theorem balance_ledgerGroups (s : Store) (account : LedgerAccount) :
    balance (ledgerGroups s) account =
      ⟨account, toString (ReconciliationService.computeAccountBalanceCents account s),
        toString (total account .debit s.postings),
        toString (total account .credit s.postings)⟩ := by
  rw [balance, sumOf_ledgerGroups, sumOf_ledgerGroups]
  rfl

end AdminService

end GearshPayments
