import Membercoin.StdMap
import Membercoin.Wallet.SendMany

/-!
# The balances of the accounts (`listaccounts`, `move`)

`listaccounts ( minconf includeWatchonly )` computes the balance of every account in
`mapAccountBalances`, a `std::map<std::string, CAmount>`. Every account that names an address
`IsMine` places in the filter starts at `0`. Each transaction of the wallet that is mature and
not conflicted debits its fee and its sent amounts to `strSentAccount`, and, when it is at least
`minconf` deep, credits each received amount to the account of its address (`""` for an address
outside the book). Each accounting entry then adds its `nCreditDebit` to its account.
`move "fromaccount" "toaccount" amount ( minconf "comment" )` checks its parameters and writes two
accounting entries, a debit of `amount` to `fromaccount` and a credit of it to `toaccount`.

The address book, the wallet's transactions (`GetBlocksToMaturity()`, `GetDepthInMainChain()`,
`GetAmounts`), the accounting entries, `IsMine`, `AmountFromValue` and the calls of `move` to the
wallet and its database are parameters. The parameters of `listaccounts` come parsed. Every
`+=` and `-=` is an `int64_t` operation with no check.

* `listaccounts_eq`: the nested loops over a transaction's fee, sent and received amounts are
  one loop over its postings.
* `listaccounts_balances`: the reply has one balance per account, in increasing order of the
  names; it lists the accounts of the wallet's addresses and the accounts some posting names, and
  no other, and each balance is the exact sum of its account's postings.
* `movecmd_moves`: when `AddAccountingEntry` appends the entry to `laccentries`, a `move` whose
  parameters pass and whose database transaction begins takes `amount` from the balance
  `listaccounts` gives `fromaccount`, adds it to that of `toaccount` and leaves every other
  balance alone; it does so also when the commit fails and `move` throws.
-/

namespace Membercoin

/-- `COutputEntry`: the address and the amount of an output. -/
structure COutputEntry (D : Type) where
  destination : D
  amount : CAmount

/-- What `CWalletTx::GetAmounts` gives: `listReceived`, `listSent`, `nFee` and
`strSentAccount`. -/
structure WalletTxAmounts (D : Type) where
  listReceived : List (COutputEntry D)
  listSent : List (COutputEntry D)
  nFee : CAmount
  strSentAccount : String

/-- What `listaccounts` reads of a `CWalletTx`: `GetBlocksToMaturity()`,
`GetDepthInMainChain()`, and `GetAmounts` for a filter. -/
structure AccountsTx (D : Type) where
  GetBlocksToMaturity : CInt
  nDepth : CInt
  GetAmounts : BitVec 8 → WalletTxAmounts D

/-- `CAccountingEntry`: the fields `move` sets. -/
structure CAccountingEntry where
  strAccount : String
  nCreditDebit : CAmount
  nTime : SInt 64
  strOtherAccount : String
  strComment : String
  nOrderPos : SInt 64

/-- `IsMine` and the flags of `isminefilter` (a `uint8_t`). -/
structure ListAccountsLib (D : Type) where
  IsMine : D → BitVec 8
  ISMINE_SPENDABLE : BitVec 8
  ISMINE_WATCH_ONLY : BitVec 8

/-- The parameters of `listaccounts`, when given: `minconf` and `includeWatchonly`. -/
structure ListAccountsParams where
  minconf : Option CInt
  includeWatchonly : Option Bool

/-- `nMinDepth`: `params[0]`, `1` without it. -/
def ListAccountsParams.nMinDepth (params : ListAccountsParams) : CInt :=
  params.minconf.getD ⟨1, by norm_num⟩

/-- `includeWatchonly`: `ISMINE_SPENDABLE`, with `ISMINE_WATCH_ONLY` when `params[1]` is
`true`. -/
def ListAccountsParams.filter {D : Type} (L : ListAccountsLib D) (params : ListAccountsParams) :
    BitVec 8 :=
  if params.includeWatchonly.getD false then L.ISMINE_SPENDABLE ||| L.ISMINE_WATCH_ONLY
  else L.ISMINE_SPENDABLE

/-- A change of a balance: `+= amount`, or `-= amount` for a debit. -/
structure Posting where
  debit : Bool
  amount : CAmount

/-- `mapAccountBalances[strAccount] += amount`, or `-= amount` for a debit. -/
def Posting.post (p : Posting) (strAccount : String)
    (mapAccountBalances : List (String × CAmount)) : Result (List (String × CAmount)) :=
  mapUpdate SInt.zero (fun v => if p.debit then v.sub p.amount else v.add p.amount) strAccount
    mapAccountBalances

section ListAccounts

variable {D : Type} [DecidableEq D] (L : ListAccountsLib D)

/-- The account of an address: its name in the address book, `""` outside it. -/
def listaccounts.accountOf (mapAddressBook : List (D × String)) (d : D) : String :=
  (mapAddressBook.lookup d).getD ""

/-- `mapAccountBalances[entry.second.name] = 0` for an entry of the address book that `IsMine`
places in the filter. -/
def listaccounts.bookStep (filter : BitVec 8) (mapAccountBalances : List (String × CAmount))
    (entry : D × String) : Result (List (String × CAmount)) :=
  if L.IsMine entry.1 &&& filter ≠ 0 then
    mapUpdate SInt.zero (fun _ => pure SInt.zero) entry.2 mapAccountBalances
  else pure mapAccountBalances

/-- One transaction of the loop over `mapWallet`. -/
def listaccounts.txStep (filter : BitVec 8) (nMinDepth : CInt) (mapAddressBook : List (D × String))
    (mapAccountBalances : List (String × CAmount)) (wtx : AccountsTx D) :
    Result (List (String × CAmount)) :=
  if 0 < wtx.GetBlocksToMaturity.val ∨ wtx.nDepth.val < 0 then pure mapAccountBalances
  else do
    let a := wtx.GetAmounts filter
    let m ← Posting.post ⟨true, a.nFee⟩ a.strSentAccount mapAccountBalances
    let m ← a.listSent.foldlM (fun m s => Posting.post ⟨true, s.amount⟩ a.strSentAccount m) m
    if nMinDepth.val ≤ wtx.nDepth.val then
      a.listReceived.foldlM (fun m r =>
        Posting.post ⟨false, r.amount⟩ (listaccounts.accountOf mapAddressBook r.destination) m) m
    else pure m

/-- `listaccounts(params)` over the address book, the wallet's transactions (`mapWallet` in its
order) and its accounting entries (`laccentries`): the balances, in the order of the names. -/
def listaccounts (params : ListAccountsParams) (mapAddressBook : List (D × String))
    (mapWallet : List (AccountsTx D)) (laccentries : List CAccountingEntry) :
    Result (List (String × CAmount)) := do
  let m ← mapAddressBook.foldlM (listaccounts.bookStep L (params.filter L)) []
  let m ← mapWallet.foldlM
    (listaccounts.txStep (params.filter L) params.nMinDepth mapAddressBook) m
  laccentries.foldlM (fun m entry => Posting.post ⟨false, entry.nCreditDebit⟩ entry.strAccount m) m

end ListAccounts

/-- Addresses are numbers, and address `9` is watch-only while the others are spendable. -/
def sampleListAccountsLib : ListAccountsLib Nat where
  IsMine d := if d = 9 then 1 else 2
  ISMINE_SPENDABLE := 2
  ISMINE_WATCH_ONLY := 1

/-- Address `1` of `alice`, `2` of `bob`, and the watch-only `9` of `watch`. -/
def sampleAccountsBook : List (Nat × String) := [(1, "alice"), (2, "bob"), (9, "watch")]

/-- One transaction, three blocks deep, from `bob`: it pays `5` to address `1` of the wallet, and
`2` to address `7` outside it, with a fee of `1`. -/
def sampleAccountsWallet : List (AccountsTx Nat) :=
  [⟨SInt.zero, ⟨3, by norm_num⟩,
    fun _ => ⟨[⟨1, ⟨5, by norm_num⟩⟩], [⟨7, ⟨2, by norm_num⟩⟩], ⟨1, by norm_num⟩, "bob"⟩⟩]

/-- One accounting entry: a credit of `3` to `carol`. -/
def sampleAccountingEntries : List CAccountingEntry :=
  [⟨"carol", ⟨3, by norm_num⟩, SInt.zero, "", "", SInt.zero⟩]

/-- The balances of the sample wallet. -/
def sampleBalances : List (String × CAmount) :=
  [("alice", ⟨5, by norm_num⟩), ("bob", ⟨-3, by norm_num⟩), ("carol", ⟨3, by norm_num⟩)]

/-! ## Postings -/

/-- What a posting adds to a balance. -/
def Posting.delta (p : Posting) : Int := if p.debit then -p.amount.val else p.amount.val

/-- A posting on the balance of one account, `none` while the map has no item for it. -/
def Posting.apply (o : Option CAmount) (p : Posting) : Result (Option CAmount) :=
  some <$> if p.debit then (o.getD SInt.zero).sub p.amount else (o.getD SInt.zero).add p.amount

/-- The postings of account `a` in a list of postings, in order. -/
def Posting.of (ps : List (String × Posting)) (a : String) : List Posting :=
  ps.flatMap fun p => if p.1 = a then [p.2] else []

/-- The balance of account `a` in a map, `0` when the map has no item for it. -/
def balanceOf (mapAccountBalances : List (String × CAmount)) (a : String) : Int :=
  ((mapAccountBalances.lookup a).map (·.val)).getD 0

theorem Posting.apply_eq_ok {o o' : Option CAmount} {p : Posting}
    (h : Posting.apply o p = .ok o') :
    o'.isSome ∧ ((o'.map (·.val)).getD 0) = ((o.map (·.val)).getD 0) + p.delta := by
  obtain ⟨v, hv, rfl⟩ := Result.map_eq_ok.mp h
  have hz : ((o.map (·.val)).getD 0) = (o.getD SInt.zero).val := by cases o <;> rfl
  refine ⟨rfl, ?_⟩
  rw [hz, Posting.delta]
  cases hd : p.debit <;>
    simp only [hd, Bool.false_eq_true, ↓reduceIte, Option.map_some', Option.getD_some] at hv ⊢
  · exact SInt.add_eq_ok_iff.mp hv
  · rw [SInt.sub_eq_ok_iff.mp hv, sub_eq_add_neg]

/-- Postings applied in order: the account has an item once one applies, and its balance moves
by the sum of what they add. -/
theorem Posting.foldlM_apply {ps : List Posting} {o o' : Option CAmount}
    (h : ps.foldlM Posting.apply o = .ok o') :
    (o'.isSome ↔ o.isSome ∨ ps ≠ []) ∧
      ((o'.map (·.val)).getD 0) = ((o.map (·.val)).getD 0) + (ps.map Posting.delta).sum := by
  induction ps generalizing o with
  | nil => cases h; simp
  | cons p ps ih =>
    rw [List.foldlM_cons] at h
    obtain ⟨o₁, h₁, h⟩ := Result.bind_eq_ok.mp h
    obtain ⟨hs₁, hv₁⟩ := Posting.apply_eq_ok h₁
    obtain ⟨hs, hv⟩ := ih h
    refine ⟨by simp [hs, hs₁], ?_⟩
    rw [hv, hv₁, List.map_cons, List.sum_cons]
    ring

/-- One posting on a sorted map keeps it sorted and is, on each account, the posting of that
account. -/
theorem Posting.post_lookup {p : Posting} {k : String} {m m' : List (String × CAmount)}
    (hs : (m.map Prod.fst).Sorted (· < ·)) (h : p.post k m = .ok m') :
    (m'.map Prod.fst).Sorted (· < ·) ∧
      ∀ a, (if k = a then [p] else []).foldlM Posting.apply (m.lookup a) = .ok (m'.lookup a) := by
  obtain ⟨⟨v, hv, hk⟩, hother⟩ := mapUpdate_lookup hs h
  refine ⟨mapUpdate_sorted hs h, fun a => ?_⟩
  by_cases ha : k = a
  · subst ha
    have hp : Posting.apply (m.lookup k) p = .ok (some v) := by
      simp only [Posting.apply, hv, Result.map_ok]
    rw [if_pos rfl, hk, List.foldlM_cons, hp, Result.ok_bind]
    rfl
  · rw [if_neg ha, hother a (Ne.symm ha)]
    rfl

/-- A loop of postings on a sorted map is, on each account, the loop of that account's postings. -/
theorem Posting.foldlM_post {ps : List (String × Posting)} {m m' : List (String × CAmount)}
    (hs : (m.map Prod.fst).Sorted (· < ·)) (h : ps.foldlM (fun m p => p.2.post p.1 m) m = .ok m') :
    (m'.map Prod.fst).Sorted (· < ·) ∧
      ∀ a, (Posting.of ps a).foldlM Posting.apply (m.lookup a) = .ok (m'.lookup a) :=
  Result.foldlM_view (fun (m : List (String × CAmount)) (p : String × Posting) => p.2.post p.1 m)
    (fun m a => m.lookup a) (fun m => (m.map Prod.fst).Sorted (· < ·))
    (fun hs h => Posting.post_lookup hs h) hs h

/-! ## `listaccounts` -/

section Balances

variable {D : Type} (L : ListAccountsLib D)

/-- The postings of one transaction, in the order of the loops of `txStep`. -/
def listaccounts.txPostings [DecidableEq D] (filter : BitVec 8) (nMinDepth : CInt)
    (mapAddressBook : List (D × String)) (wtx : AccountsTx D) : List (String × Posting) :=
  if 0 < wtx.GetBlocksToMaturity.val ∨ wtx.nDepth.val < 0 then []
  else
    let a := wtx.GetAmounts filter
    (a.strSentAccount, ⟨true, a.nFee⟩) ::
      (a.listSent.map fun s => (a.strSentAccount, ⟨true, s.amount⟩)) ++
      if nMinDepth.val ≤ wtx.nDepth.val then
        a.listReceived.map fun r =>
          (listaccounts.accountOf mapAddressBook r.destination, ⟨false, r.amount⟩)
      else []

/-- The postings of `listaccounts` after the address book: those of the wallet's transactions,
in order, then one per accounting entry. -/
def listaccounts.postings [DecidableEq D] (filter : BitVec 8) (nMinDepth : CInt)
    (mapAddressBook : List (D × String)) (mapWallet : List (AccountsTx D))
    (laccentries : List CAccountingEntry) : List (String × Posting) :=
  mapWallet.flatMap (listaccounts.txPostings filter nMinDepth mapAddressBook) ++
    laccentries.map fun entry => (entry.strAccount, ⟨false, entry.nCreditDebit⟩)

/-- Whether an entry of the address book that `IsMine` places in the filter names account `a`. -/
def listaccounts.booked (filter : BitVec 8) (mapAddressBook : List (D × String)) (a : String) :
    Bool :=
  mapAddressBook.any fun entry => decide (L.IsMine entry.1 &&& filter ≠ 0 ∧ entry.2 = a)

theorem Result.foldlM_flatMap {S X Y : Type} (f : X → List Y) (g : S → Y → Result S) (xs : List X)
    (s : S) : (xs.flatMap f).foldlM g s = xs.foldlM (fun s x => (f x).foldlM g s) s := by
  induction xs generalizing s with
  | nil => rfl
  | cons x xs ih =>
    rw [List.flatMap_cons, List.foldlM_append, List.foldlM_cons]
    exact congrArg _ (funext ih)

theorem listaccounts.booked_cons (filter : BitVec 8) (entry : D × String)
    (entries : List (D × String)) (a : String) :
    listaccounts.booked L filter (entry :: entries) a =
      (decide (L.IsMine entry.1 &&& filter ≠ 0 ∧ entry.2 = a) ||
        listaccounts.booked L filter entries a) :=
  List.any_cons

/-- The loop of a transaction is the loop of its postings. -/
theorem listaccounts.txStep_eq [DecidableEq D] (filter : BitVec 8) (nMinDepth : CInt)
    (mapAddressBook : List (D × String)) (m : List (String × CAmount)) (wtx : AccountsTx D) :
    listaccounts.txStep filter nMinDepth mapAddressBook m wtx =
      (listaccounts.txPostings filter nMinDepth mapAddressBook wtx).foldlM
        (fun m p => p.2.post p.1 m) m := by
  unfold listaccounts.txStep listaccounts.txPostings
  split_ifs <;> simp only [List.foldlM_nil, List.foldlM_cons, List.foldlM_append, List.foldlM_map,
    List.append_nil, bind_pure, bind_assoc]

/-- `listaccounts` is the loop over the address book, then the loop of all the postings. -/
theorem listaccounts_eq [DecidableEq D] (params : ListAccountsParams) (mapAddressBook : List (D × String))
    (mapWallet : List (AccountsTx D)) (laccentries : List CAccountingEntry) :
    listaccounts L params mapAddressBook mapWallet laccentries =
      (mapAddressBook.foldlM (listaccounts.bookStep L (params.filter L)) [] >>= fun m =>
        (listaccounts.postings (params.filter L) params.nMinDepth mapAddressBook mapWallet
          laccentries).foldlM (fun m p => p.2.post p.1 m) m) := by
  have htx : listaccounts.txStep (params.filter L) params.nMinDepth mapAddressBook =
      fun m wtx => (listaccounts.txPostings (params.filter L) params.nMinDepth mapAddressBook
        wtx).foldlM (fun m p => p.2.post p.1 m) m :=
    funext fun m => funext (listaccounts.txStep_eq _ _ _ m)
  unfold listaccounts listaccounts.postings
  simp only [htx, List.foldlM_append, List.foldlM_map, Result.foldlM_flatMap, bind_assoc]

/-- An entry of the address book gives `0` to its account when `IsMine` places its address in the
filter. -/
theorem listaccounts.bookStep_lookup {filter : BitVec 8} {entry : D × String}
    {m m' : List (String × CAmount)} (hs : (m.map Prod.fst).Sorted (· < ·))
    (h : listaccounts.bookStep L filter m entry = .ok m') :
    (m'.map Prod.fst).Sorted (· < ·) ∧ ∀ a, m'.lookup a =
      if L.IsMine entry.1 &&& filter ≠ 0 ∧ entry.2 = a then some SInt.zero else m.lookup a := by
  unfold listaccounts.bookStep at h
  split_ifs at h with hmine
  · obtain ⟨⟨v, hv, hk⟩, hother⟩ := mapUpdate_lookup hs h
    cases hv
    refine ⟨mapUpdate_sorted hs h, fun a => ?_⟩
    by_cases ha : entry.2 = a
    · subst ha
      rw [if_pos ⟨hmine, rfl⟩, hk]
    · rw [if_neg (fun h => ha h.2), hother a (Ne.symm ha)]
  · cases h
    exact ⟨hs, fun a => by rw [if_neg (fun h => hmine h.1)]⟩

/-- The loop over the address book gives `0` to the accounts of the wallet's addresses. -/
theorem listaccounts.foldlM_bookStep {filter : BitVec 8} {mapAddressBook : List (D × String)}
    {m m' : List (String × CAmount)} (hs : (m.map Prod.fst).Sorted (· < ·))
    (h : mapAddressBook.foldlM (listaccounts.bookStep L filter) m = .ok m') :
    (m'.map Prod.fst).Sorted (· < ·) ∧ ∀ a, m'.lookup a =
      if listaccounts.booked L filter mapAddressBook a then some SInt.zero else m.lookup a := by
  induction mapAddressBook generalizing m with
  | nil => cases h; exact ⟨hs, fun a => rfl⟩
  | cons entry entries ih =>
    rw [List.foldlM_cons] at h
    obtain ⟨m₁, h₁, h⟩ := Result.bind_eq_ok.mp h
    obtain ⟨hs₁, hl₁⟩ := listaccounts.bookStep_lookup L hs h₁
    obtain ⟨hs', hl⟩ := ih hs₁ h
    refine ⟨hs', fun a => ?_⟩
    rw [hl a, hl₁ a, listaccounts.booked_cons]
    by_cases he : L.IsMine entry.1 &&& filter ≠ 0 ∧ entry.2 = a
    · rw [if_pos he, ite_self, decide_eq_true he, Bool.true_or, if_pos rfl]
    · rw [if_neg he, decide_eq_false he, Bool.false_or]

/-- On each account, `listaccounts` is the loop of that account's postings, from `0` for an
account of the wallet's addresses and from no item for another. -/
theorem listaccounts.lookup_postings [DecidableEq D] {params : ListAccountsParams}
    {mapAddressBook : List (D × String)} {mapWallet : List (AccountsTx D)}
    {laccentries : List CAccountingEntry} {m : List (String × CAmount)}
    (h : listaccounts L params mapAddressBook mapWallet laccentries = .ok m) :
    (m.map Prod.fst).Sorted (· < ·) ∧ ∀ a,
      (Posting.of (listaccounts.postings (params.filter L) params.nMinDepth mapAddressBook
        mapWallet laccentries) a).foldlM Posting.apply
        (if listaccounts.booked L (params.filter L) mapAddressBook a then some SInt.zero
          else none) = .ok (m.lookup a) := by
  rw [listaccounts_eq] at h
  obtain ⟨m₀, h₀, h⟩ := Result.bind_eq_ok.mp h
  obtain ⟨hs₀, hl₀⟩ := listaccounts.foldlM_bookStep L (m := []) List.sorted_nil h₀
  obtain ⟨hs, hl⟩ := Posting.foldlM_post hs₀ h
  exact ⟨hs, fun a => by rw [← hl a, hl₀ a]; rfl⟩

/-- `listaccounts` replies with one balance per account, in increasing order of the names. It
lists the accounts of the addresses `IsMine` places in the filter and the accounts some posting
names, and no other; and the balance of each account is the sum of its postings: the amounts its
addresses received at least `minconf` deep, minus the amounts it sent and their fees, plus its
accounting entries. -/
theorem listaccounts_balances [DecidableEq D] {params : ListAccountsParams}
    {mapAddressBook : List (D × String)} {mapWallet : List (AccountsTx D)}
    {laccentries : List CAccountingEntry} {m : List (String × CAmount)}
    (h : listaccounts L params mapAddressBook mapWallet laccentries = .ok m) :
    (m.map Prod.fst).Sorted (· < ·) ∧ ∀ a,
      ((m.lookup a).isSome ↔ listaccounts.booked L (params.filter L) mapAddressBook a ∨
        Posting.of (listaccounts.postings (params.filter L) params.nMinDepth mapAddressBook
          mapWallet laccentries) a ≠ []) ∧
      balanceOf m a = ((Posting.of (listaccounts.postings (params.filter L) params.nMinDepth
        mapAddressBook mapWallet laccentries) a).map Posting.delta).sum := by
  obtain ⟨hs, hl⟩ := listaccounts.lookup_postings L h
  refine ⟨hs, fun a => ?_⟩
  obtain ⟨hsome, hval⟩ := Posting.foldlM_apply (hl a)
  unfold balanceOf
  rw [hsome, hval]
  cases listaccounts.booked L (params.filter L) mapAddressBook a <;> simp

theorem listaccounts_balances_sample :
    listaccounts sampleListAccountsLib ⟨none, none⟩ sampleAccountsBook sampleAccountsWallet
        sampleAccountingEntries = .ok sampleBalances ∧
    (sampleBalances.map Prod.fst).Sorted (· < ·) ∧ ∀ a,
      ((sampleBalances.lookup a).isSome ↔
        listaccounts.booked sampleListAccountsLib
          (ListAccountsParams.filter sampleListAccountsLib ⟨none, none⟩) sampleAccountsBook a ∨
        Posting.of (listaccounts.postings
          (ListAccountsParams.filter sampleListAccountsLib ⟨none, none⟩)
          (ListAccountsParams.nMinDepth ⟨none, none⟩) sampleAccountsBook sampleAccountsWallet
          sampleAccountingEntries) a ≠ []) ∧
      balanceOf sampleBalances a = ((Posting.of (listaccounts.postings
        (ListAccountsParams.filter sampleListAccountsLib ⟨none, none⟩)
        (ListAccountsParams.nMinDepth ⟨none, none⟩) sampleAccountsBook sampleAccountsWallet
        sampleAccountingEntries) a).map Posting.delta).sum :=
  have h : listaccounts sampleListAccountsLib ⟨none, none⟩ sampleAccountsBook sampleAccountsWallet
      sampleAccountingEntries = .ok sampleBalances := by rfl
  ⟨h, listaccounts_balances sampleListAccountsLib h⟩

/-- Accounting entries written after the others move each balance by their own postings. -/
theorem listaccounts.balanceOf_append [DecidableEq D] {params : ListAccountsParams}
    {mapAddressBook : List (D × String)} {mapWallet : List (AccountsTx D)}
    {laccentries entries : List CAccountingEntry} {m m' : List (String × CAmount)}
    (h : listaccounts L params mapAddressBook mapWallet laccentries = .ok m)
    (h' : listaccounts L params mapAddressBook mapWallet (laccentries ++ entries) = .ok m')
    (a : String) :
    balanceOf m' a = balanceOf m a + ((Posting.of (entries.map fun entry =>
      (entry.strAccount, ⟨false, entry.nCreditDebit⟩)) a).map Posting.delta).sum := by
  have hl := (listaccounts.lookup_postings L h).2 a
  have hl' := (listaccounts.lookup_postings L h').2 a
  rw [listaccounts.postings, List.map_append, ← List.append_assoc, ← listaccounts.postings,
    Posting.of, List.flatMap_append, ← Posting.of, ← Posting.of, List.foldlM_append, hl,
    Result.ok_bind] at hl'
  exact (Posting.foldlM_apply hl').2

end Balances

/-! ## `move` -/

/-- The calls of `move` to the wallet and its database, over a wallet state `S`: whether
`TxnBegin` and `TxnCommit` succeed, `IncOrderPosNext` (the position it gives, and the wallet
after it) and `AddAccountingEntry`. -/
structure AccountingWallet (S : Type) where
  TxnBegin : S → Bool
  TxnCommit : S → Bool
  IncOrderPosNext : S → SInt 64 × S
  AddAccountingEntry : S → CAccountingEntry → S

/-- What else `move` calls: `AmountFromValue` and `get_int` (with the text of the exception they
throw), and its help text. -/
structure MoveLib (J : Type) where
  AmountFromValue : J → Result CAmount
  get_int : J → Except String CInt
  help : String

/-- `-nAmount` for an amount that `move` has checked to be positive: it cannot overflow. -/
def negAmount (nAmount : {n : CAmount // 0 < n.val}) : CAmount :=
  ⟨-nAmount.1.val, by have := nAmount.1.range.2; have := nAmount.2; omega,
    by have := nAmount.2; omega⟩

/-- Accounting entries kept as the list that `AddAccountingEntry` appends to, with every call to
the database succeeding. -/
def sampleAccountingWallet : AccountingWallet (List CAccountingEntry) where
  TxnBegin _ := true
  TxnCommit _ := true
  IncOrderPosNext s := (SInt.zero, s)
  AddAccountingEntry s e := s ++ [e]

/-- Every amount is `2`, and every `minconf` is `1`. -/
def sampleMoveLib : MoveLib String where
  AmountFromValue _ := .ok ⟨2, by norm_num⟩
  get_int _ := .ok ⟨1, by norm_num⟩
  help := "move"

/-- The balances of the sample wallet after moving `2` from `alice` to `bob`. -/
def sampleBalancesMoved : List (String × CAmount) :=
  [("alice", ⟨3, by norm_num⟩), ("bob", ⟨-1, by norm_num⟩), ("carol", ⟨3, by norm_num⟩)]

section Move

variable {S J : Type} (W : AccountingWallet S) (M : MoveLib J) (U : UniValueOps J)

/-- The checks of the parameters of `move`: the two accounts, the amount (positive), the unused
`minconf` (still type-checked) and the comment. -/
def movecmd.args (params : List J) :
    Result (String × String × {n : CAmount // 0 < n.val} × String) :=
  match params with
  | p0 :: p1 :: p2 :: rest =>
    if 2 < rest.length then .thrown M.help
    else do
      let strFrom ← AccountFromValue U p0
      let strTo ← AccountFromValue U p1
      let nAmount ← M.AmountFromValue p2
      if h : nAmount.val ≤ 0 then .thrown "Invalid amount for send"
      else do
        match rest.head? with
        | some p3 =>
          match M.get_int p3 with
          | .error what => .thrown what
          | .ok _ => pure ()
        | none => pure ()
        let strComment ← match rest with
          | [_, p4] => U.getStr p4
          | _ => pure ""
        pure (strFrom, strTo, ⟨nAmount, lt_of_not_le h⟩, strComment)
  | _ => .thrown M.help

/-- `move "fromaccount" "toaccount" amount ( minconf "comment" )` at the adjusted time `nNow`:
the wallet after it, and its outcome. -/
def movecmd (nNow : SInt 64) (params : List J) (s : S) : S × Result Bool :=
  match movecmd.args M U params with
  | .thrown what => (s, .thrown what)
  | .undefined => (s, .undefined)
  | .ok (strFrom, strTo, nAmount, strComment) =>
    if !W.TxnBegin s then (s, .thrown "database error")
    else
      let (nOrderPos, s) := W.IncOrderPosNext s
      let s := W.AddAccountingEntry s
        ⟨strFrom, negAmount nAmount, nNow, strTo, strComment, nOrderPos⟩
      let (nOrderPos, s) := W.IncOrderPosNext s
      let s := W.AddAccountingEntry s ⟨strTo, nAmount.1, nNow, strFrom, strComment, nOrderPos⟩
      if !W.TxnCommit s then (s, .thrown "database error") else (s, .ok true)

/-- When `AddAccountingEntry` appends to `laccentries` and `IncOrderPosNext` leaves them alone, a
`move` whose parameters pass and whose transaction begins appends its debit and its credit,
whether its commit succeeds or not. -/
theorem movecmd_laccentries (laccentries : S → List CAccountingEntry)
    (hinc : ∀ s, laccentries (W.IncOrderPosNext s).2 = laccentries s)
    (hadd : ∀ s e, laccentries (W.AddAccountingEntry s e) = laccentries s ++ [e])
    (nNow : SInt 64) {params : List J} {s : S} {strFrom strTo strComment : String}
    {nAmount : {n : CAmount // 0 < n.val}}
    (hargs : movecmd.args M U params = .ok (strFrom, strTo, nAmount, strComment))
    (hbegin : W.TxnBegin s) :
    ∃ debit credit : CAccountingEntry,
      debit.strAccount = strFrom ∧ debit.nCreditDebit.val = -nAmount.1.val ∧
      credit.strAccount = strTo ∧ credit.nCreditDebit = nAmount.1 ∧
      laccentries (movecmd W M U nNow params s).1 = laccentries s ++ [debit, credit] := by
  refine ⟨⟨strFrom, negAmount nAmount, nNow, strTo, strComment, (W.IncOrderPosNext s).1⟩,
    ⟨strTo, nAmount.1, nNow, strFrom, strComment, ?pos⟩, rfl, rfl, rfl, rfl, ?_⟩
  case pos => exact (W.IncOrderPosNext (W.AddAccountingEntry (W.IncOrderPosNext s).2
    ⟨strFrom, negAmount nAmount, nNow, strTo, strComment, (W.IncOrderPosNext s).1⟩)).1
  simp only [movecmd, hargs, hbegin, Bool.not_true, Bool.false_eq_true, ↓reduceIte]
  split <;> rw [hadd, hinc, hadd, hinc, List.append_assoc] <;> rfl

/-- A `move` whose parameters pass and whose transaction begins takes `amount` from the balance
that `listaccounts` gives `fromaccount`, adds it to the balance of `toaccount`, and leaves every
other balance alone, whether its commit succeeds or not; this when `AddAccountingEntry` appends
the entry to `laccentries` and `IncOrderPosNext` leaves them alone. -/
theorem movecmd_moves {D : Type} [DecidableEq D] (L : ListAccountsLib D)
    (laccentries : S → List CAccountingEntry)
    (hinc : ∀ s, laccentries (W.IncOrderPosNext s).2 = laccentries s)
    (hadd : ∀ s e, laccentries (W.AddAccountingEntry s e) = laccentries s ++ [e])
    {nNow : SInt 64} {params : List J} {s : S} {strFrom strTo strComment : String}
    {nAmount : {n : CAmount // 0 < n.val}}
    (hargs : movecmd.args M U params = .ok (strFrom, strTo, nAmount, strComment))
    (hbegin : W.TxnBegin s) {lparams : ListAccountsParams} {mapAddressBook : List (D × String)}
    {mapWallet : List (AccountsTx D)} {m m' : List (String × CAmount)}
    (hm : listaccounts L lparams mapAddressBook mapWallet (laccentries s) = .ok m)
    (hm' : listaccounts L lparams mapAddressBook mapWallet
      (laccentries (movecmd W M U nNow params s).1) = .ok m') (a : String) :
    balanceOf m' a = balanceOf m a - (if strFrom = a then nAmount.1.val else 0) +
      (if strTo = a then nAmount.1.val else 0) := by
  obtain ⟨debit, credit, hd, hdv, hc, hcv, he⟩ :=
    movecmd_laccentries W M U laccentries hinc hadd nNow hargs hbegin
  rw [he] at hm'
  rw [listaccounts.balanceOf_append L hm hm' a]
  simp only [Posting.of, List.map_cons, List.map_nil, List.flatMap_cons, List.flatMap_nil,
    List.append_nil, hd, hc]
  split_ifs <;> simp [Posting.delta, hdv, hcv, ← sub_eq_add_neg]

theorem movecmd_moves_sample :
    (∀ s, (sampleAccountingWallet.IncOrderPosNext s).2 = s) ∧
    (∀ s e, sampleAccountingWallet.AddAccountingEntry s e = s ++ [e]) ∧
    movecmd.args sampleMoveLib sampleStringJson ["alice", "bob", "2"] =
      .ok ("alice", "bob", ⟨⟨2, by norm_num⟩, by norm_num⟩, "") ∧
    sampleAccountingWallet.TxnBegin sampleAccountingEntries ∧
    listaccounts sampleListAccountsLib ⟨none, none⟩ sampleAccountsBook sampleAccountsWallet
      sampleAccountingEntries = .ok sampleBalances ∧
    listaccounts sampleListAccountsLib ⟨none, none⟩ sampleAccountsBook sampleAccountsWallet
      (movecmd sampleAccountingWallet sampleMoveLib sampleStringJson SInt.zero ["alice", "bob", "2"]
        sampleAccountingEntries).1 = .ok sampleBalancesMoved ∧
    balanceOf sampleBalancesMoved "alice" = balanceOf sampleBalances "alice" -
      (if "alice" = "alice" then 2 else 0) + (if "bob" = "alice" then 2 else 0) :=
  have hinc : ∀ s, (sampleAccountingWallet.IncOrderPosNext s).2 = s := fun _ => rfl
  have hadd : ∀ s e, sampleAccountingWallet.AddAccountingEntry s e = s ++ [e] := fun _ _ => rfl
  have hargs : movecmd.args sampleMoveLib sampleStringJson ["alice", "bob", "2"] =
      .ok ("alice", "bob", ⟨⟨2, by norm_num⟩, by norm_num⟩, "") := by rfl
  have hm : listaccounts sampleListAccountsLib ⟨none, none⟩ sampleAccountsBook sampleAccountsWallet
      sampleAccountingEntries = .ok sampleBalances := by rfl
  have hm' : listaccounts sampleListAccountsLib ⟨none, none⟩ sampleAccountsBook sampleAccountsWallet
      (movecmd sampleAccountingWallet sampleMoveLib sampleStringJson SInt.zero ["alice", "bob", "2"]
        sampleAccountingEntries).1 = .ok sampleBalancesMoved := by rfl
  ⟨hinc, hadd, hargs, rfl, hm, hm',
    movecmd_moves sampleAccountingWallet sampleMoveLib sampleStringJson sampleListAccountsLib id
      hinc hadd hargs rfl hm hm' "alice"⟩

end Move

end Membercoin
