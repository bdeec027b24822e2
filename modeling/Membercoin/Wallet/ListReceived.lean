import Membercoin.Transaction.Mutable
import Membercoin.StdMap

/-!
# `ListReceived` (`listreceivedbyaddress`, `listreceivedbyaccount`)

`ListReceived` first tallies, per address, the outputs of the wallet's transactions that pay it:
a transaction counts when it is not a coinbase, is final, and is at least `minconf` deep, and an
output counts when its script has a destination that `IsMine` places in the filter. The tally of
an address (`tallyitem`) sums the values, keeps the smallest depth and records the transaction's
hash once per output. It then walks the address book: by address, every address with a tally (or
every address, with `includeempty`) gives an object; by account, the tallies of the addresses of
an account are added up in `mapAccountTally`, a `std::map` that the reply walks in the order of
the names.

The wallet's transactions (`mapWallet` in its order), the address book (`mapAddressBook` in its
order), `ExtractDestination`, `IsMine` and the flags `ISMINE_SPENDABLE` and `ISMINE_WATCH_ONLY` are
given. The parameters come parsed; `EncodeDestination`, `ValueFromAmount` and `GetHex` only format
the fields of the objects, which are kept as values.

* `ListReceived_byAddress`: one object per entry of the address book that has a tally (every
  entry, with `includeempty`), in its order; the tally of an address holds the total and the
  smallest depth of its credits, the hash of a transaction once for every output of it that pays
  the address, and whether one credit is watch-only.
* `ListReceived_byAccounts`: one object per account with shares, in increasing order of the
  names; the item of an account adds up the totals of its addresses and keeps their smallest
  depth, but `item2.fIsWatchonly = fIsWatchonly` overwrites the flag, so it is the flag of the
  account's last address in the address book, not whether one of them is watch-only.
-/

namespace Membercoin

/-- `tallyitem`. -/
structure tallyitem where
  nAmount : CAmount
  nConf : CInt
  txids : List (BitVec 256)
  fIsWatchonly : Bool

/-- `std::numeric_limits<int>::max()`. -/
def INT_MAX : CInt := ⟨2 ^ 31 - 1, by norm_num⟩

/-- `tallyitem()`. -/
def tallyitem.init : tallyitem := ⟨SInt.zero, INT_MAX, [], false⟩

/-- What the tally reads of a `CWalletTx`: its hash, `IsCoinBase()`, `CheckFinalTx`,
`GetDepthInMainChain()` and its outputs. -/
structure WalletTx where
  hash : BitVec 256
  IsCoinBase : Bool
  CheckFinalTx : Bool
  nDepth : CInt
  vout : List CTxOut.Full

/-- The functions of the wallet and the script code that `ListReceived` calls (`isminefilter` is a
`uint8_t`). -/
structure ListReceivedLib (D : Type) where
  ExtractDestination : CScript → Option D
  IsMine : D → BitVec 8
  ISMINE_SPENDABLE : BitVec 8
  ISMINE_WATCH_ONLY : BitVec 8

/-- The parameters of `ListReceived`, when given: `minconf`, `includeempty` and
`includeWatchonly`. -/
structure ListReceivedParams where
  minconf : Option CInt
  includeempty : Option Bool
  includeWatchonly : Option Bool

/-- The objects of the reply: one per address, or one per account. -/
inductive ReceivedObj (D : Type)
  | address (involvesWatchonly : Bool) (address : D) (account : String) (nAmount : CAmount)
      (confirmations : CInt) (label : String) (txids : List (BitVec 256))
  | account (involvesWatchonly : Bool) (account : String) (nAmount : CAmount) (confirmations : CInt)

/-- `item.nAmount += nValue; item.nConf = min(item.nConf, nDepth); item.txids.push_back(hash)`, and
the watch-only flag. -/
def tallyitem.add (item : tallyitem) (nValue : CAmount) (nDepth : CInt) (hash : BitVec 256)
    (fWatch : Bool) : Result tallyitem := do
  let nAmount ← item.nAmount.add nValue
  pure ⟨nAmount, SInt.min item.nConf nDepth, item.txids ++ [hash],
    if fWatch then true else item.fIsWatchonly⟩

/-- `item2.nAmount += nAmount; item2.nConf = min(item2.nConf, nConf);
item2.fIsWatchonly = fIsWatchonly`: an address's share of its account. -/
def tallyitem.addShare (item2 : tallyitem) (nAmount : CAmount) (nConf : CInt)
    (fIsWatchonly : Bool) : Result tallyitem := do
  let nAmount2 ← item2.nAmount.add nAmount
  pure ⟨nAmount2, SInt.min item2.nConf nConf, item2.txids, fIsWatchonly⟩

/-- `nConf == std::numeric_limits<int>::max() ? 0 : nConf`. -/
def confirmations (nConf : CInt) : CInt := if nConf = INT_MAX then SInt.zero else nConf

/-- `nMinDepth`: `params[0]`, `1` without it. -/
def ListReceivedParams.nMinDepth (params : ListReceivedParams) : CInt :=
  params.minconf.getD ⟨1, by norm_num⟩

/-- `fIncludeEmpty`: `params[1]`, `false` without it. -/
def ListReceivedParams.fIncludeEmpty (params : ListReceivedParams) : Bool :=
  params.includeempty.getD false

/-- `filter`: `ISMINE_SPENDABLE`, with `ISMINE_WATCH_ONLY` when `params[2]` is `true`. -/
def ListReceivedParams.filter {D : Type} (L : ListReceivedLib D) (params : ListReceivedParams) :
    BitVec 8 :=
  if params.includeWatchonly.getD false then L.ISMINE_SPENDABLE ||| L.ISMINE_WATCH_ONLY
  else L.ISMINE_SPENDABLE

section ListReceived

variable {D : Type} [DecidableEq D] (L : ListReceivedLib D)

/-- The tally of one output of a transaction of depth `nDepth`. -/
def ListReceived.tallyOut (filter : BitVec 8) (nDepth : CInt) (hash : BitVec 256)
    (mapTally : D → Option tallyitem) (txout : CTxOut.Full) : Result (D → Option tallyitem) :=
  match L.ExtractDestination txout.scriptPubKey with
  | none => pure mapTally
  | some address =>
    let mine := L.IsMine address
    if mine &&& filter = 0 then pure mapTally
    else do
      let item ← ((mapTally address).getD tallyitem.init).add txout.nValue nDepth hash
        (mine &&& L.ISMINE_WATCH_ONLY ≠ 0)
      pure (Function.update mapTally address (some item))

/-- The tally of one transaction of the wallet. -/
def ListReceived.tallyTx (filter : BitVec 8) (nMinDepth : CInt) (mapTally : D → Option tallyitem)
    (wtx : WalletTx) : Result (D → Option tallyitem) :=
  if wtx.IsCoinBase || !wtx.CheckFinalTx then pure mapTally
  else if wtx.nDepth.val < nMinDepth.val then pure mapTally
  else wtx.vout.foldlM (ListReceived.tallyOut L filter wtx.nDepth wtx.hash) mapTally

/-- The loop over `mapWallet` that fills `mapTally`. -/
def ListReceived.tally (filter : BitVec 8) (nMinDepth : CInt) (mapWallet : List WalletTx) :
    Result (D → Option tallyitem) :=
  mapWallet.foldlM (ListReceived.tallyTx L filter nMinDepth) fun _ => none

/-- One entry of the address book in the reply loop: its object, or its share of its account. -/
def ListReceived.replyStep (fByAccounts fIncludeEmpty : Bool) (mapTally : D → Option tallyitem)
    (s : List (String × tallyitem) × List (ReceivedObj D)) (entry : D × String) :
    Result (List (String × tallyitem) × List (ReceivedObj D)) :=
  let (dest, strAccount) := entry
  let it := mapTally dest
  if it.isNone && !fIncludeEmpty then pure s
  else
    let nAmount := (it.map (·.nAmount)).getD SInt.zero
    let nConf := (it.map (·.nConf)).getD INT_MAX
    let fIsWatchonly := (it.map (·.fIsWatchonly)).getD false
    if fByAccounts then do
      let mapAccountTally ←
        mapUpdate tallyitem.init (fun item2 => item2.addShare nAmount nConf fIsWatchonly)
          strAccount s.1
      pure (mapAccountTally, s.2)
    else
      pure (s.1, s.2 ++ [.address fIsWatchonly dest strAccount nAmount (confirmations nConf)
        strAccount ((it.map (·.txids)).getD [])])

/-- `ListReceived(params, fByAccounts)` over the wallet's transactions and its address book. -/
def ListReceived (params : ListReceivedParams) (fByAccounts : Bool) (mapWallet : List WalletTx)
    (mapAddressBook : List (D × String)) : Result (List (ReceivedObj D)) := do
  let mapTally ← ListReceived.tally L (params.filter L) params.nMinDepth mapWallet
  let (mapAccountTally, ret) ← mapAddressBook.foldlM
    (ListReceived.replyStep fByAccounts params.fIncludeEmpty mapTally) ([], [])
  if fByAccounts then
    pure (ret ++ mapAccountTally.map fun (account, item) =>
      .account item.fIsWatchonly account item.nAmount (confirmations item.nConf))
  else pure ret

end ListReceived

/-! ## The tally, address by address -/

/-- An output the tally counts for an address: its value, the depth and hash of its transaction,
and whether `IsMine` flags the address watch-only. -/
structure Credit where
  nValue : CAmount
  nDepth : CInt
  hash : BitVec 256
  fWatch : Bool

/-- A credit added to an item. -/
def tallyitem.addCredit (item : tallyitem) (c : Credit) : Result tallyitem :=
  item.add c.nValue c.nDepth c.hash c.fWatch

/-- What the tally does with one credit of an address: create its item, then add the credit. -/
def tallyitem.credit (o : Option tallyitem) (c : Credit) : Result (Option tallyitem) :=
  some <$> (o.getD tallyitem.init).addCredit c

section Credits

variable {D : Type} [DecidableEq D] (L : ListReceivedLib D)

/-- The credit an output gives to `d`: one when it pays `d` and the filter takes `d`. -/
def ListReceived.creditOf (filter : BitVec 8) (nDepth : CInt) (hash : BitVec 256)
    (txout : CTxOut.Full) (d : D) : List Credit :=
  if L.ExtractDestination txout.scriptPubKey = some d ∧ L.IsMine d &&& filter ≠ 0 then
    [⟨txout.nValue, nDepth, hash, L.IsMine d &&& L.ISMINE_WATCH_ONLY ≠ 0⟩]
  else []

/-- The credits of `d` in one transaction: none unless the tally counts the transaction. -/
def ListReceived.creditsTx (filter : BitVec 8) (nMinDepth : CInt) (wtx : WalletTx) (d : D) :
    List Credit :=
  if wtx.IsCoinBase || !wtx.CheckFinalTx then []
  else if wtx.nDepth.val < nMinDepth.val then []
  else wtx.vout.flatMap fun txout => ListReceived.creditOf L filter wtx.nDepth wtx.hash txout d

/-- The credits of `d` in the wallet, in the order of `mapWallet` and of the outputs. -/
def ListReceived.credits (filter : BitVec 8) (nMinDepth : CInt) (mapWallet : List WalletTx)
    (d : D) : List Credit :=
  mapWallet.flatMap fun wtx => ListReceived.creditsTx L filter nMinDepth wtx d

variable {filter : BitVec 8}

theorem ListReceived.tallyOut_credits {nDepth : CInt} {hash : BitVec 256}
    {m m' : D → Option tallyitem} {txout : CTxOut.Full}
    (h : ListReceived.tallyOut L filter nDepth hash m txout = .ok m') (d : D) :
    (ListReceived.creditOf L filter nDepth hash txout d).foldlM tallyitem.credit (m d) =
      .ok (m' d) := by
  unfold ListReceived.tallyOut at h
  unfold ListReceived.creditOf
  split at h
  · rename_i hx
    cases h
    rw [if_neg (by simp [hx])]
    rfl
  · rename_i address hx
    dsimp only at h
    split at h
    · rename_i hmine
      cases h
      rw [if_neg]
      · rfl
      · rintro ⟨hd, hd'⟩
        cases hx.symm.trans hd
        exact hd' hmine
    · rename_i hmine
      obtain ⟨item, hitem, h⟩ := Result.bind_eq_ok.mp h
      cases h
      by_cases hd : d = address
      · subst hd
        rw [if_pos ⟨hx, hmine⟩]
        simp only [List.foldlM_cons, List.foldlM_nil, tallyitem.credit, tallyitem.addCredit, hitem,
          Result.map_ok,
          Result.ok_bind, Function.update_same, Result.pure_eq]
      · rw [if_neg (fun hc => hd (Option.some.inj (hx.symm.trans hc.1)).symm),
          Function.update_noteq hd]
        rfl

theorem ListReceived.tallyTx_credits {nMinDepth : CInt} {m m' : D → Option tallyitem}
    {wtx : WalletTx} (h : ListReceived.tallyTx L filter nMinDepth m wtx = .ok m') (d : D) :
    (ListReceived.creditsTx L filter nMinDepth wtx d).foldlM tallyitem.credit (m d) =
      .ok (m' d) := by
  unfold ListReceived.tallyTx at h
  unfold ListReceived.creditsTx
  split at h
  · cases h
    rw [if_pos ‹_›]
    rfl
  · rw [if_neg ‹_›]
    split at h
    · cases h
      rw [if_pos ‹_›]
      rfl
    · rw [if_neg ‹_›]
      exact (Result.foldlM_view (ListReceived.tallyOut L filter wtx.nDepth wtx.hash) (fun m => m)
        (fun _ => True) (fun _ h => ⟨trivial, ListReceived.tallyOut_credits L h⟩) trivial h).2 d

/-- Address by address, the tally folds the credits of the address, in order. -/
theorem ListReceived.tally_credits {nMinDepth : CInt} {mapWallet : List WalletTx}
    {mapTally : D → Option tallyitem}
    (h : ListReceived.tally L filter nMinDepth mapWallet = .ok mapTally) (d : D) :
    (ListReceived.credits L filter nMinDepth mapWallet d).foldlM tallyitem.credit none =
      .ok (mapTally d) :=
  (Result.foldlM_view (ListReceived.tallyTx L filter nMinDepth) (fun m => m) (fun _ => True)
    (fun _ h => ⟨trivial, ListReceived.tallyTx_credits L h⟩) trivial h).2 d

end Credits

/-! ## What a tally item holds -/

theorem tallyitem.add_eq_ok {item item' : tallyitem} {nValue : CAmount} {nDepth : CInt}
    {hash : BitVec 256} {fWatch : Bool} (h : item.add nValue nDepth hash fWatch = .ok item') :
    item'.nAmount.val = item.nAmount.val + nValue.val ∧
      item'.nConf.val = min item.nConf.val nDepth.val ∧ item'.txids = item.txids ++ [hash] ∧
      item'.fIsWatchonly = (fWatch || item.fIsWatchonly) := by
  obtain ⟨a, ha, h⟩ := Result.bind_eq_ok.mp h
  cases h
  refine ⟨SInt.add_eq_ok_iff.mp ha, SInt.min_val _ _, rfl, ?_⟩
  cases fWatch <;> rfl

/-- Credits added to an item one after the other. -/
theorem tallyitem.foldlM_addCredit {cs : List Credit} {item item' : tallyitem}
    (h : cs.foldlM tallyitem.addCredit item = .ok item') :
    item'.nAmount.val = item.nAmount.val + (cs.map (·.nValue.val)).sum ∧
      item'.nConf.val = (cs.map (·.nDepth.val)).foldl min item.nConf.val ∧
      item'.txids = item.txids ++ cs.map (·.hash) ∧
      item'.fIsWatchonly = (item.fIsWatchonly || cs.any (·.fWatch)) := by
  induction cs generalizing item with
  | nil => cases h; simp
  | cons c cs ih =>
    rw [List.foldlM_cons] at h
    obtain ⟨item₁, h₁, h⟩ := Result.bind_eq_ok.mp h
    obtain ⟨ha, hc, ht, hw⟩ := tallyitem.add_eq_ok h₁
    obtain ⟨ha', hc', ht', hw'⟩ := ih h
    refine ⟨?_, by rw [hc', hc]; rfl, by simp [ht', ht], ?_⟩
    · simp only [List.map_cons, List.sum_cons]
      omega
    · rw [hw', hw, List.any_cons]
      cases c.fWatch <;> cases item.fIsWatchonly <;> rfl

/-- Once the first credit has created the item, the tally of an address adds the credits to it. -/
theorem tallyitem.foldlM_credit {cs : List Credit} (hcs : cs ≠ []) (o : Option tallyitem) :
    cs.foldlM tallyitem.credit o =
      some <$> cs.foldlM tallyitem.addCredit (o.getD tallyitem.init) := by
  induction cs generalizing o with
  | nil => exact absurd rfl hcs
  | cons c cs ih =>
    rw [List.foldlM_cons, List.foldlM_cons, tallyitem.credit]
    cases h : (o.getD tallyitem.init).addCredit c with
    | ok item =>
      rw [Result.map_ok, Result.ok_bind, Result.ok_bind]
      rcases cs with _ | ⟨c', cs⟩
      · rfl
      · exact ih (List.cons_ne_nil _ _) (some item)
    | thrown w => rfl
    | undefined => rfl

/-- What the tally item of an address says of its credits: there is none without credits;
otherwise it holds their total, their smallest depth (from `INT_MAX`), the hash of their
transaction once for every credit, and whether one of them is watch-only. -/
def tallyitem.OfCredits (cs : List Credit) : Option tallyitem → Prop
  | none => cs = []
  | some item => cs ≠ [] ∧ item.nAmount.val = (cs.map (·.nValue.val)).sum ∧
      item.nConf.val = (cs.map (·.nDepth.val)).foldl min (2 ^ 31 - 1) ∧
      item.txids = cs.map (·.hash) ∧ item.fIsWatchonly = cs.any (·.fWatch)

theorem tallyitem.ofCredits_of_foldlM {cs : List Credit} {o : Option tallyitem}
    (h : cs.foldlM tallyitem.credit none = .ok o) : tallyitem.OfCredits cs o := by
  rcases cs with _ | ⟨c, cs⟩
  · cases h
    rfl
  · rw [tallyitem.foldlM_credit (List.cons_ne_nil _ _)] at h
    obtain ⟨item, hitem, rfl⟩ := Result.map_eq_ok.mp h
    obtain ⟨ha, hc, ht, hw⟩ := tallyitem.foldlM_addCredit hitem
    refine ⟨List.cons_ne_nil _ _, ?_, hc, ht, hw⟩
    rw [ha]
    exact zero_add _

theorem ListReceived.tally_ofCredits {D : Type} [DecidableEq D] (L : ListReceivedLib D)
    {filter : BitVec 8} {nMinDepth : CInt} {mapWallet : List WalletTx}
    {mapTally : D → Option tallyitem}
    (h : ListReceived.tally L filter nMinDepth mapWallet = .ok mapTally) (d : D) :
    tallyitem.OfCredits (ListReceived.credits L filter nMinDepth mapWallet d) (mapTally d) :=
  tallyitem.ofCredits_of_foldlM (ListReceived.tally_credits L h d)

/-! ## The reply, account by account -/

/-- What the reply does with one share of an account: create its item, then add the share. -/
def tallyitem.share (o : Option tallyitem) (sh : CAmount × CInt × Bool) :
    Result (Option tallyitem) :=
  some <$> (o.getD tallyitem.init).addShare sh.1 sh.2.1 sh.2.2

theorem tallyitem.addShare_eq_ok {item item' : tallyitem} {nAmount : CAmount} {nConf : CInt}
    {fIsWatchonly : Bool} (h : item.addShare nAmount nConf fIsWatchonly = .ok item') :
    item'.nAmount.val = item.nAmount.val + nAmount.val ∧
      item'.nConf.val = min item.nConf.val nConf.val ∧ item'.fIsWatchonly = fIsWatchonly := by
  obtain ⟨a, ha, h⟩ := Result.bind_eq_ok.mp h
  cases h
  exact ⟨SInt.add_eq_ok_iff.mp ha, SInt.min_val _ _, rfl⟩

/-- Shares added to an item one after the other: the watch-only flag is that of the last. -/
theorem tallyitem.foldlM_addShare {shs : List (CAmount × CInt × Bool)} {item item' : tallyitem}
    (h : shs.foldlM (fun it sh => it.addShare sh.1 sh.2.1 sh.2.2) item = .ok item') :
    item'.nAmount.val = item.nAmount.val + (shs.map (·.1.val)).sum ∧
      item'.nConf.val = (shs.map (·.2.1.val)).foldl min item.nConf.val ∧
      item'.fIsWatchonly = (shs.map (·.2.2)).getLastD item.fIsWatchonly := by
  induction shs generalizing item with
  | nil => cases h; simp
  | cons sh shs ih =>
    rw [List.foldlM_cons] at h
    obtain ⟨item₁, h₁, h⟩ := Result.bind_eq_ok.mp h
    obtain ⟨ha, hc, hw⟩ := tallyitem.addShare_eq_ok h₁
    obtain ⟨ha', hc', hw'⟩ := ih h
    refine ⟨?_, by rw [hc', hc]; rfl, by rw [hw', hw, List.map_cons, List.getLastD_cons]⟩
    simp only [List.map_cons, List.sum_cons]
    omega

theorem tallyitem.foldlM_share {shs : List (CAmount × CInt × Bool)} (hshs : shs ≠ [])
    (o : Option tallyitem) :
    shs.foldlM tallyitem.share o =
      some <$>
        shs.foldlM (fun it sh => it.addShare sh.1 sh.2.1 sh.2.2) (o.getD tallyitem.init) := by
  induction shs generalizing o with
  | nil => exact absurd rfl hshs
  | cons sh shs ih =>
    rw [List.foldlM_cons, List.foldlM_cons, tallyitem.share]
    cases h : (o.getD tallyitem.init).addShare sh.1 sh.2.1 sh.2.2 with
    | ok item =>
      rw [Result.map_ok, Result.ok_bind, Result.ok_bind]
      rcases shs with _ | ⟨sh', shs⟩
      · rfl
      · exact ih (List.cons_ne_nil _ _) (some item)
    | thrown w => rfl
    | undefined => rfl

/-- What the item of an account says of the shares of its addresses: there is none without
shares; otherwise it holds their total, their smallest depth (from `INT_MAX`), and the watch-only
flag of the last share only. -/
def tallyitem.OfShares (shs : List (CAmount × CInt × Bool)) : Option tallyitem → Prop
  | none => shs = []
  | some item => shs ≠ [] ∧ item.nAmount.val = (shs.map (·.1.val)).sum ∧
      item.nConf.val = (shs.map (·.2.1.val)).foldl min (2 ^ 31 - 1) ∧
      item.fIsWatchonly = (shs.map (·.2.2)).getLastD false

theorem tallyitem.ofShares_of_foldlM {shs : List (CAmount × CInt × Bool)} {o : Option tallyitem}
    (h : shs.foldlM tallyitem.share none = .ok o) : tallyitem.OfShares shs o := by
  rcases shs with _ | ⟨sh, shs⟩
  · cases h
    rfl
  · rw [tallyitem.foldlM_share (List.cons_ne_nil _ _)] at h
    obtain ⟨item, hitem, rfl⟩ := Result.map_eq_ok.mp h
    obtain ⟨ha, hc, hw⟩ := tallyitem.foldlM_addShare hitem
    refine ⟨List.cons_ne_nil _ _, ?_, hc, hw⟩
    rw [ha]
    exact zero_add _

section Shares

variable {D : Type}

/-- The share an entry of the address book gives to account `a`: the total, smallest depth and
watch-only flag of its address's tally (`0`, `INT_MAX` and `false` without one), when the entry
is of `a` and the reply takes it. -/
def ListReceived.shareOf (fIncludeEmpty : Bool) (mapTally : D → Option tallyitem)
    (entry : D × String) (a : String) : List (CAmount × CInt × Bool) :=
  if (mapTally entry.1).isNone && !fIncludeEmpty then []
  else if entry.2 = a then
    [(((mapTally entry.1).map (·.nAmount)).getD SInt.zero, ((mapTally entry.1).map (·.nConf)).getD
      INT_MAX, ((mapTally entry.1).map (·.fIsWatchonly)).getD false)]
  else []

/-- The shares of account `a`, in the order of the address book. -/
def ListReceived.shares (fIncludeEmpty : Bool) (mapTally : D → Option tallyitem)
    (mapAddressBook : List (D × String)) (a : String) : List (CAmount × CInt × Bool) :=
  mapAddressBook.flatMap fun entry => ListReceived.shareOf fIncludeEmpty mapTally entry a

theorem ListReceived.replyStep_accounts {fIncludeEmpty : Bool} {mapTally : D → Option tallyitem}
    {s s' : List (String × tallyitem) × List (ReceivedObj D)} {entry : D × String}
    (hs : (s.1.map Prod.fst).Sorted (· < ·) ∧ s.2 = [])
    (h : ListReceived.replyStep true fIncludeEmpty mapTally s entry = .ok s') :
    ((s'.1.map Prod.fst).Sorted (· < ·) ∧ s'.2 = []) ∧ ∀ a,
      (ListReceived.shareOf fIncludeEmpty mapTally entry a).foldlM tallyitem.share (s.1.lookup a) =
        .ok (s'.1.lookup a) := by
  obtain ⟨dest, strAccount⟩ := entry
  unfold ListReceived.replyStep at h
  unfold ListReceived.shareOf
  dsimp only at h ⊢
  split at h
  · cases h
    exact ⟨hs, fun a => by rw [if_pos ‹_›]; rfl⟩
  · obtain ⟨m, hm, h⟩ := Result.bind_eq_ok.mp h
    cases h
    obtain ⟨⟨v, hv, hk⟩, hother⟩ := mapUpdate_lookup hs.1 hm
    refine ⟨⟨mapUpdate_sorted hs.1 hm, hs.2⟩, fun a => ?_⟩
    rw [if_neg ‹_›]
    by_cases ha : strAccount = a
    · subst ha
      rw [if_pos rfl]
      simp only [List.foldlM_cons, List.foldlM_nil, tallyitem.share, hv, hk, Result.map_ok,
        Result.ok_bind, Result.pure_eq]
    · rw [if_neg ha, hother a (Ne.symm ha)]
      rfl

end Shares

/-! ## The reply, address by address -/

section Objects

variable {D : Type}

/-- The object of an entry of the address book in the reply by address, when the reply takes the
entry. -/
def ListReceived.addressObj (fIncludeEmpty : Bool) (mapTally : D → Option tallyitem)
    (entry : D × String) : Option (ReceivedObj D) :=
  if (mapTally entry.1).isNone && !fIncludeEmpty then none
  else some (.address (((mapTally entry.1).map (·.fIsWatchonly)).getD false) entry.1 entry.2
    (((mapTally entry.1).map (·.nAmount)).getD SInt.zero)
    (confirmations (((mapTally entry.1).map (·.nConf)).getD INT_MAX)) entry.2
    (((mapTally entry.1).map (·.txids)).getD []))

theorem ListReceived.replyStep_address {fIncludeEmpty : Bool} {mapTally : D → Option tallyitem}
    (s : List (String × tallyitem) × List (ReceivedObj D)) (entry : D × String) :
    ListReceived.replyStep false fIncludeEmpty mapTally s entry =
      .ok (s.1, s.2 ++ (ListReceived.addressObj fIncludeEmpty mapTally entry).toList) := by
  obtain ⟨dest, strAccount⟩ := entry
  unfold ListReceived.replyStep ListReceived.addressObj
  simp only [Bool.false_eq_true, ↓reduceIte]
  split_ifs <;> simp

/-- By address, the reply loop appends the object of every entry it takes, in order. -/
theorem ListReceived.foldlM_replyStep_address {fIncludeEmpty : Bool}
    {mapTally : D → Option tallyitem} (mapAddressBook : List (D × String))
    (s : List (String × tallyitem) × List (ReceivedObj D)) :
    mapAddressBook.foldlM (ListReceived.replyStep false fIncludeEmpty mapTally) s =
      .ok (s.1,
        s.2 ++ mapAddressBook.filterMap (ListReceived.addressObj fIncludeEmpty mapTally)) := by
  induction mapAddressBook generalizing s with
  | nil => simp
  | cons entry entries ih =>
    rw [List.foldlM_cons, ListReceived.replyStep_address, Result.ok_bind, ih, List.filterMap_cons]
    cases ListReceived.addressObj fIncludeEmpty mapTally entry <;> simp

end Objects

/-! ## The reply -/

/-- Addresses are numbers: a script pays the address of its first byte, and address `9` is
watch-only while the others are spendable. -/
def sampleListReceivedLib : ListReceivedLib Nat where
  ExtractDestination script := script.head?.map BitVec.toNat
  IsMine d := if d = 9 then 1 else 2
  ISMINE_SPENDABLE := 2
  ISMINE_WATCH_ONLY := 1

/-- Two transactions: the first, three blocks deep, pays address `1` twice (`5` and `7`); the
second, one block deep, pays address `2` (`4`). -/
def sampleMapWallet : List WalletTx :=
  [⟨1, false, true, ⟨3, by norm_num⟩,
    [⟨⟨⟨5, by norm_num⟩⟩, [1]⟩, ⟨⟨⟨7, by norm_num⟩⟩, [1]⟩]⟩,
   ⟨2, false, true, ⟨1, by norm_num⟩, [⟨⟨⟨4, by norm_num⟩⟩, [2]⟩]⟩]

/-- Addresses `1` and `2` of the account `alice`, and address `3`, with no tally, of `bob`. -/
def sampleMapAddressBook : List (Nat × String) := [(1, "alice"), (2, "alice"), (3, "bob")]


section Reply

variable {D : Type} [DecidableEq D] (L : ListReceivedLib D)

/-- `listreceivedbyaddress`: the reply has one object per entry of the address book that has a
tally (every entry, with `includeempty`), in the order of the address book, and the tally of each
address holds the total, the smallest depth, the hashes and the watch-only flag of its credits. -/
theorem ListReceived_byAddress {params : ListReceivedParams} {mapWallet : List WalletTx}
    {mapAddressBook : List (D × String)} {ret : List (ReceivedObj D)}
    (h : ListReceived L params false mapWallet mapAddressBook = .ok ret) :
    ∃ mapTally,
      ListReceived.tally L (params.filter L) params.nMinDepth mapWallet = .ok mapTally ∧
      (∀ d, tallyitem.OfCredits
        (ListReceived.credits L (params.filter L) params.nMinDepth mapWallet d) (mapTally d)) ∧
      ret = mapAddressBook.filterMap (ListReceived.addressObj params.fIncludeEmpty mapTally) := by
  obtain ⟨mapTally, ht, h⟩ := Result.bind_eq_ok.mp h
  rw [ListReceived.foldlM_replyStep_address, Result.ok_bind] at h
  cases h
  exact ⟨mapTally, ht, ListReceived.tally_ofCredits L ht, List.nil_append _⟩

theorem ListReceived_byAddress_sample :
    ListReceived sampleListReceivedLib ⟨none, none, none⟩ false sampleMapWallet
        sampleMapAddressBook =
      .ok [.address false 1 "alice" ⟨12, by norm_num⟩ ⟨3, by norm_num⟩ "alice" [1, 1],
        .address false 2 "alice" ⟨4, by norm_num⟩ ⟨1, by norm_num⟩ "alice" [2]] ∧
    ∃ mapTally, ListReceived.tally sampleListReceivedLib
        (ListReceivedParams.filter sampleListReceivedLib ⟨none, none, none⟩)
        (ListReceivedParams.nMinDepth ⟨none, none, none⟩) sampleMapWallet = .ok mapTally ∧
      (∀ d, tallyitem.OfCredits (ListReceived.credits sampleListReceivedLib
        (ListReceivedParams.filter sampleListReceivedLib ⟨none, none, none⟩)
        (ListReceivedParams.nMinDepth ⟨none, none, none⟩) sampleMapWallet d) (mapTally d)) ∧
      [.address false 1 "alice" ⟨12, by norm_num⟩ ⟨3, by norm_num⟩ "alice" [1, 1],
        .address false 2 "alice" ⟨4, by norm_num⟩ ⟨1, by norm_num⟩ "alice" [2]] =
        sampleMapAddressBook.filterMap (ListReceived.addressObj
          (ListReceivedParams.fIncludeEmpty ⟨none, none, none⟩) mapTally) :=
  have h : ListReceived sampleListReceivedLib ⟨none, none, none⟩ false sampleMapWallet
      sampleMapAddressBook =
    .ok [.address false 1 "alice" ⟨12, by norm_num⟩ ⟨3, by norm_num⟩ "alice" [1, 1],
      .address false 2 "alice" ⟨4, by norm_num⟩ ⟨1, by norm_num⟩ "alice" [2]] := by rfl
  ⟨h, ListReceived_byAddress sampleListReceivedLib h⟩

/-- `listreceivedbyaccount`: the reply has one object per account with shares, in increasing order
of the names, and the item of each account holds the total and the smallest depth of the shares
of its addresses, but the watch-only flag of the last of them only. -/
theorem ListReceived_byAccounts {params : ListReceivedParams} {mapWallet : List WalletTx}
    {mapAddressBook : List (D × String)} {ret : List (ReceivedObj D)}
    (h : ListReceived L params true mapWallet mapAddressBook = .ok ret) :
    ∃ mapTally, ∃ mapAccountTally : List (String × tallyitem),
      ListReceived.tally L (params.filter L) params.nMinDepth mapWallet = .ok mapTally ∧
      (∀ d, tallyitem.OfCredits
        (ListReceived.credits L (params.filter L) params.nMinDepth mapWallet d) (mapTally d)) ∧
      ret = mapAccountTally.map (fun p =>
        .account p.2.fIsWatchonly p.1 p.2.nAmount (confirmations p.2.nConf)) ∧
      (mapAccountTally.map Prod.fst).Sorted (· < ·) ∧
      ∀ a, tallyitem.OfShares
        (ListReceived.shares params.fIncludeEmpty mapTally mapAddressBook a)
        (mapAccountTally.lookup a) := by
  obtain ⟨mapTally, ht, h⟩ := Result.bind_eq_ok.mp h
  obtain ⟨⟨mapAccountTally, ret'⟩, hr, h⟩ := Result.bind_eq_ok.mp h
  obtain ⟨⟨hsorted, hret⟩, hk⟩ := Result.foldlM_view
    (ListReceived.replyStep true params.fIncludeEmpty mapTally) (fun s a => s.1.lookup a)
    (fun s => (s.1.map Prod.fst).Sorted (· < ·) ∧ s.2 = [])
    (fun hs h => ListReceived.replyStep_accounts hs h) (by exact ⟨List.sorted_nil, rfl⟩) hr
  cases h
  refine ⟨mapTally, mapAccountTally, ht, ListReceived.tally_ofCredits L ht, ?_, hsorted,
    fun a => tallyitem.ofShares_of_foldlM (hk a)⟩
  rw [show ret' = [] from hret, List.nil_append]

theorem ListReceived_byAccounts_sample :
    ListReceived sampleListReceivedLib ⟨none, none, none⟩ true sampleMapWallet
        sampleMapAddressBook =
      .ok [.account false "alice" ⟨16, by norm_num⟩ ⟨1, by norm_num⟩] ∧
    ∃ mapTally, ∃ mapAccountTally : List (String × tallyitem),
      ListReceived.tally sampleListReceivedLib
        (ListReceivedParams.filter sampleListReceivedLib ⟨none, none, none⟩)
        (ListReceivedParams.nMinDepth ⟨none, none, none⟩) sampleMapWallet = .ok mapTally ∧
      (∀ d, tallyitem.OfCredits (ListReceived.credits sampleListReceivedLib
        (ListReceivedParams.filter sampleListReceivedLib ⟨none, none, none⟩)
        (ListReceivedParams.nMinDepth ⟨none, none, none⟩) sampleMapWallet d) (mapTally d)) ∧
      [(.account false "alice" ⟨16, by norm_num⟩ ⟨1, by norm_num⟩ : ReceivedObj Nat)] =
        mapAccountTally.map (fun p =>
          .account p.2.fIsWatchonly p.1 p.2.nAmount (confirmations p.2.nConf)) ∧
      (mapAccountTally.map Prod.fst).Sorted (· < ·) ∧
      ∀ a, tallyitem.OfShares (ListReceived.shares
        (ListReceivedParams.fIncludeEmpty ⟨none, none, none⟩) mapTally sampleMapAddressBook a)
        (mapAccountTally.lookup a) :=
  have h : ListReceived sampleListReceivedLib ⟨none, none, none⟩ true sampleMapWallet
      sampleMapAddressBook =
    .ok [.account false "alice" ⟨16, by norm_num⟩ ⟨1, by norm_num⟩] := by
    rfl
  ⟨h, ListReceived_byAccounts sampleListReceivedLib h⟩

end Reply

end Membercoin
