import Membercoin.Basic
import Membercoin.Amount
import Membercoin.ArithUint256
import Membercoin.Transaction
import Membercoin.Interest.RateTable
import Membercoin.Interest.GetInterest
import Membercoin.Interest.Valuation
import Membercoin.Interest.Respend
import Membercoin.Work
import Membercoin.Script
import Membercoin.Block
import Membercoin.Wallet
import Membercoin.Sighash
import Membercoin.PatternHash
import Membercoin.Consensus
import Membercoin.UniValue
import Membercoin.Transaction.Mutable
import Membercoin.BitcoinTx.Lib
import Membercoin.BitcoinTx.Sign
import Membercoin.BitcoinTx.Commands
import Membercoin.BitcoinTx.Parts
import Membercoin.BitcoinTx.Runs
import Membercoin.Wallet.SendMany
import Membercoin.AppInit
import Membercoin.Wallet.LockUnspent
import Membercoin.AppInit.Parameters
import Membercoin.StdMap
import Membercoin.Wallet.ListReceived
import Membercoin.Wallet.Passphrase
import Membercoin.Wallet.Accounts
