import SorobanSas.Common.Eip712
import SorobanSas.Js.Typegen
import SorobanSas.Indexer.Pagination
import SorobanSas.Registry.Multisig
import SorobanSas.Registry.TwoStep
import SorobanSas.Registry.Delegates
import SorobanSas.Registry.History
import SorobanSas.Sas.Nonces
import SorobanSas.Sas.FeePolicy
import SorobanSas.Sas.References
import SorobanSas.Sas.FeeLedgers
import SorobanSas.Sas.DelegationPolicy
import SorobanSas.Sas.AttesterKeys
import SorobanSas.Sas.SignedActions
import SorobanSas.Sas.Quota
import SorobanSas.Sas.Reconciliation
import SorobanSas.CrossChain.Trust
import SorobanSas.Resolver.Lifecycle
import SorobanSas.TimeWindow.Cooldown
import SorobanSas.Sdk.Reservations
import SorobanSas.Sdk.Submission
import SorobanSas.Sdk.SchemaCache
import SorobanSas.Common.MerkleTree
import SorobanSas.Sas.StorageTtl
import SorobanSas.Resolver.Endorsements
import SorobanSas.Sdk.LedgerReads
import SorobanSas.CrossChain.Wire
import SorobanSas.Js.Failover
import SorobanSas.Js.Resilient
import SorobanSas.Cli.Payload
import SorobanSas.Js.QrCode
