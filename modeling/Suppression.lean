import Suppression.Batch
import Suppression.Form.Diagnostic
import Suppression.Form.Element
import Suppression.Form.Match
import Suppression.Manifest
import Suppression.Proofs.ArenaAdmission
import Suppression.Proofs.ArenaChain
import Suppression.Proofs.ArenaGrowth
import Suppression.Proofs.ArenaNumbers
import Suppression.Proofs.ArenaOrder
import Suppression.Proofs.BatchFailure
import Suppression.Proofs.BatchLog
import Suppression.Proofs.CyclePath
import Suppression.Proofs.Dependence
import Suppression.Proofs.Directives
import Suppression.Proofs.EffectiveKeys
import Suppression.Proofs.Freezing
import Suppression.Proofs.Inheritance
import Suppression.Proofs.Installation
import Suppression.Proofs.Json.Arrangements
import Suppression.Proofs.Json.Containers
import Suppression.Proofs.Json.Forms
import Suppression.Proofs.Json.Opening
import Suppression.Proofs.Json.Records
import Suppression.Proofs.Json.Skipping
import Suppression.Proofs.Json.Tokens
import Suppression.Proofs.KeyHistories
import Suppression.Proofs.KeyTable
import Suppression.Proofs.Lineage
import Suppression.Proofs.ManifestLoading
import Suppression.Proofs.Matching
import Suppression.Proofs.OneStepOut
import Suppression.Proofs.Registration
import Suppression.Proofs.RegistryTables
import Suppression.Proofs.Resolution
import Suppression.Proofs.ResolutionContract
import Suppression.Proofs.ResolutionLog
import Suppression.Proofs.ResolutionRun
import Suppression.Proofs.Respelling
import Suppression.Proofs.RoundTrip
import Suppression.Proofs.ScopeChain
import Suppression.Proofs.Stopping
import Suppression.Proofs.Survivors
import Suppression.Proofs.TopLevel
import Suppression.Proofs.Validation
import Suppression.Proofs.WalkCalls
import Suppression.Proofs.Widening
import Suppression.Proofs.Wildcard
