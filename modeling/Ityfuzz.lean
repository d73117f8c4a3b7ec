import Ityfuzz.Spec.Types
import Ityfuzz.Spec.Endpoint
import Ityfuzz.Spec.Flashloan
import Ityfuzz.Sanity.Step
import Ityfuzz.Proofs.Ledger
import Ityfuzz.Proofs.Classification
import Ityfuzz.Spec.Uniswap
import Ityfuzz.Spec.Trace
import Ityfuzz.Sanity.Trace
import Ityfuzz.Sanity.Hops
import Ityfuzz.Sanity.Dfs
import Ityfuzz.Sanity.DfsBound
import Ityfuzz.Proofs.Routes
import Ityfuzz.Spec.Offchain
import Ityfuzz.Sanity.Offchain
import Ityfuzz.Proofs.Offchain
import Ityfuzz.Spec.Corpus
import Ityfuzz.Sanity.Corpus
import Ityfuzz.Proofs.Corpus
import Ityfuzz.Spec.FetchPath
import Ityfuzz.Proofs.Reserves
import Ityfuzz.Proofs.Search
import Ityfuzz.Sanity.FetchPath
import Ityfuzz.Proofs.TokenContext
import Ityfuzz.Proofs.Artifacts
import Ityfuzz.Proofs.Borrows
import Ityfuzz.Proofs.Oracle
import Ityfuzz.Spec.TypedBug
import Ityfuzz.Proofs.TypedBug
