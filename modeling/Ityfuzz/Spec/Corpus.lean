import Ityfuzz.Spec.Offchain
import Ityfuzz.Spec.Flashloan

/-! `evm/corpus_initializer.rs`: deploying the loader's contracts, then seeding the input
corpus from their ABIs. What the initializer asks of the rest of the fuzzer is a field of
`InitEnv`, so every theorem holds for every outcome of it: `EVMExecutor::deploy` at each
position, the code the host holds afterwards, `extract_sig_from_contract`,
`fetch_abi_heimdall`, the `ABIMap` in the state's metadata, `BLACKLIST_ADDR`, whether the
oracle is free at each `on_contract_insertion`, the reserve slots of a pair and the callers
`get_rand_caller` draws. The state kept is the corpus in the order inputs are added,
`hash_to_address`, the flash-loan middleware and the artifact maps the loop writes. -/

namespace ITY

/-- A loader entry: the fields of `ContractInfo` the initializer reads or writes. -/
structure ContractInfo where
  name : String
  code : List UInt8
  abi : List ABIConfig
  isCodeDeployed : Bool
  deployedAddress : EVMAddress
  deriving DecidableEq, Repr

structure InitEnv where
  deploy : Nat → ContractInfo → Option EVMAddress
  codeAt : EVMAddress → Option (List UInt8)
  extractSigs : List UInt8 → List (BitVec 32)
  fetchAbiHeimdall : List UInt8 → List ABIConfig
  abiMap : BitVec 32 → Option ABIConfig
  blacklist : List EVMAddress
  oracleFree : Nat → Bool
  reserveSlots : EVMAddress → List EVMU256
  randCaller : Nat → EVMAddress

/-- The maps of `EVMInitializationArtifacts` that `initialize_corpus` fills from the ABIs. -/
structure Artifacts where
  addressToBytecode : EVMAddress → Option (List UInt8)
  addressToAbi : EVMAddress → Option (List ABIConfig)
  addressToAbiObject : EVMAddress → List BoxedABI
  addressToName : EVMAddress → Option String

structure CorpusState where
  corpus : List EVMInput
  hashToAddress : BitVec 32 → List EVMAddress
  flashloan : Option Flashloan
  artifacts : Artifacts

/-- `initialize_contract`: deploy each contract not yet deployed; a failed deployment only
`continue`s, leaving the entry as it was. -/
def initializeContractFrom (env : InitEnv) : Nat → List ContractInfo → List ContractInfo
  | _, [] => []
  | k, c :: cs =>
    (if c.isCodeDeployed then c
     else match env.deploy k c with
       | some addr => { c with deployedAddress := addr }
       | none => c) :: initializeContractFrom env (k + 1) cs

def initializeContract (env : InitEnv) (contracts : List ContractInfo) : List ContractInfo :=
  initializeContractFrom env 0 contracts

/-- The ABI of a contract after the recovery of `initialize_corpus`: an empty one is rebuilt
from the `ABIMap` entries of the selectors in its code, or taken from Heimdall (each entry
replaced by its `ABIMap` entry when there is one) when `unknown_sigs >= sigs.len() / 30`. -/
def recoverAbi (env : InitEnv) (c : ContractInfo) : List ABIConfig :=
  if c.abi.isEmpty then
    let sigs := env.extractSigs c.code
    let unknownSigs := (sigs.filter fun s => (env.abiMap s).isNone).length
    if unknownSigs ≥ sigs.length / 30 then
      (env.fetchAbiHeimdall c.code).map fun abi => (env.abiMap abi.function).getD abi
    else sigs.filterMap env.abiMap
  else c.abi

/-- `str::starts_with`. -/
def startsWith (s pre : String) : Bool := pre.toList.isPrefixOf s.toList

/-- The names `initialize_corpus` skips. -/
def skipFunction (name : String) : Bool :=
  startsWith name "invariant_" || startsWith name "echidna_" || name == "setUp" || name == "failed"

/-- `str::trim_end_matches('*')`. -/
def trimEndStars (s : String) : String := ⟨(s.toList.reverse.dropWhile (· = '*')).reverse⟩

/-- The name `initialize_corpus` records for a contract at `addr`. -/
def artifactName (name : String) (addr : EVMAddress) : String :=
  let name := trimEndStars name
  if name ≠ addrDebug addr then name ++ "(" ++ addrDebug addr ++ ")" else name

/-- `EVMU256::from_str("10000000000000000000")`, the value of a borrow. -/
def borrowValue : EVMU256 := 10000000000000000000

namespace CorpusState

/-- `add_input_to_corpus!`; its caller is the next one `get_rand_caller` draws. -/
def addInput (st : CorpusState) (input : EVMInput) : CorpusState :=
  { st with corpus := st.corpus ++ [input] }

/-- `register_borrow_txn(scheduler, state, token)`. -/
def registerBorrowTxn (env : InitEnv) (st : CorpusState) (token : EVMAddress) : CorpusState :=
  st.addInput
    { inputType := .Borrow, caller := env.randCaller st.corpus.length, contract := token,
      data := none, sstateIdx := 0, txnValue := some borrowValue, step := false,
      liquidationPercent := 0, directData := [], randomness := [0], «repeat» := 1 }

/-- `on_pair_insertion(host, state, pair)`: the reserve slot of a pair whose `getReserves()`
reads three slots. -/
def onPairInsertion (env : InitEnv) (fl : Flashloan) (pair : EVMAddress) : Flashloan :=
  match env.reserveSlots pair with
  | [slot, _, _] =>
    { fl with flashloanOracle := fl.flashloanOracle.registerPairReserveSlot pair slot }
  | _ => fl

/-- `handle_contract_insertion!` for the `k`-th loader entry. -/
def handleContractInsertion (env : InitEnv) (k : Nat) (st : CorpusState) (addr : EVMAddress)
    (abi : List ABIConfig) : CorpusState :=
  match st.flashloan with
  | none => st
  | some fl =>
    let (fl, isErc20, isPair) := fl.onContractInsertion addr abi (env.oracleFree k)
    let st := { st with flashloan := some fl }
    let st := if isErc20 then st.registerBorrowTxn env addr else st
    if isPair then { st with flashloan := some (onPairInsertion env fl addr) } else st

/-- `add_abi(abi, deployed_address, artifacts)`, with `fuzz_static` and `use_presets` off. -/
def addAbi (env : InitEnv) (st : CorpusState) (abi : ABIConfig) (addr : EVMAddress) :
    CorpusState :=
  if abi.isConstructor then st else
  let st := { st with hashToAddress := fun f =>
    if f = abi.function then (st.hashToAddress f).insert addr else st.hashToAddress f }
  if abi.isStatic then st else
  let abiInstance : BoxedABI := ⟨abi.function, abi.functionName, abi.abi⟩
  let objects := fun a =>
    if a = addr then st.artifacts.addressToAbiObject a ++ [abiInstance]
    else st.artifacts.addressToAbiObject a
  let st := { st with artifacts := { st.artifacts with addressToAbiObject := objects } }
  st.addInput
    { inputType := .ABI, caller := env.randCaller st.corpus.length, contract := addr,
      data := if abi.functionName ≠ "!receive!" then some abiInstance else none, sstateIdx := 0,
      txnValue := if abi.isPayable then some 0 else none, step := false, liquidationPercent := 0,
      directData := [], randomness := [0], «repeat» := 1 }

/-- The artifact inserts of `initialize_corpus` for a contract. -/
def recordArtifacts (env : InitEnv) (st : CorpusState) (c : ContractInfo) (abi : List ABIConfig) :
    CorpusState :=
  let addr := c.deployedAddress
  { st with artifacts := { st.artifacts with
      addressToAbi := fun a => if a = addr then some abi else st.artifacts.addressToAbi a
      addressToBytecode := fun a =>
        if a = addr then some ((env.codeAt addr).getD []) else st.artifacts.addressToBytecode a
      addressToName := fun a =>
        if a = addr then some (artifactName c.name addr) else st.artifacts.addressToName a } }

/-- The inner `for abi in contract_abi` loop: `add_abi` for each function not skipped by name. -/
def addAbis (env : InitEnv) (addr : EVMAddress) (abi : List ABIConfig) (st : CorpusState) :
    CorpusState :=
  abi.foldl (fun st a => if skipFunction a.functionName then st else addAbi env st a addr) st

/-- One turn of the loop of `initialize_corpus`, for the `k`-th loader entry. -/
def corpusStep (env : InitEnv) (k : Nat) (st : CorpusState) (c : ContractInfo) : CorpusState :=
  let abi := recoverAbi env c
  let st := recordArtifacts env st c abi
  let st := handleContractInsertion env k st c.deployedAddress abi
  if c.deployedAddress ∈ env.blacklist then st else addAbis env c.deployedAddress abi st

end CorpusState

def initializeCorpusFrom (env : InitEnv) : Nat → List ContractInfo → CorpusState → CorpusState
  | _, [], st => st
  | k, c :: cs, st => initializeCorpusFrom env (k + 1) cs (CorpusState.corpusStep env k st c)

/-- `initialize_corpus(loader)`: the loop over the loader's entries. -/
def initializeCorpus (env : InitEnv) (contracts : List ContractInfo) (st : CorpusState) :
    CorpusState :=
  initializeCorpusFrom env 0 contracts st

/-- The contract and corpus steps of `initialize(loader)`; `env.abiMap` is the `ABIMap` as the
deployments left it. -/
def initializeAll (env : InitEnv) (contracts : List ContractInfo) (st : CorpusState) :
    CorpusState :=
  initializeCorpus env (initializeContract env contracts) st

end ITY
