import Ityfuzz.Spec.Endpoint

/-! The flash-loan middleware of `onchain/flashloan.rs`: the ledger `FlashloanData`, the
classification of inserted contracts (`onContractInsertion`), `analyzeCall` before each
transaction and `onStep` before each opcode. `onStep` unwraps stack reads, so it returns
`none` where the Rust code panics. -/

namespace ITY

structure FlashloanData where
  oracleRecheckReserve : List EVMAddress
  oracleRecheckBalance : List EVMAddress
  owed : EVMU512
  earned : EVMU512
  deriving DecidableEq, Repr

def FlashloanData.new : FlashloanData := ⟨[], [], 0, 0⟩

/-- Modelled from the spec: `oracles/erc20.rs` is not among the sources. The oracle keeps
the token context of each registered token and the reserve slot of each pair. -/
structure IERC20OracleFlashloan where
  knownTokens : List (EVMAddress × TokenContext)
  knownPairReserveSlot : List (EVMAddress × EVMU256)

/-- Modelled from the spec: "register the token with the oracle", a map insert. -/
def IERC20OracleFlashloan.registerToken (o : IERC20OracleFlashloan) (addr : EVMAddress)
    (ctx : TokenContext) : IERC20OracleFlashloan :=
  { o with knownTokens := (addr, ctx) :: o.knownTokens.filter (·.1 ≠ addr) }

/-- Modelled from the spec: "registers the first slot as the pair's reserve slot". -/
def IERC20OracleFlashloan.registerPairReserveSlot (o : IERC20OracleFlashloan)
    (pair : EVMAddress) (slot : EVMU256) : IERC20OracleFlashloan :=
  { o with knownPairReserveSlot := (pair, slot) :: o.knownPairReserveSlot.filter (·.1 ≠ pair) }

/-- The fields of `Flashloan` that the modelled methods read or write. -/
structure Flashloan where
  knownAddresses : List EVMAddress
  endpoint : Option OnChainConfig
  erc20Address : List EVMAddress
  pairAddress : List EVMAddress
  flashloanOracle : IERC20OracleFlashloan

def Flashloan.new (endpoint : Option OnChainConfig) (flashloanOracle : IERC20OracleFlashloan) :
    Flashloan :=
  ⟨[], endpoint, [], [], flashloanOracle⟩

def Flashloan.getTokenContext (fl : Flashloan) (addr : EVMAddress) : Option TokenContext :=
  match fl.endpoint with
  | some endpoint => some (endpoint.fetchUniswapPathCached addr)
  | none => none

def abiSignaturesToken : List String := ["balanceOf", "transfer", "transferFrom", "approve"]

def abiSignaturesPair : List String := ["skim", "sync", "swap"]

/-- `on_contract_insertion(addr, abi)`, returning `(is_erc20, is_pair)`. `oracleFree` says
whether `flashloan_oracle.try_borrow_mut()` succeeds at this call. -/
def Flashloan.onContractInsertion (fl : Flashloan) (addr : EVMAddress) (abi : List ABIConfig)
    (oracleFree : Bool) : Flashloan × Bool × Bool :=
  if addr ∈ fl.knownAddresses then (fl, false, false) else
  let fl := { fl with knownAddresses := fl.knownAddresses.insert addr }
  let abiNames := abi.map (·.functionName)
  let (fl, isErc20) :=
    if abiSignaturesToken.all abiNames.contains then
      match fl.getTokenContext addr with
      | some tokenCtx =>
        if oracleFree then
          ({ fl with flashloanOracle := fl.flashloanOracle.registerToken addr tokenCtx,
                     erc20Address := fl.erc20Address.insert addr }, true)
        else (fl, false)
      | none => (fl, false)
    else (fl, false)
  if abiSignaturesPair.all abiNames.contains then
    ({ fl with pairAddress := fl.pairAddress.insert addr }, isErc20, true)
  else (fl, isErc20, false)

def Flashloan.analyzeCall (fl : Flashloan) (input : EVMInput) (d : FlashloanData) :
    FlashloanData :=
  let d := match input.txnValue with
    | some v => { d with owed := d.owed + v.setWidth 512 * scale }
    | none => d
  let addr := input.contract
  let d := if addr ∈ fl.erc20Address then
      { d with oracleRecheckBalance := d.oracleRecheckBalance.insert addr } else d
  if addr ∈ fl.pairAddress then
    { d with oracleRecheckReserve := d.oracleRecheckReserve.insert addr } else d

/-- What `onStep` reads of the interpreter: the opcode under the instruction pointer, the
stack (top first) and the address of the executing contract. -/
structure Interpreter where
  instruction : UInt8
  stack : List EVMU256
  address : EVMAddress

/-- `interp.stack.peek(n)`: the `n`-th word from the top, `none` on underflow. -/
def Interpreter.peek (interp : Interpreter) (n : Nat) : Option EVMU256 := interp.stack.get? n

/-- `on_step(interp, host, s)`; `callers` is the caller set behind `s.has_caller`. -/
def Flashloan.onStep (fl : Flashloan) (interp : Interpreter) (callers : List EVMAddress)
    (d : FlashloanData) : Option FlashloanData :=
  match interp.instruction with
  | 0xf1 | 0xfa => do
    let valueTransfer ← match interp.instruction with
      | 0xf1 | 0xf2 => interp.peek 2
      | _ => pure 0
    let callTarget := convertU256ToH160 (← interp.peek 1)
    let d := if 0 < valueTransfer ∧ callTarget ∈ callers then
        { d with earned := d.earned + valueTransfer.setWidth 512 * scale } else d
    let callTarget := convertU256ToH160 (← interp.peek 1)
    pure (if callTarget ∈ fl.erc20Address then
        { d with oracleRecheckBalance := d.oracleRecheckBalance.insert callTarget } else d)
  | 0x55 =>
    if interp.address ∈ fl.pairAddress then do
      let key ← interp.peek 0
      pure (if key = 8 then
          { d with oracleRecheckReserve := d.oracleRecheckReserve.insert interp.address }
        else d)
    else pure d
  | _ => pure d

end ITY
