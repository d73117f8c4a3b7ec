import Ityfuzz.Spec.Offchain

/-! `fetch_uniswap_path`: the routes `find_path_subgraph` returns, turned into the
`TokenContext` the flash-loan oracle registers. Each route becomes a `PathContext`: a `v2`
hop adds a `PairContext`, a `pegged` or `pegged_weth` hop sets the final pegged ratio and
pair, and any other source panics. A `PairContext` decodes the reserve strings of its hop
with `EVMU256::try_from_be_slice(&hex::decode(&s).unwrap()).unwrap()`; path discovery read
the same strings with `i128::from_str_radix(s, 16)`. -/

namespace ITY

/-- `hex::decode` on a list of characters: two hex digits of either case per byte; an odd
length or any other character is an error. -/
def hexDecodeChars : List Char → Option (List UInt8)
  | [] => some []
  | [_] => none
  | a :: b :: rest => do
    let x ← toDigit a 16
    let y ← toDigit b 16
    let bytes ← hexDecodeChars rest
    pure (UInt8.ofNat (16 * x + y) :: bytes)

def hexDecode (s : String) : Option (List UInt8) := hexDecodeChars s.toList

/-- A reserve as `fetch_uniswap_path` decodes it; `none` is the panic of either `unwrap`. -/
def decodeReserve (s : String) : Option EVMU256 := (hexDecode s).bind tryFromBeSlice

/-- What `fetch_uniswap_path` asks of `tokens/mod.rs` and `endpoints.rs`, which are not among
the sources: whether `UniswapProvider::from_str` accepts a hop's `src_exact` and whether
`Chain::from_str` accepts the chain name. `get_uniswap_info` only fills the field
`uniswap_info`, which the model leaves out. -/
structure PathParsers where
  providerKnown : String → Bool
  chainKnown : String → Bool

/-- The `PairContext` literal of `fetch_uniswap_path` for one hop; `none` is one of its
`expect`s or `unwrap`s failing. -/
def pairContextOf (ps : PathParsers) (chainName : String) (pair : PairData) : Option PairContext :=
  if ps.providerKnown pair.srcExact && ps.chainKnown chainName then do
    let pairAddress ← addressFromStr pair.pair
    let nextHop ← addressFromStr pair.next
    let reserves0 ← decodeReserve pair.initialReserves0
    let reserves1 ← decodeReserve pair.initialReserves1
    pure ⟨pairAddress, nextHop, UInt8.ofNat pair.in_, (reserves0, reserves1)⟩
  else none

/-- `PathContext::default()`. -/
def PathContext.default : PathContext := ⟨[], 0, none⟩

/-- `TokenContext::default()`. -/
def TokenContext.default : TokenContext := ⟨[], false, 0, 0⟩

/-- One turn of `pairs.iter().for_each(..)`: the `match pair.src.as_str()` of
`fetch_uniswap_path`, with `unimplemented!` as `none`. -/
def parseHop (ps : PathParsers) (chainName : String) (path : PathContext) (pair : PairData) :
    Option PathContext :=
  match pair.src with
  | "v2" => (pairContextOf ps chainName pair).map fun c => { path with route := path.route ++ [c] }
  | "pegged" => (pairContextOf ps chainName pair).map fun c =>
    { path with finalPeggedRatio := BitVec.ofNat 256 pair.rate.toNat, finalPeggedPair := some c }
  | "pegged_weth" =>
    some { path with finalPeggedRatio := BitVec.ofNat 256 pair.rate.toNat, finalPeggedPair := none }
  | _ => none

/-- The `PathContext` of one route. -/
def parsePath (ps : PathParsers) (chainName : String) (pairs : List PairData) : Option PathContext :=
  pairs.foldlM (parseHop ps chainName) PathContext.default

/-- `fetch_uniswap_path(onchain, token_address)`; `none` is a panic, of `find_path_subgraph` or
of the parsing. -/
def fetchUniswapPath (ps : PathParsers) (onchain : OnChainConfig) (tokenAddress : EVMAddress) :
    Option TokenContext := do
  let info ← findPathSubgraph onchain (addrDebug tokenAddress)
  if info.basicInfo.weth.isEmpty then pure TokenContext.default
  else
    let weth ← addressFromStr info.basicInfo.weth
    let swaps ← info.routes.mapM (parsePath ps onchain.chainName)
    pure ⟨swaps, info.basicInfo.isWeth, weth, tokenAddress⟩

end ITY
