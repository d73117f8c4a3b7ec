import Ityfuzz.Spec.Types

/-! The records that path discovery and the middleware pass around, and the chain endpoint
they query. `tokens/mod.rs` and `onchain/endpoints.rs` are not among the sources: the
fields are the ones `uniswap.rs` builds and reads, and each endpoint call the modelled code
makes is a field of `OnChainConfig`, so every theorem holds for every endpoint. -/

namespace ITY

/-- A pair as path discovery sees it (`uniswap.rs`): reserves are hex strings. The literal
of `get_pegged_next_hop` lists all ten fields. -/
structure PairData where
  src : String
  rate : UInt32
  in_ : Nat
  next : String
  pair : String
  initialReserves0 : String
  initialReserves1 : String
  srcExact : String
  decimals0 : UInt32
  decimals1 : UInt32
  deriving DecidableEq, Repr

structure PairContext where
  pairAddress : EVMAddress
  nextHop : EVMAddress
  side : UInt8
  initialReserves : EVMU256 × EVMU256
  deriving DecidableEq, Repr

structure PathContext where
  route : List PairContext
  finalPeggedRatio : EVMU256
  finalPeggedPair : Option PairContext
  deriving DecidableEq, Repr

structure TokenContext where
  swaps : List PathContext
  isWeth : Bool
  wethAddress : EVMAddress
  address : EVMAddress
  deriving DecidableEq, Repr

/-- The endpoint calls of the modelled code: `get_pair(token, network, is_pegged, weth)`,
`fetch_reserve(pair)` and the cached `fetch_uniswap_path_cached(token)`. -/
structure OnChainConfig where
  chainName : String
  getPair : String → String → Bool → String → List PairData
  fetchReserve : String → String × String
  fetchUniswapPathCached : EVMAddress → TokenContext

end ITY
