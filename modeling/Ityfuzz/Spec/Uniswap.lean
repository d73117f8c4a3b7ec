import Ityfuzz.Spec.Endpoint

/-! On-chain path discovery of `tokens/uniswap.rs`: `get_all_hops` explores the pair graph
to depth `MAX_HOPS` under a global `known` set, `dfs` walks the map it built under a
global `visited` set, and `find_path_subgraph` keeps the routes whose every hop
`add_reserve_info` judges significant. A panic (`unwrap`, `expect`) is `none`.
`HashMap<String, Vec<PairData>>` is an `AList`; `HashSet<String>` a list. -/

namespace ITY

def MAX_HOPS : Nat := 2

def getPeggedToken (network : String) : List (String × String) :=
  match network with
  | "eth" =>
    [("WETH", "0xc02aaa39b223fe8d0a0e5c4f27ead9083c756cc2"),
     ("USDC", "0xa0b86991c6218b36c1d19d4a2e9eb0ce3606eb48"),
     ("USDT", "0xdac17f958d2ee523a2206206994597c13d831ec7"),
     ("DAI", "0x6b175474e89094c44da98b954eedeac495271d0f"),
     ("WBTC", "0x2260fac5e5542a773aa44fbcfedf7c193bc2c599"),
     ("WMATIC", "0x7d1afa7b718fb893db30a3abc0cfc608aacfebb0")]
  | "bsc" =>
    [("WBNB", "0xbb4cdb9cbd36b01bd1cbaebf2de08d9173bc095c"),
     ("USDC", "0x8ac76a51cc950d9822d68b83fe1ad97b32cd580d"),
     ("USDT", "0x55d398326f99059ff775485246999027b3197955"),
     ("DAI", "0x1af3f329e8be154074d8769d1ffa4ee058b1dbc3"),
     ("WBTC", "0x7130d2a12b9bcbfae4f2634d864a1ee1ce3ead9c"),
     ("WETH", "0x2170ed0880ac9a755fd29b2688956bd959f933f8"),
     ("BUSD", "0xe9e7cea3dedca5984780bafc599bd69add087d56"),
     ("CAKE", "0x0e09fabb73bd3ade0a17ecc321fd13a19e81ce82")]
  | "polygon" =>
    [("WMATIC", "0x0d500b1d8e8ef31e21c99d1db9a6444d3adf1270"),
     ("USDC", "0x2791bca1f2de4661ed88a30c99a7a9449aa84174"),
     ("USDT", "0xc2132d05d31c914a87c6611c10748aeb04b58e8f"),
     ("DAI", "0x8f3cf7ad23cd3cadbd9735aff958023239c6a063"),
     ("WBTC", "0x1bfd67037b42cf73acf2047067bd4f2c47d9bfd6"),
     ("WETH", "0x7ceb23fd6bc0add59e62ac25578270cff1b9f619")]
  | "local" => [("ZERO", "0x0000000000000000000000000000000000000000")]
  | _ => []

/-- `get_weth(network)`; each `unwrap` finds its key in the table of `get_pegged_token`. -/
def getWeth (network : String) : String :=
  match network with
  | "eth" => ((getPeggedToken network).lookup "WETH").getD ""
  | "bsc" => ((getPeggedToken network).lookup "WBNB").getD ""
  | "polygon" => ((getPeggedToken network).lookup "WMATIC").getD ""
  | "local" => ((getPeggedToken network).lookup "ZERO").getD ""
  | _ => ""

/-- `pegged_tokens.values().any(|v| v == token)`. -/
def isPeggedToken (peggedTokens : List (String × String)) (token : String) : Bool :=
  peggedTokens.any (·.2 == token)

/-- `str::to_lowercase` on the ASCII strings that name tokens. -/
def toLowercase (s : String) : String := ⟨s.toList.map Char.toLower⟩

/-- `get_pair(onchain, token, network, is_pegged)`: the endpoint's pairs of the lower-cased
token, cut to those ending in a pegged token when there are more than ten. -/
def getPair (onchain : OnChainConfig) (token network : String) (isPegged : Bool) :
    List PairData :=
  let token := toLowercase token
  if token = getWeth network then [] else
  let weth := getWeth network
  let peggedTokens := getPeggedToken network
  let pairs := onchain.getPair token network (isPegged || isPeggedToken peggedTokens token) weth
  if pairs.length > 10 then pairs.filter (fun p => isPeggedToken peggedTokens p.next) else pairs

abbrev HopMap := AList fun _ : String => List PairData

/-- One turn of the `for i in hops.clone().get(token).unwrap()` loop of `get_all_hops`;
`recur` is the recursive call one hop deeper. `hops.extend(next_hops)` lets `next_hops` win. -/
def hopsStep (peggedTokens : List (String × String))
    (recur : String → List String → HopMap × List String)
    (acc : HopMap × List String) (i : PairData) : HopMap × List String :=
  if isPeggedToken peggedTokens i.next || acc.2.contains i.next then acc
  else
    let (nextHops, known) := recur i.next acc.2
    (nextHops ∪ acc.1, known)

/-- `get_all_hops` with `levels = MAX_HOPS + 1 - hop` hops left before `hop > MAX_HOPS`:
the map it returns and the `known` set it leaves. -/
def getAllHopsAt (onchain : OnChainConfig) (network : String) :
    Nat → String → List String → HopMap × List String
  | 0, token, known => (∅, known.insert token)
  | levels + 1, token, known =>
    let known := known.insert token
    let pairs := getPair onchain token network false
    pairs.foldl (hopsStep (getPeggedToken network) (getAllHopsAt onchain network levels))
      ((∅ : HopMap).insert token pairs, known)

def getAllHops (onchain : OnChainConfig) (token network : String) (hop : Nat)
    (known : List String) : HopMap × List String :=
  getAllHopsAt onchain network (MAX_HOPS + 1 - hop) token known

/-- `char::to_digit(radix)`. -/
def toDigit (c : Char) (radix : Nat) : Option Nat :=
  let d :=
    if '0' ≤ c ∧ c ≤ '9' then c.toNat - '0'.toNat
    else if 'a' ≤ c ∧ c ≤ 'z' then c.toNat - 'a'.toNat + 10
    else if 'A' ≤ c ∧ c ≤ 'Z' then c.toNat - 'A'.toNat + 10
    else radix
  if d < radix then some d else none

def digitsValue (cs : List Char) (radix : Nat) : Option Nat :=
  cs.foldlM (fun acc c => (toDigit c radix).map (acc * radix + ·)) 0

/-- `i128::from_str_radix(s, radix)`: an optional sign and at least one digit. Digits only
grow the magnitude, so the checked accumulation overflows exactly when the final value
leaves `i128`. -/
def i128FromStrRadix (s : String) (radix : Nat) : Option Int :=
  match s.toList with
  | [] | ['+'] | ['-'] => none
  | '-' :: ds => (digitsValue ds radix).bind fun v => if v ≤ 2 ^ 127 then some (-v) else none
  | '+' :: ds => (digitsValue ds radix).bind fun v => if v < 2 ^ 127 then some v else none
  | ds => (digitsValue ds radix).bind fun v => if v < 2 ^ 127 then some v else none

/-- `EVMU256::from(v)` on an `i128`, which panics on a negative value. -/
def u256OfI128 (v : Int) : Option EVMU256 := if 0 ≤ v then some (BitVec.ofNat 256 v.toNat) else none

/-- `EVMU256::pow`, which wraps modulo `2^256`. -/
def u256Pow (b e : EVMU256) : EVMU256 := BitVec.ofNat 256 (b.toNat ^ e.toNat)

/-- `add_reserve_info(onchain, pair_data)`: the pair with the reserves `fetch_reserve`
reports, and whether both exceed `10^(decimals - 1)`. -/
def addReserveInfo (onchain : OnChainConfig) (pairData : PairData) : Option (PairData × Bool) :=
  if pairData.src = "pegged_weth" then some (pairData, true) else
  let reserves := onchain.fetchReserve pairData.pair
  let pairData := { pairData with initialReserves0 := reserves.1, initialReserves1 := reserves.2 }
  do
  let reserves0 ← u256OfI128 (← i128FromStrRadix pairData.initialReserves0 16)
  let reserves1 ← u256OfI128 (← i128FromStrRadix pairData.initialReserves1 16)
  let minR0 : EVMU256 := if pairData.decimals0 = 0 then 0
    else u256Pow 10 (BitVec.ofNat 256 (pairData.decimals0 - 1).toNat)
  let minR1 : EVMU256 := if pairData.decimals1 = 0 then 0
    else u256Pow 10 (BitVec.ofNat 256 (pairData.decimals1 - 1).toNat)
  pure (pairData, decide (minR0 < reserves0) && decide (minR1 < reserves1))

/-- `n as f64`, rounded to nearest with ties to even. `UInt64.toFloat` rounds correctly, and a
wider `n` is first cut to its top 63 bits with a sticky last bit, which rounds the same;
`Float.ofNat` instead truncates to 64 bits and rounds twice. -/
def natAsF64 (n : Nat) : Float :=
  let s := n.log2 - 62
  ((n >>> s ||| if n % 2 ^ s = 0 then 0 else 1).toUInt64.toFloat).scaleB s

/-- `x as f64` for an `i128`. -/
def i128AsF64 (x : Int) : Float :=
  if 0 ≤ x then natAsF64 x.toNat else -natAsF64 x.natAbs

/-- `(num as f64 / den as f64 * 1_000_000.0).round() as u32`. -/
def peggedRate (num den : Int) : UInt32 :=
  ((i128AsF64 num / i128AsF64 den) * 1000000.0).round.toUInt32

/-- The hop `get_pegged_next_hop` returns for WETH itself. -/
def peggedWethHop : PairData :=
  { src := "pegged_weth", rate := 1000000, in_ := 0, next := "", pair := "", initialReserves0 := "",
    initialReserves1 := "", srcExact := "", decimals0 := 0, decimals1 := 0 }

def getPeggedNextHop (onchain : OnChainConfig) (token network : String) : Option PairData :=
  if token = getWeth network then some peggedWethHop
  else do
    let pegInfo ← (getPair onchain token network true).head?
    let (pegInfo, _) ← addReserveInfo onchain pegInfo
    let p0 ← i128FromStrRadix pegInfo.initialReserves0 16
    let p1 ← i128FromStrRadix pegInfo.initialReserves1 16
    let pegInfo := { pegInfo with rate := if pegInfo.in_ = 0 then peggedRate p1 p0 else peggedRate p0 p1 }
    pure { pegInfo with src := "pegged" }

structure BasicInfo where
  weth : String
  isWeth : Bool

structure Info where
  routes : List (List PairData)
  basicInfo : BasicInfo

def withInfo (routes : List (List PairData)) (network token : String) : Info :=
  ⟨routes, ⟨getWeth network, token = getWeth network⟩⟩

/-- One turn of the `for hop in hops.get(token).unwrap()` loop of `dfs`; `recur` is the
recursive call, `path` the route so far (the `push`/`pop` around the call). -/
def dfsStep (recur : String → List PairData → List String → List (List PairData) →
      Option (List String × List (List PairData)))
    (path : List PairData) (acc : List String × List (List PairData)) (hop : PairData) :
    Option (List String × List (List PairData)) :=
  if acc.1.contains hop.next then some acc else recur hop.next (path ++ [hop]) acc.1 acc.2

/-- `dfs(onchain, token, network, path, visited, pegged_tokens, hops, routes)`, returning
`visited` and `routes`. The Rust function has no depth bound; `fuel` only makes the
recursion structural, and `findPathSubgraph` gives more than it can use. -/
def dfs (onchain : OnChainConfig) (network : String) (peggedTokens : List (String × String))
    (hops : HopMap) : Nat → String → List PairData → List String → List (List PairData) →
      Option (List String × List (List PairData))
  | 0, _, _, _, _ => none
  | fuel + 1, token, path, visited, routes =>
    if isPeggedToken peggedTokens token then
      (getPeggedNextHop onchain token network).map fun hop => (visited, routes ++ [path ++ [hop]])
    else
      let visited := visited.insert token
      match hops.lookup token with
      | none => some (visited, routes)
      | some hs => hs.foldlM (dfsStep (dfs onchain network peggedTokens hops fuel) path) (visited, routes)

/-- The `for hop in route` loop of `find_path_subgraph`: `add_reserve_info` on every hop in
order, refreshing it in place, and whether no hop had low liquidity. -/
def reserveCheck (onchain : OnChainConfig) (route : List PairData) : Option (List PairData × Bool) :=
  route.foldlM (fun acc hop => (addReserveInfo onchain hop).map fun r => (acc.1 ++ [r.1], acc.2 && r.2))
    ([], true)

/-- The routes the `dfs` call of `find_path_subgraph` collects, before the liquidity check.
`dfs` gets one level of fuel per key of `hops` and one more; it enters a fresh key at every
level, so it never runs out. -/
def dfsRoutes (onchain : OnChainConfig) (token : String) : Option (List (List PairData)) :=
  let network := onchain.chainName
  let hops := (getAllHops onchain token network 0 []).1
  (dfs onchain network (getPeggedToken network) hops (hops.keys.length + 1) token [] [] []).map (·.2)

/-- `find_path_subgraph(onchain, token)`. -/
def findPathSubgraph (onchain : OnChainConfig) (token : String) : Option Info :=
  let network := onchain.chainName
  let peggedTokens := getPeggedToken network
  if isPeggedToken peggedTokens token then
    (getPeggedNextHop onchain token network).map fun hop => withInfo [[hop]] network token
  else
    (dfsRoutes onchain token).bind fun routes =>
      (routes.mapM (reserveCheck onchain)).map fun checked =>
        withInfo (checked.filterMap fun c => if c.2 then some c.1 else none) network token

end ITY
