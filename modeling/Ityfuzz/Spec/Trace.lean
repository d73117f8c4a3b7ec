import Ityfuzz.Spec.Uniswap

/-! `get_all_hops` and `dfs` with their calls made visible. Each call is logged with its token
and its depth (`hop`, the length of `path`), and a `dfs` run that exhausts its fuel is told
apart from a panic of `get_pegged_next_hop`. Apart from the log the functions compute what
`getAllHopsAt` and `dfs` compute (`getAllHopsRun_proj`, `dfsRun_proj`). -/

namespace ITY

/-- A turn of the loop of `get_all_hops` in `getAllHopsRun`: `hopsStep`, appending the calls of
the recursive call to the log. -/
def hopsRunStep (peggedTokens : List (String × String))
    (recur : String → List String → HopMap × List String × List (String × Nat))
    (acc : HopMap × List String × List (String × Nat)) (i : PairData) :
    HopMap × List String × List (String × Nat) :=
  if isPeggedToken peggedTokens i.next || acc.2.1.contains i.next then acc
  else
    let (nextHops, known, calls) := recur i.next acc.2.1
    (nextHops ∪ acc.1, known, acc.2.2 ++ calls)

/-- `getAllHopsAt` at depth `hop`, with the calls of `get_all_hops` it makes, in order, each with
its token and its `hop`. -/
def getAllHopsRun (onchain : OnChainConfig) (network : String) :
    Nat → Nat → String → List String → HopMap × List String × List (String × Nat)
  | 0, hop, token, known => (∅, known.insert token, [(token, hop)])
  | levels + 1, hop, token, known =>
    let known := known.insert token
    let pairs := getPair onchain token network false
    pairs.foldl (hopsRunStep (getPeggedToken network) (getAllHopsRun onchain network levels (hop + 1)))
      ((∅ : HopMap).insert token pairs, known, [(token, hop)])

/-- Why a run of `dfsRun` stops early. -/
inductive DfsStop
  | panic
  | outOfFuel
  deriving DecidableEq, Repr

/-- A turn of the loop of `dfs` in `dfsRun`: `dfsStep`, appending the calls of the recursive call
to the log. -/
def dfsRunStep (recur : String → List PairData → List String → List (List PairData) →
      Except DfsStop (List String × List (List PairData) × List (String × Nat)))
    (path : List PairData) (acc : List String × List (List PairData) × List (String × Nat))
    (hop : PairData) : Except DfsStop (List String × List (List PairData) × List (String × Nat)) :=
  if acc.1.contains hop.next then .ok acc
  else (recur hop.next (path ++ [hop]) acc.1 acc.2.1).map fun r => (r.1, r.2.1, acc.2.2 ++ r.2.2)

/-- `dfs`, returning besides `visited` and `routes` the calls it made, in order, each with its
token and `path.len()`. -/
def dfsRun (onchain : OnChainConfig) (network : String) (peggedTokens : List (String × String))
    (hops : HopMap) : Nat → String → List PairData → List String → List (List PairData) →
      Except DfsStop (List String × List (List PairData) × List (String × Nat))
  | 0, _, _, _, _ => .error .outOfFuel
  | fuel + 1, token, path, visited, routes =>
    if isPeggedToken peggedTokens token then
      match getPeggedNextHop onchain token network with
      | some hop => .ok (visited, routes ++ [path ++ [hop]], [(token, path.length)])
      | none => .error .panic
    else
      let visited := visited.insert token
      match hops.lookup token with
      | none => .ok (visited, routes, [(token, path.length)])
      | some hs =>
        hs.foldlM (dfsRunStep (dfsRun onchain network peggedTokens hops fuel) path)
          (visited, routes, [(token, path.length)])

end ITY
