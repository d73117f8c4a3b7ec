import Ityfuzz.Spec.Uniswap

/-! `onchain/offchain.rs`: the pair cache built by running the V2 selectors against bytecode
already deployed. The VM enters only through what `build_cache` asks of it, the code at an
address and the outcome of a static call (`ProbeVM`), so every theorem holds for every VM.
The `HashSet` of pairs is the list of its elements in the order the `for` loop visits them,
and each `HashMap` is a function. Slicing out of range panics: the failure
`CacheFailure.panic`, which propagates out of `initialize` as an error does, but ends the
process instead of returning `Err`. -/

namespace ITY

/-- The lower-case hex digit of `d < 16`. -/
def hexChar (d : Nat) : Char := if d < 10 then Char.ofNat (48 + d) else Char.ofNat (87 + d)

/-- The last `k` hex digits of `n`, most significant first. -/
def hexDigits : Nat → Nat → List Char
  | 0, _ => []
  | k + 1, n => hexDigits k (n / 16) ++ [hexChar (n % 16)]

/-- `format!("{:?}", addr)`: `0x` and forty lower-case hex digits. -/
def addrDebug (a : EVMAddress) : String := ⟨'0' :: 'x' :: hexDigits 40 a.toNat⟩

/-- `EVMAddress::from_str(s)`: forty hex digits of either case, after an optional `0x`. -/
def addressFromStr (s : String) : Option EVMAddress :=
  let cs := if s.toList.take 2 = ['0', 'x'] then s.toList.drop 2 else s.toList
  if cs.length = 40 then (digitsValue cs 16).map (BitVec.ofNat 160) else none

/-- The big-endian value of a byte string. -/
def beValue (bs : List UInt8) : Nat := bs.foldl (fun acc b => acc * 256 + b.toNat) 0

/-- `EVMU256::try_from_be_slice(bs)`: `none` when the value does not fit in 256 bits. -/
def tryFromBeSlice (bs : List UInt8) : Option EVMU256 :=
  if beValue bs < 2 ^ 256 then some (BitVec.ofNat 256 (beValue bs)) else none

/-- `EVMAddress::from_slice(bs)` on the twenty bytes it is given. -/
def addressFromSlice (bs : List UInt8) : EVMAddress := BitVec.ofNat 160 (beValue bs)

/-- `addr.0`, the twenty big-endian bytes of an address. -/
def addressBytes (a : EVMAddress) : List UInt8 :=
  (List.range 20).map fun i => UInt8.ofNat (a.toNat / 256 ^ (19 - i))

/-- What `build_cache` asks of the VM: `vm.host.code(addr)`, and the return data of a static
call of `input` on `code` at `target`, `none` when `is_call_success!` fails. -/
structure ProbeVM where
  code : EVMAddress → Option (List UInt8)
  staticCall : List UInt8 → List UInt8 → EVMAddress → Option (List UInt8)

/-- The errors `build_cache` returns, and `panic` for an index out of range. -/
inductive CacheFailure
  | pairCodeNotFound (pair : EVMAddress)
  | token0CodeNotFound (token0 : EVMAddress)
  | token1CodeNotFound (token1 : EVMAddress)
  | callFailed
  | panic
  deriving DecidableEq, Repr

/-- Results of the cache builders compare as values, so that runs on fixed inputs can be decided. -/
instance decEqExcept {ε α : Type} [DecidableEq ε] [DecidableEq α] : DecidableEq (Except ε α)
  | .error a, .error b => if h : a = b then isTrue (h ▸ rfl) else isFalse fun e => h (by injection e)
  | .ok a, .ok b => if h : a = b then isTrue (h ▸ rfl) else isFalse fun e => h (by injection e)
  | .error _, .ok _ => isFalse nofun
  | .ok _, .error _ => isFalse nofun

/-- `res[a..b]`, which panics unless `a ≤ b ≤ res.len()`. -/
def sliceRange (res : List UInt8) (a b : Nat) : Except CacheFailure (List UInt8) :=
  if a ≤ b ∧ b ≤ res.length then .ok ((res.take b).drop a) else .error .panic

/-- `res[i]`, which panics unless `i < res.len()`. -/
def byteAt (res : List UInt8) (i : Nat) : Except CacheFailure UInt8 :=
  match res.get? i with
  | some b => .ok b
  | none => .error .panic

/-- `vm.host.code(addr).ok_or_else(...)`. -/
def codeOr (vm : ProbeVM) (addr : EVMAddress) (e : CacheFailure) : Except CacheFailure (List UInt8) :=
  match vm.code addr with
  | some c => .ok c
  | none => .error e

def token0Input : List UInt8 := [0x0d, 0xfe, 0x16, 0x81]
def token1Input : List UInt8 := [0xd2, 0x12, 0x20, 0xa7]
def getReservesInput : List UInt8 := [0x09, 0x02, 0xf1, 0xac]
def decimalsInput : List UInt8 := [0x31, 0x3c, 0xe5, 0x67]

def balanceOfInput (addr : EVMAddress) : List UInt8 :=
  [0x70, 0xa0, 0x82, 0x31] ++ List.replicate 12 0 ++ addressBytes addr

/-- `PairData` as `build_cache` fills it. `endpoints.rs` is not among the sources, and
`offchain.rs` stores the reserves as `EVMU256` where `uniswap.rs` reads hex strings, so the
entries of this cache get their own record: the fields `build_cache` and `build_pair_cache`
write, the rest left at `Default::default()`. -/
structure OffChainPairData where
  pair : String
  token0 : String
  token1 : String
  decimals0 : UInt32
  decimals1 : UInt32
  initialReserves0 : EVMU256
  initialReserves1 : EVMU256
  in_ : Nat := 0
  next : String := ""
  inToken : String := ""
  interface : String := ""
  srcExact : String := ""
  src : String := ""
  deriving DecidableEq, Repr

/-- `OffChainConfig`: the configured pairs in their iteration order, and the three caches. -/
structure OffChainConfig where
  v2Pairs : List EVMAddress
  pairCache : EVMAddress → List OffChainPairData
  reservesCache : EVMAddress → Option (EVMU256 × EVMU256)
  balanceCache : EVMAddress × EVMAddress → Option EVMU256

namespace OffChainConfig

/-- `OffChainConfig::new`, with the pairs in the order the `HashSet` yields them. -/
def new (v2Pairs : List EVMAddress) : OffChainConfig :=
  ⟨v2Pairs, fun _ => [], fun _ => none, fun _ => none⟩

def weth : String := "0x4200000000000000000000000000000000000006"

def getPeggedToken : List (String × String) := [("WETH", weth)]

/-- `call(input, code, target)`: a static call, `Err` unless it succeeded. -/
def call (vm : ProbeVM) (input code : List UInt8) (target : EVMAddress) :
    Except CacheFailure (List UInt8) :=
  match vm.staticCall input code target with
  | some res => .ok res
  | none => .error .callFailed

/-- What the probes of `build_cache` read for one pair. -/
structure PairProbe where
  token0 : EVMAddress
  token1 : EVMAddress
  decimals0 : UInt32
  decimals1 : UInt32
  reserves0 : EVMU256
  reserves1 : EVMU256
  balance0 : EVMU256
  balance1 : EVMU256
  deriving DecidableEq, Repr

/-- The probes of `build_cache`, in its order, up to the first failure. -/
def probePair (vm : ProbeVM) (pair : EVMAddress) : Except CacheFailure PairProbe := do
  let pairCode ← codeOr vm pair (.pairCodeNotFound pair)
  let res ← call vm token0Input pairCode pair
  let token0 := addressFromSlice (← sliceRange res 12 32)
  let token0Code ← codeOr vm token0 (.token0CodeNotFound token0)
  let res ← call vm decimalsInput token0Code token0
  let decimals0 := (← byteAt res 31).toUInt32
  let res ← call vm token1Input pairCode pair
  let token1 := addressFromSlice (← sliceRange res 12 32)
  let token1Code ← codeOr vm token1 (.token1CodeNotFound token1)
  let res ← call vm decimalsInput token1Code token1
  let decimals1 := (← byteAt res 31).toUInt32
  let res ← call vm getReservesInput pairCode pair
  let reserves0 := (tryFromBeSlice (← sliceRange res 0 32)).getD 0
  let reserves1 := (tryFromBeSlice (← sliceRange res 32 64)).getD 0
  let res ← call vm (balanceOfInput pair) token0Code token0
  let balance0 := (tryFromBeSlice res).getD 0
  let res ← call vm (balanceOfInput pair) token1Code token1
  let balance1 := (tryFromBeSlice res).getD 0
  pure ⟨token0, token1, decimals0, decimals1, reserves0, reserves1, balance0, balance1⟩

/-- `pair` as `build_pair_cache` fills it in before pushing it under `token`. -/
def seenFrom (token : EVMAddress) (pair : OffChainPairData) : OffChainPairData :=
  let inToken := addrDebug token
  { pair with
    in_ := if inToken = pair.token0 then 0 else 1
    next := if inToken = pair.token0 then pair.token1 else inToken
    inToken := inToken
    interface := "uniswapv2"
    srcExact := "uniswapv2_eth"
    src := if isPeggedToken getPeggedToken inToken then "pegged" else "lp" }

/-- `build_pair_cache(token, pair)`: the pair as seen from `token`, appended to its list. -/
def buildPairCache (cfg : OffChainConfig) (token : EVMAddress) (pair : OffChainPairData) :
    OffChainConfig :=
  { cfg with pairCache := fun t => if t = token then cfg.pairCache t ++ [seenFrom token pair]
                                   else cfg.pairCache t }

/-- The `PairData` literal of `build_cache`. -/
def pairDataOf (pair : EVMAddress) (p : PairProbe) : OffChainPairData :=
  { pair := addrDebug pair, token0 := addrDebug p.token0, token1 := addrDebug p.token1,
    decimals0 := p.decimals0, decimals1 := p.decimals1, initialReserves0 := p.reserves0,
    initialReserves1 := p.reserves1 }

/-- The writes that end `build_cache`, once every probe has succeeded. -/
def cachePair (cfg : OffChainConfig) (pair : EVMAddress) (p : PairProbe) : OffChainConfig :=
  let cfg := (cfg.buildPairCache p.token0 (pairDataOf pair p)).buildPairCache p.token1
    (pairDataOf pair p)
  { cfg with
    reservesCache := fun a => if a = pair then some (p.reserves0, p.reserves1) else cfg.reservesCache a
    balanceCache := fun k =>
      if k = (pair, p.token1) then some p.balance1
      else if k = (pair, p.token0) then some p.balance0 else cfg.balanceCache k }

/-- `build_cache(pair)`: every probe first, then every write. -/
def buildCache (cfg : OffChainConfig) (vm : ProbeVM) (pair : EVMAddress) :
    Except CacheFailure OffChainConfig :=
  cfg.cachePair pair <$> probePair vm pair

/-- The loop of `initialize` over the pairs left: `build_cache(pair)?` on each in turn. The
first failure ends it; that pair wrote nothing, and the caches keep what earlier pairs wrote. -/
def initializeFrom (vm : ProbeVM) :
    List EVMAddress → OffChainConfig → OffChainConfig × Except CacheFailure Unit
  | [], cfg => (cfg, .ok ())
  | pair :: pairs, cfg =>
    match cfg.buildCache vm pair with
    | .ok cfg' => initializeFrom vm pairs cfg'
    | .error e => (cfg, .error e)

/-- `initialize(state, vm)` (the name is a keyword of Lean). -/
def initializePairs (cfg : OffChainConfig) (vm : ProbeVM) : OffChainConfig × Except CacheFailure Unit :=
  initializeFrom vm cfg.v2Pairs cfg

/-- `get_pair(token, _)`; `none` when the `unwrap` of `from_str` panics. -/
def getPair (cfg : OffChainConfig) (token : String) : Option (List OffChainPairData) :=
  (addressFromStr token).map cfg.pairCache

/-- `fetch_reserve(pair)`, the reserves as decimal strings; the outer `none` is the panic of
`from_str(pair).unwrap()`. -/
def fetchReserve (cfg : OffChainConfig) (pair : String) : Option (Option (String × String)) :=
  (addressFromStr pair).map fun p =>
    (cfg.reservesCache p).map fun r => (toString r.1.toNat, toString r.2.toNat)

def getTokenBalance (cfg : OffChainConfig) (token address : EVMAddress) : EVMU256 :=
  (cfg.balanceCache (address, token)).getD 0

end OffChainConfig

end ITY
