import Mathlib

/-! Value types shared by the EVM side of the fuzzer. Words are `BitVec`s of the width
`ruint` gives them, so `+` and `*` wrap as they do in `EVMU256`/`EVMU512`; sets and maps of
the Rust code are lists, with `List.insert` for `HashSet::insert`. -/

namespace ITY

abbrev EVMU256 := BitVec 256
abbrev EVMU512 := BitVec 512
abbrev EVMAddress := BitVec 160

/-- Modelled from the spec: `types.rs` is not among the sources. An address is the low
twenty bytes of a word, the slice `[12..32]` of its big-endian bytes. -/
def convertU256ToH160 (v : EVMU256) : EVMAddress := v.setWidth 160

/-- `scale!()` of `flashloan.rs`. -/
def scale : EVMU512 := 1000000

structure ABIConfig where
  abi : String
  function : BitVec 32
  functionName : String
  isStatic : Bool
  isPayable : Bool
  isConstructor : Bool
  deriving DecidableEq, Repr

/-- A boxed ABI value as `add_abi` builds it: `get_abi_type_boxed(&abi.abi)` stamped by
`set_func_with_signature(abi.function, &abi.function_name, &abi.abi)`. -/
structure BoxedABI where
  function : BitVec 32
  functionName : String
  abi : String
  deriving DecidableEq, Repr

inductive EVMInputTy
  | ABI
  | Borrow
  deriving DecidableEq, Repr

/-- The fields of `EVMInput` that the initializer sets and the middleware reads. -/
structure EVMInput where
  inputType : EVMInputTy
  caller : EVMAddress
  contract : EVMAddress
  data : Option BoxedABI
  sstateIdx : Nat
  txnValue : Option EVMU256
  step : Bool
  liquidationPercent : UInt8
  directData : List UInt8
  randomness : List UInt8
  «repeat» : Nat
  deriving DecidableEq, Repr

end ITY
