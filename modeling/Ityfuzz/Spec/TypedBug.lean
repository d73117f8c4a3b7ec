import Ityfuzz.Spec.Offchain

/-! The typed-bug oracle of `oracles/typed_bug.rs`. After an execution it reports each typed bug
of the post state: the index is `DefaultHasher`'s hash of `(bug_id, pc)` shifted left by
`8 + TYPED_BUG_BUG_IDX`, and the name is the one `address_to_name` holds for the bug's address,
or `{:?}` of the address. The hasher, `{:?}` of a bug id, the constant and the source map lookup
are not among the sources and are parameters (`TypedBugEnv`). -/

namespace ITY

/-- An entry `(bug_id, (addr, pc))` of `post_state.typed_bug`, in the order it is iterated. -/
structure TypedBug where
  bugId : String
  addr : EVMAddress
  pc : Nat
  deriving DecidableEq, Repr

/-- What `oracle` reads beside the typed bugs: `DefaultHasher` over `(bug_id, pc)`, `{:?}` of a
bug id, `TYPED_BUG_BUG_IDX`, and `get_sourcemap_executor`, there when the state's metadata holds
an `ArtifactInfoMetadata`. -/
structure TypedBugEnv (σ : Type) where
  hash : String → Nat → UInt64
  debugBugId : String → String
  typedBugBugIdx : Nat
  sourcemap : Option (EVMAddress → Nat → σ)

/-- The fields of `EVMBugResult` the oracle sets. -/
structure EVMBugResult (σ : Type) where
  bugType : String
  bugIdx : UInt64
  bugInfo : String
  sourcemap : σ
  name : Option String

/-- `TypedBugOracle`; its source map is read only through `TypedBugEnv.sourcemap`. -/
structure TypedBugOracle where
  addressToName : EVMAddress → Option String

def TypedBugOracle.new (addressToName : EVMAddress → Option String) : TypedBugOracle :=
  ⟨addressToName⟩

namespace TypedBugOracle

variable {σ : Type}

/-- `address_to_name.get(addr).unwrap_or(&format!("{:?}", addr))`. -/
def nameOf (o : TypedBugOracle) (addr : EVMAddress) : String :=
  (o.addressToName addr).getD (addrDebug addr)

/-- The `EVMBugResult` of one typed bug; `<<` on `u64` masks its shift as a release build does. -/
def report (o : TypedBugOracle) (env : TypedBugEnv σ) (srcmap : EVMAddress → Nat → σ)
    (b : TypedBug) : EVMBugResult σ :=
  { bugType := "Bug", bugIdx := env.hash b.bugId b.pc <<< (8 + env.typedBugBugIdx).toUInt64,
    bugInfo := "Invariant " ++ env.debugBugId b.bugId ++ " violated", sourcemap := srcmap b.addr b.pc,
    name := some (o.nameOf b.addr) }

/-- `oracle(ctx, stage)`: the indices it returns and the results it pushes to the output, in
order; `none` where `expect("get metadata failed")` panics. -/
def oracle (o : TypedBugOracle) (env : TypedBugEnv σ) (typedBug : List TypedBug) :
    Option (List UInt64 × List (EVMBugResult σ)) :=
  if !typedBug.isEmpty then
    match env.sourcemap with
    | some srcmap =>
      let results := typedBug.map (o.report env srcmap)
      some (results.map (·.bugIdx), results)
    | none => none
  else some ([], [])

end TypedBugOracle

end ITY
