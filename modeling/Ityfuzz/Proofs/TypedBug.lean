import Ityfuzz.Spec.TypedBug
import Ityfuzz.Proofs.Artifacts

/-! What the typed-bug oracle reports when it is built from the `address_to_name` that
`initialize_corpus` fills. A recorded name ends with `{:?}` of its address in parentheses or is
that form itself, and an address with no recorded name is reported under `{:?}` of itself: so
the name of a result tells the address of its bug (`typedBugOracle_names_identify`). -/

namespace ITY

namespace TypedBugOracle

variable {σ : Type} {o : TypedBugOracle} {env : TypedBugEnv σ} {bugs : List TypedBug}

/-- The oracle panics exactly when there are typed bugs and no `ArtifactInfoMetadata`. -/
theorem oracle_eq_none_iff : o.oracle env bugs = none ↔ bugs ≠ [] ∧ env.sourcemap = none := by
  unfold oracle
  cases bugs with
  | nil => simp
  | cons b bugs => cases env.sourcemap <;> simp

theorem oracle_eq_some {idxs : List UInt64} {results : List (EVMBugResult σ)}
    (h : o.oracle env bugs = some (idxs, results)) :
    idxs = results.map (·.bugIdx) ∧
      List.Forall₂ (fun b r => r.bugIdx = env.hash b.bugId b.pc <<< (8 + env.typedBugBugIdx).toUInt64 ∧
        r.name = some (o.nameOf b.addr)) bugs results := by
  unfold oracle at h
  cases bugs with
  | nil => cases h; exact ⟨rfl, .nil⟩
  | cons b bugs =>
    rcases hs : env.sourcemap with _ | srcmap <;> simp only [hs, List.isEmpty_cons, Bool.not_false,
      if_true, reduceCtorEq, Option.some.injEq, Prod.mk.injEq] at h
    obtain ⟨rfl, rfl⟩ := h
    exact ⟨rfl, List.forall₂_map_right_iff.2 (List.forall₂_same.2 fun _ _ => ⟨rfl, rfl⟩)⟩

end TypedBugOracle

theorem initializeCorpus_nameOf {env : InitEnv} {cs : List ContractInfo} {st : CorpusState}
    (h₀ : ∀ a, st.artifacts.addressToName a = none) (a : EVMAddress) :
    NamesAddress a ((TypedBugOracle.new (initializeCorpus env cs st).artifacts.addressToName).nameOf a) := by
  show NamesAddress a (((initializeCorpus env cs st).artifacts.addressToName a).getD (addrDebug a))
  cases hs : (initializeCorpus env cs st).artifacts.addressToName a with
  | none => exact .inl rfl
  | some s =>
    obtain ⟨n, rfl⟩ := initializeCorpusFrom_own_names env 0 cs st
      (fun a s hs => by rw [h₀] at hs; cases hs) a s hs
    exact artifactName_cases n a

theorem typedBugOracle_names_identify (env : InitEnv) (cs : List ContractInfo) (st : CorpusState)
    (h₀ : ∀ a, st.artifacts.addressToName a = none) {σ : Type} (benv : TypedBugEnv σ)
    (bugs : List TypedBug) (idxs : List UInt64) (results : List (EVMBugResult σ))
    (h : (TypedBugOracle.new (initializeCorpus env cs st).artifacts.addressToName).oracle benv bugs =
      some (idxs, results)) :
    idxs = results.map (·.bugIdx) ∧
      List.Forall₂ (fun b r => r.bugIdx = benv.hash b.bugId b.pc <<< (8 + benv.typedBugBugIdx).toUInt64)
        bugs results ∧
      ∀ b₁ r₁ b₂ r₂, (b₁, r₁) ∈ bugs.zip results → (b₂, r₂) ∈ bugs.zip results →
        r₁.name = r₂.name → b₁.addr = b₂.addr := by
  obtain ⟨hidx, hall⟩ := TypedBugOracle.oracle_eq_some h
  refine ⟨hidx, hall.imp fun _ _ h => h.1, fun b₁ r₁ b₂ r₂ h₁ h₂ hn => ?_⟩
  rw [(List.forall₂_zip hall h₁).2, (List.forall₂_zip hall h₂).2, Option.some.injEq] at hn
  exact (initializeCorpus_nameOf h₀ b₁.addr).inj (hn ▸ initializeCorpus_nameOf h₀ b₂.addr)

/-- Hashes every bug to `1`, prints a bug id as it is, and finds every location. -/
def unitBugEnv : TypedBugEnv Unit := ⟨fun _ _ => 1, id, 0, some fun _ _ => ()⟩

/-- Two bugs in `Token*` at `7`, one in `Token` at `8`, one at `10`, which has no name. -/
def namedBugs : List TypedBug := [⟨"a", 7, 0⟩, ⟨"b", 7, 5⟩, ⟨"c", 8, 0⟩, ⟨"d", 10, 0⟩]

theorem typedBugOracle_names_identify_namedLoader :
    (∀ a, emptyCorpus.artifacts.addressToName a = none) ∧
    ∃ idxs results, (TypedBugOracle.new (initializeCorpus failingEnv namedLoader emptyCorpus).artifacts.addressToName).oracle
        unitBugEnv namedBugs = some (idxs, results) ∧
      results.map (·.name) = [some (artifactName "Token*" 7), some (artifactName "Token*" 7),
        some (artifactName "Token" 8), some (addrDebug 10)] ∧
      idxs = results.map (·.bugIdx) ∧
      List.Forall₂ (fun b r => r.bugIdx = unitBugEnv.hash b.bugId b.pc <<< (8 + unitBugEnv.typedBugBugIdx).toUInt64)
        namedBugs results ∧
      ∀ b₁ r₁ b₂ r₂, (b₁, r₁) ∈ namedBugs.zip results → (b₂, r₂) ∈ namedBugs.zip results →
        r₁.name = r₂.name → b₁.addr = b₂.addr :=
  ⟨fun _ => rfl, _, _, rfl, rfl, typedBugOracle_names_identify failingEnv namedLoader emptyCorpus
    (fun _ => rfl) unitBugEnv namedBugs _ _ rfl⟩

end ITY
