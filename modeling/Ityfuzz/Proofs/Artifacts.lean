import Ityfuzz.Sanity.Offchain
import Ityfuzz.Proofs.Corpus

/-! The two indexes `initialize_corpus` builds beside the input corpus.

`address_to_name` gives a contract at `addr` the name `name({:?} of addr)`, or the address
itself when the name already is; either way the name ends with the address, which `{:?}` prints
with a fixed length and no parenthesis. So over any loader, however names and addresses repeat,
no two addresses share a name (`initializeCorpus_names_distinct`).

`hash_to_address` files each address under the selectors of its functions with
`HashSet::insert`: after the loop each selector lists, once each, the addresses it listed
before and the addresses of the entries that are not blacklisted and have a function with that
selector that is neither a constructor nor skipped by name (`initializeCorpus_hashToAddress`). -/

namespace ITY

section Names

theorem toDigit_isSome_of_mem_hexDigits : ∀ {k n : Nat} {c : Char}, c ∈ hexDigits k n → (toDigit c 16).isSome
  | 0, _, _, h => absurd h (List.not_mem_nil _)
  | k + 1, n, c, h => by
    rcases List.mem_append.1 h with h | h
    · exact toDigit_isSome_of_mem_hexDigits h
    · rw [List.mem_singleton.1 h, toDigit_hexChar (Nat.mod_lt n (by decide))]
      rfl

theorem rparen_not_mem_addrDebug (a : EVMAddress) : ')' ∉ (addrDebug a).data := by
  intro h
  rcases List.mem_cons.1 h with h | h
  · cases h
  rcases List.mem_cons.1 h with h | h
  · cases h
  exact absurd (toDigit_isSome_of_mem_hexDigits h) (by decide)

theorem addrDebug_data_length (a : EVMAddress) : (addrDebug a).data.length = 42 := by
  show (hexDigits 40 a.toNat).length + 2 = 42
  rw [hexDigits_length]

/-- `s` is `{:?}` of `a`, or ends with it in parentheses. -/
def NamesAddress (a : EVMAddress) (s : String) : Prop :=
  s = addrDebug a ∨ ∃ t : String, s = t ++ "(" ++ addrDebug a ++ ")"

theorem artifactName_cases (n : String) (a : EVMAddress) : NamesAddress a (artifactName n a) := by
  dsimp only [artifactName]
  split
  · exact .inr ⟨_, rfl⟩
  · exact .inl (not_not.1 ‹_›)

/-- `{:?}` of an address has no parenthesis, and has a fixed length: a string names at most one
address. -/
theorem NamesAddress.inj {s : String} {a₁ a₂ : EVMAddress} (h₁ : NamesAddress a₁ s)
    (h₂ : NamesAddress a₂ s) : a₁ = a₂ := by
  have hwrap : ∀ (t : String) a,
      (t ++ "(" ++ addrDebug a ++ ")").data = (t.data ++ ['(']) ++ ((addrDebug a).data ++ [')']) :=
    fun t a => by simp only [String.data_append, List.append_assoc]
  have hplain : ∀ a t b, addrDebug a ≠ t ++ "(" ++ addrDebug b ++ ")" := fun a t b he =>
    rparen_not_mem_addrDebug a (by rw [he, hwrap]; simp)
  rcases h₁ with h₁ | ⟨t₁, h₁⟩ <;> rcases h₂ with h₂ | ⟨t₂, h₂⟩ <;> have h := h₁.symm.trans h₂
  · exact addrDebug_injective h
  · exact absurd h (hplain _ _ _)
  · exact absurd h.symm (hplain _ _ _)
  · have hd := congrArg String.data h
    rw [hwrap, hwrap] at hd
    have hs := (List.append_inj' hd (by simp only [List.length_append, addrDebug_data_length])).2
    exact addrDebug_injective (String.ext (List.append_cancel_right hs))

theorem artifactName_address_inj {n₁ n₂ : String} {a₁ a₂ : EVMAddress}
    (h : artifactName n₁ a₁ = artifactName n₂ a₂) : a₁ = a₂ :=
  (artifactName_cases n₁ a₁).inj (h ▸ artifactName_cases n₂ a₂)

end Names

namespace CorpusState

variable {env : InitEnv} {st : CorpusState}

theorem addAbis_addressToName (addr : EVMAddress) : ∀ (abi : List ABIConfig) (st : CorpusState),
    (addAbis env addr abi st).artifacts.addressToName = st.artifacts.addressToName
  | [], _ => rfl
  | a :: abi, st => by
    cases hs : skipFunction a.functionName
    · rw [addAbis_cons_add hs, addAbis_addressToName addr abi, (@addAbi_artifactKeys env st a addr).2.2]
    · rw [addAbis_cons_skip hs, addAbis_addressToName addr abi]

/-- One turn of the loop names only its own entry's address. -/
theorem corpusStep_addressToName (k : Nat) (c : ContractInfo) :
    (corpusStep env k st c).artifacts.addressToName = fun a =>
      if a = c.deployedAddress then some (artifactName c.name c.deployedAddress)
      else st.artifacts.addressToName a := by
  have hh := (@handleContractInsertion_spec env (recordArtifacts env st c (recoverAbi env c)) k
    c.deployedAddress (recoverAbi env c)).2.2.2
  show (if c.deployedAddress ∈ env.blacklist then _ else _ : CorpusState).artifacts.addressToName = _
  split
  · rw [hh]; rfl
  · rw [addAbis_addressToName, hh]; rfl

end CorpusState

section Index

/-- `H'` is `H` with, under each selector `f`, the addresses `new f` adds, and no selector of
`H'` lists an address twice. -/
def IndexExtends (H H' : BitVec 32 → List EVMAddress) (new : BitVec 32 → EVMAddress → Prop) : Prop :=
  ∀ f, (H' f).Nodup ∧ ∀ x, x ∈ H' f ↔ x ∈ H f ∨ new f x

variable {H H₁ H₂ H₃ : BitVec 32 → List EVMAddress} {N N₁ N₂ : BitVec 32 → EVMAddress → Prop}

theorem IndexExtends.refl (h : ∀ f, (H f).Nodup) : IndexExtends H H fun _ _ => False :=
  fun f => ⟨h f, fun _ => Iff.of_eq (or_false _).symm⟩

theorem IndexExtends.trans (h₁ : IndexExtends H₁ H₂ N₁) (h₂ : IndexExtends H₂ H₃ N₂)
    (hN : ∀ f x, N f x ↔ N₁ f x ∨ N₂ f x) : IndexExtends H₁ H₃ N := fun f =>
  ⟨(h₂ f).1, fun x => by rw [(h₂ f).2, (h₁ f).2, hN, or_assoc]⟩

end Index

namespace CorpusState

variable {env : InitEnv} {st : CorpusState}

/-- `add_abi` files `addr` under the selector of a function that is not a constructor. -/
theorem addAbi_index (a : ABIConfig) (addr : EVMAddress) (h : ∀ f, (st.hashToAddress f).Nodup) :
    IndexExtends st.hashToAddress (addAbi env st a addr).hashToAddress
      fun f x => x = addr ∧ f = a.function ∧ a.isConstructor = false := fun f => by
  rw [(@addAbi_spec env st a addr).2.2 f]
  split
  · rename_i hf
    exact ⟨(h f).insert, fun x => by simp [List.mem_insert_iff, hf, or_comm]⟩
  · rename_i hf
    exact ⟨h f, fun x => by simp only [iff_self_or]; rintro ⟨-, hf', hc⟩; exact absurd ⟨hf', hc⟩ hf⟩

/-- The inner loop files `addr` under the selectors of the functions it does not skip. -/
theorem addAbis_index (addr : EVMAddress) : ∀ (abi : List ABIConfig) (st : CorpusState),
    (∀ f, (st.hashToAddress f).Nodup) →
    IndexExtends st.hashToAddress (addAbis env addr abi st).hashToAddress fun f x => x = addr ∧
      ∃ a ∈ abi, a.function = f ∧ a.isConstructor = false ∧ skipFunction a.functionName = false
  | [], _, h => (IndexExtends.refl h).trans (IndexExtends.refl h) fun _ _ => by simp
  | a :: abi, st, h => by
    cases hs : skipFunction a.functionName
    · rw [addAbis_cons_add hs]
      have h₁ := @addAbi_index env st a addr h
      refine h₁.trans (addAbis_index addr abi _ fun f => (h₁ f).1) fun f x => ?_
      simp only [List.mem_cons, exists_eq_or_imp, hs, and_true]
      constructor
      · rintro ⟨rfl, (⟨hf, hc⟩ | h)⟩
        exacts [.inl ⟨rfl, hf.symm, hc⟩, .inr ⟨rfl, h⟩]
      · rintro (⟨rfl, hf, hc⟩ | ⟨rfl, h⟩)
        exacts [⟨rfl, .inl ⟨hf.symm, hc⟩⟩, ⟨rfl, .inr h⟩]
    · rw [addAbis_cons_skip hs]
      refine (IndexExtends.refl h).trans (addAbis_index addr abi st h) fun f x => ?_
      simp [hs]

/-- One turn of the loop files its entry's address, unless it is blacklisted. -/
theorem corpusStep_index (k : Nat) (c : ContractInfo) (h : ∀ f, (st.hashToAddress f).Nodup) :
    IndexExtends st.hashToAddress (corpusStep env k st c).hashToAddress fun f x =>
      c.deployedAddress = x ∧ x ∉ env.blacklist ∧ ∃ a ∈ recoverAbi env c, a.function = f ∧
        a.isConstructor = false ∧ skipFunction a.functionName = false := by
  have hh := (@handleContractInsertion_spec env (recordArtifacts env st c (recoverAbi env c)) k
    c.deployedAddress (recoverAbi env c)).2.2.1
  show IndexExtends _ (if c.deployedAddress ∈ env.blacklist then _ else _ : CorpusState).hashToAddress _
  split
  · rename_i hb
    rw [hh]
    refine (IndexExtends.refl h).trans (IndexExtends.refl h) fun f x => ?_
    simp only [or_self, iff_false, not_and]
    rintro rfl
    exact absurd hb
  · rename_i hb
    have := @addAbis_index env c.deployedAddress (recoverAbi env c) _ (hh ▸ h)
    rw [hh] at this
    refine (IndexExtends.refl h).trans this fun f x => ?_
    simp only [false_or]
    constructor
    · rintro ⟨rfl, -, ha⟩
      exact ⟨rfl, ha⟩
    · rintro ⟨rfl, ha⟩
      exact ⟨rfl, hb, ha⟩

end CorpusState

open CorpusState in
theorem initializeCorpusFrom_index (env : InitEnv) : ∀ (k : Nat) (cs : List ContractInfo) (st : CorpusState),
    (∀ f, (st.hashToAddress f).Nodup) →
    IndexExtends st.hashToAddress (initializeCorpusFrom env k cs st).hashToAddress fun f x =>
      ∃ c ∈ cs, c.deployedAddress = x ∧ x ∉ env.blacklist ∧ ∃ a ∈ recoverAbi env c, a.function = f ∧
        a.isConstructor = false ∧ skipFunction a.functionName = false
  | _, [], _, h => (IndexExtends.refl h).trans (IndexExtends.refl h) fun _ _ => by simp
  | k, c :: cs, st, h => by
    have h₁ := @corpusStep_index env st k c h
    exact h₁.trans (initializeCorpusFrom_index env (k + 1) cs _ fun f => (h₁ f).1) fun f x => by
      simp only [List.mem_cons, exists_eq_or_imp]

theorem initializeCorpus_hashToAddress (env : InitEnv) (cs : List ContractInfo) (st : CorpusState)
    (h₀ : ∀ f, (st.hashToAddress f).Nodup) (f : BitVec 32) :
    ((initializeCorpus env cs st).hashToAddress f).Nodup ∧
      ∀ x, x ∈ (initializeCorpus env cs st).hashToAddress f ↔ x ∈ st.hashToAddress f ∨
        ∃ c ∈ cs, c.deployedAddress = x ∧ x ∉ env.blacklist ∧ ∃ a ∈ recoverAbi env c, a.function = f ∧
          a.isConstructor = false ∧ skipFunction a.functionName = false :=
  initializeCorpusFrom_index env 0 cs st h₀ f

/-- `transfer` at `7`, listed twice: its selector lists `7` once. -/
theorem initializeCorpus_hashToAddress_twice :
    (∀ f, (emptyCorpus.hashToAddress f).Nodup) ∧
    ((initializeCorpus failingEnv [undeployedToken, undeployedToken] emptyCorpus).hashToAddress 0xa9059cbb).Nodup ∧
      ∀ x, x ∈ (initializeCorpus failingEnv [undeployedToken, undeployedToken] emptyCorpus).hashToAddress
          0xa9059cbb ↔ x ∈ emptyCorpus.hashToAddress 0xa9059cbb ∨
        ∃ c ∈ [undeployedToken, undeployedToken], c.deployedAddress = x ∧ x ∉ failingEnv.blacklist ∧
          ∃ a ∈ recoverAbi failingEnv c, a.function = 0xa9059cbb ∧ a.isConstructor = false ∧
            skipFunction a.functionName = false :=
  ⟨fun _ => List.nodup_nil,
    initializeCorpus_hashToAddress failingEnv [undeployedToken, undeployedToken] emptyCorpus
      (fun _ => List.nodup_nil) 0xa9059cbb⟩

open CorpusState in
/-- Every name the loop records is the name of some entry at the address it is recorded for. -/
theorem initializeCorpusFrom_own_names (env : InitEnv) : ∀ (k : Nat) (cs : List ContractInfo) (st : CorpusState),
    (∀ a s, st.artifacts.addressToName a = some s → ∃ n, s = artifactName n a) →
    ∀ a s, (initializeCorpusFrom env k cs st).artifacts.addressToName a = some s → ∃ n, s = artifactName n a
  | _, [], _, h => h
  | k, c :: cs, st, h => initializeCorpusFrom_own_names env (k + 1) cs _ fun a s hs => by
    rw [corpusStep_addressToName] at hs
    dsimp only at hs
    split at hs
    · cases hs
      rename_i ha
      exact ⟨c.name, ha ▸ rfl⟩
    · exact h a s hs

theorem initializeCorpus_names_distinct (env : InitEnv) (cs : List ContractInfo) (st : CorpusState)
    (h₀ : ∀ a, st.artifacts.addressToName a = none) :
    ∀ a b s, (initializeCorpus env cs st).artifacts.addressToName a = some s →
      (initializeCorpus env cs st).artifacts.addressToName b = some s → a = b := by
  have hown := initializeCorpusFrom_own_names env 0 cs st fun a s hs => by rw [h₀] at hs; cases hs
  intro a b s ha hb
  obtain ⟨n₁, rfl⟩ := hown a s ha
  obtain ⟨n₂, h⟩ := hown b _ hb
  exact artifactName_address_inj h

/-- Entries named `Token*` at `7` and `Token` at `8`, and one named by its own address `9`. -/
def namedLoader : List ContractInfo :=
  [⟨"Token*", [], [], true, 7⟩, ⟨"Token", [], [], true, 8⟩, ⟨addrDebug 9, [], [], true, 9⟩]

theorem initializeCorpus_names_distinct_namedLoader :
    (∀ a, emptyCorpus.artifacts.addressToName a = none) ∧
    ∀ a b s, (initializeCorpus failingEnv namedLoader emptyCorpus).artifacts.addressToName a = some s →
      (initializeCorpus failingEnv namedLoader emptyCorpus).artifacts.addressToName b = some s → a = b :=
  ⟨fun _ => rfl, initializeCorpus_names_distinct failingEnv namedLoader emptyCorpus fun _ => rfl⟩

end ITY
