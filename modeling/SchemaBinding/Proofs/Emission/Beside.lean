import SchemaBinding.Generation
import SchemaBinding.Proofs.Emission.Seeds
import SchemaBinding.Proofs.Emission.Visit
import SchemaBinding.Proofs.SchemaSet.Beside
import SchemaBinding.Proofs.Struct.Agree

namespace SchemaBinding

variable {σ τ : Type}

structure StructFile.Alike (documented : Prop) (file other : StructFile) : Prop where
  same : file.undocumented = other.undocumented
  text : documented → file.text = other.text

/-- Sinks that stay alike when they take files of structs that are. -/
def Sink.Alike (documented : Prop) (states : σ → τ → Prop) (sink : Sink σ) (sink' : Sink τ) :
    Prop :=
  ∀ package name (file other : StructFile), file.Alike documented other →
    ∀ state state', states state state' →
      Runs Eq states (sink.write package name file.text state)
        (sink'.write package name other.text state')

theorem FileMatches.alike {pairing : Pairing} {result other : StructFile × List TypeId}
    (h : FileMatches pairing result other) :
    result.1.unreferenced.Alike pairing.documented other.1.unreferenced where
  same := h.same
  text hdocumented := by rw [h.file hdocumented]

/-- What emissions leave behind that go side by side. -/
structure Works.Beside (first second : SchemaSet) (states : σ → τ → Prop) (works : Works σ)
    (other : Works τ) : Prop where
  files : works.files = other.files
  structs : works.structs = other.structs
  settled : works.memo.Settled first
  settled' : other.memo.Settled second
  sink : states works.sink other.sink

structure Emission.Beside (first second : SchemaSet) (states : σ → τ → Prop)
    (emission : Emission σ) (other : Emission τ) : Prop where
  claims : emission.claims.keys = other.claims.keys
  works : emission.works.Beside first second states other.works

namespace Works

variable {first second : SchemaSet} {states : σ → τ → Prop} {works : Works σ} {works' : Works τ}
  (h : works.Beside first second states works')

include h

theorem runs_writing {α β : Type} {related : α → β → Prop} {work : EStateM Error σ α}
    {work' : EStateM Error τ β}
    (hwork : Runs related states (work works.sink) (work' works'.sink)) :
    Runs related (Beside first second states) (writing work works) (writing work' works') := by
  unfold writing
  generalize work works.sink = result at hwork ⊢
  generalize work' works'.sink = result' at hwork ⊢
  cases hwork with
  | ok hvalue hstate => exact .ok hvalue { h with sink := hstate }
  | error hstate => exact .error { h with sink := hstate }

theorem runs_claimFile (package name : String) :
    Runs Eq (Beside first second states) (claimFile package name works)
      (claimFile package name works') := by
  simp only [claimFile, modifyGet, MonadStateOf.modifyGet, EStateM.modifyGet, h.files]
  exact .ok rfl { h with files := rfl }

end Works

namespace SchemaSet.Paired

variable {pairing : Pairing} {first second : SchemaSet} (h : first.Paired pairing second)
  {options options' : Options} (hagree : options.Agree options') {states : σ → τ → Prop}
  {sink : Sink σ} {sink' : Sink τ} (hsink : sink.Alike pairing.documented states sink')

include h hagree hsink

theorem runs_writeStruct {a b : TypeId} (hpaired : pairing.id a b) {type type' : TypeDef}
    (htype : type.Matches pairing type') {works : Works σ} {works' : Works τ}
    (hworks : works.Beside first second states works') :
    Runs (List.Forall₂ pairing.id) (Works.Beside first second states)
      (Works.writeStruct first options sink a type works)
      (Works.writeStruct second options' sink' b type' works') := by
  obtain ⟨memo, hmemo, heq⟩ :=
    Works.resolving_eq (Works.agrees_structFile first options a type) hworks.settled
  obtain ⟨memo', hmemo', heq'⟩ :=
    Works.resolving_eq (Works.agrees_structFile second options' b type') hworks.settled'
  have hfile := h.structFile options hpaired htype
  rw [hagree.structFile_eq second] at hfile
  have hmaking : Runs (FileMatches pairing) (Works.Beside first second states)
      (Works.resolving (Works.structFile first options (Resolving.answers first) a type) works)
      (Works.resolving (Works.structFile second options' (Resolving.answers second) b type')
        works') := by
    rw [heq, heq']
    exact hfile.runs { hworks with settled := hmemo, settled' := hmemo' }
  apply hmaking.bind
  rintro ⟨made, referenced⟩ ⟨made', referenced'⟩ works works' hmade hworks
  have hpackage : made.package = made'.package := hmade.package_eq
  have hname : made.name = made'.name := hmade.name_eq
  simp only [hpackage, hname]
  apply (Works.runs_claimFile hworks _ _).bind
  rintro fileName _ works works' rfl hworks
  have htaken := hsink made'.package fileName _ _ hmade.alike _ _ hworks.sink
  rw [StructFile.text_unreferenced, StructFile.text_unreferenced] at htaken
  apply (Works.runs_writing hworks htaken).bind
  rintro _ _ works works' - hworks
  exact .ok hmade.referenced { hworks with structs := by simp only [hworks.structs, htype.space] }

/-! Whole emissions. -/

omit hsink in
theorem exists_claim {a b : TypeId} (hpaired : pairing.id a b) {type : TypeDef}
    (htype : first.model.type? a = some type) {claims claims' : Claims}
    (hclaims : claims.keys = claims'.keys) :
    ∃ type', second.typeDef b = .ok type' ∧ type.Matches pairing type' ∧
      (type.structKey options ∈ claims.keys ↔ type'.structKey options' ∈ claims'.keys) ∧
        (claims.put (type.structKey options) a).keys =
          (claims'.put (type'.structKey options') b).keys := by
  obtain ⟨found, type', hfound, hfound', hmatches⟩ := h.exists_type hpaired
  rw [htype] at hfound
  cases hfound
  refine ⟨type', Emission.typeDef_of_type? hfound', hmatches, ?_, ?_⟩
  · rw [hmatches.structKey_eq, hagree.structKey_eq, hclaims]
  · rw [Table.keys_put, Table.keys_put, hmatches.structKey_eq, hagree.structKey_eq, hclaims]

theorem runs_walk (claims : Claims) (works : Works σ) (stack : List TypeId) :
    ∀ (claims' : Claims) works' stack', claims.keys = claims'.keys →
      works.Beside first second states works' → List.Forall₂ pairing.id stack stack' →
        Runs Eq (Emission.Beside first second states)
          (Emission.walk first options sink claims works stack)
          (Emission.walk second options' sink' claims' works' stack') := by
  fun_induction Emission.walk first options sink claims works stack with
  | case1 claims works =>
      rintro claims' works' _ hclaims hworks ⟨⟩
      rw [Emission.walk]
      exact .ok rfl ⟨hclaims, hworks⟩
  | case2 claims works id rest htype =>
      rintro claims' works' _ hclaims hworks (_ | ⟨hid, hrest⟩)
      obtain ⟨type, _, hfound, _⟩ := h.exists_type hid
      rw [htype] at hfound
      cases hfound
  | case3 claims works id rest type htype owner hclaim ih =>
      rintro claims' works' _ hclaims hworks (_ | ⟨hid, hrest⟩)
      obtain ⟨type', htype', _, hkey, _⟩ := h.exists_claim hagree hid htype hclaims
      rw [Emission.walk_claimed htype' (hkey.mp (Table.mem_keys_of_get? hclaim))]
      exact ih _ _ _ hclaims hworks hrest
  | case4 claims works id rest type htype hnone claimed error written hwrite =>
      rintro claims' works' _ hclaims hworks (_ | ⟨hid, hrest⟩)
      obtain ⟨type', htype', hmatches, hkey, hput⟩ := h.exists_claim hagree hid htype hclaims
      have hnew := Table.get?_eq_none_iff.mp hnone
      have hwriting := h.runs_writeStruct hagree hsink hid hmatches hworks
      rw [Emission.walk_new htype' (mt hkey.mpr hnew)]
      rw [hwrite] at hwriting
      generalize Works.writeStruct second options' sink' _ type' works' = result at hwriting ⊢
      cases hwriting with
      | error hwritten => exact .error ⟨hput, hwritten⟩
  | case5 claims works id rest type htype hnone claimed referenced written hwrite _ ih =>
      rintro claims' works' _ hclaims hworks (_ | ⟨hid, hrest⟩)
      obtain ⟨type', htype', hmatches, hkey, hput⟩ := h.exists_claim hagree hid htype hclaims
      have hnew := Table.get?_eq_none_iff.mp hnone
      have hwriting := h.runs_writeStruct hagree hsink hid hmatches hworks
      rw [Emission.walk_new htype' (mt hkey.mpr hnew)]
      rw [hwrite] at hwriting
      generalize Works.writeStruct second options' sink' _ type' works' = result at hwriting ⊢
      cases hwriting with
      | ok hreferenced hwritten =>
          exact ih _ _ _ hput hwritten (List.rel_append hreferenced hrest)

variable {emission : Emission σ} {emission' : Emission τ}

theorem runs_emit {a b : TypeId} (hpaired : pairing.id a b)
    (hemission : emission.Beside first second states emission') :
    Runs Eq (Emission.Beside first second states) (Emission.emit first options sink a emission)
      (Emission.emit second options' sink' b emission') :=
  h.runs_walk hagree hsink _ _ _ _ _ _ hemission.claims hemission.works (.cons hpaired .nil)

theorem runs_emitSeed {seed seed' : Emission.Seed} (hseed : seed.Matches pairing seed')
    (hemission : emission.Beside first second states emission') :
    Runs Eq (Emission.Beside first second states)
      (Emission.emitSeed first options sink seed emission)
      (Emission.emitSeed second options' sink' seed' emission') := by
  cases hseed with
  | type hpaired => exact h.runs_emit hagree hsink hpaired hemission
  | @element a b hpaired =>
      obtain ⟨memo, hmemo, heq⟩ := Emission.elementType_eq hemission.works.settled a
      obtain ⟨memo', hmemo', heq'⟩ := Emission.elementType_eq hemission.works.settled' b
      have htype : Runs (TypeTarget.Matches pairing) (Emission.Beside first second states)
          (Emission.elementType first a emission) (Emission.elementType second b emission') := by
        rw [heq, heq']
        exact (h.answers.elementType a b hpaired).runs
          ⟨hemission.claims, { hemission.works with settled := hmemo, settled' := hmemo' }⟩
      apply htype.bind
      rintro target target' emission emission' htarget hemission
      cases htarget with
      | complex hid => exact h.runs_emit hagree hsink hid hemission
      | simple _ => exact .ok rfl hemission
      | builtin type => exact .ok rfl hemission

theorem runs_emitSeeds {seeds seeds' : List Emission.Seed}
    (hseeds : List.Forall₂ (Emission.Seed.Matches pairing) seeds seeds')
    (hemission : emission.Beside first second states emission') :
    Runs Eq (Emission.Beside first second states)
      (Emission.emitSeeds first options sink seeds emission)
      (Emission.emitSeeds second options' sink' seeds' emission') := by
  induction hseeds generalizing emission emission' with
  | nil => exact .ok rfl hemission
  | cons hseed _ ih =>
      apply (h.runs_emitSeed hagree hsink hseed hemission).bind
      rintro _ _ emission emission' - hemission
      exact ih hemission

end SchemaSet.Paired

theorem SymbolTable.Matches.symbols_rel {terms : Terms} {pairing : Pairing}
    {table other : SymbolTable} (h : table.Matches terms pairing other) (kind : SymbolKind) :
    List.Forall₂ (fun entry entry' => pairing.id entry.2 entry'.2) (table.symbols kind)
      (other.symbols kind) := by
  apply List.rel_filterMap _ h.entries
  rintro _ _ ⟨name, hpaired⟩
  dsimp only
  split
  case isTrue heq =>
      subst heq
      exact .some hpaired
  case isFalse => exact .none

namespace SchemaSet.Beside

variable {terms : Terms} {first second : SchemaSet} (h : first.Beside terms second)
  {options options' : Options} (hagree : options.Agree options')

include h

theorem elementSeeds_rel {document other : SchemaDocument}
    (hdocument : document.Matches terms h.pairing other) :
    List.Forall₂ (Emission.Seed.Matches h.pairing) (Emission.elementSeeds document)
      (Emission.elementSeeds other) := by
  rw [Emission.elementSeeds, Emission.elementSeeds, List.forall₂_map_left_iff,
    List.forall₂_map_right_iff]
  exact (hdocument.schema.symbols.symbols_rel .element).imp fun _ _ => .element

theorem typeSeeds_rel {document other : SchemaDocument}
    (hdocument : document.Matches terms h.pairing other) :
    List.Forall₂ (Emission.Seed.Matches h.pairing) (Emission.typeSeeds first document)
      (Emission.typeSeeds second other) := by
  rw [Emission.typeSeeds, Emission.typeSeeds, List.forall₂_map_left_iff,
    List.forall₂_map_right_iff]
  refine (List.rel_filter ?_ (hdocument.schema.symbols.symbols_rel .type)).imp fun _ _ => .type
  rintro ⟨_, a⟩ ⟨_, b⟩ hpaired
  exact (h.paired.isComplex_eq hpaired).congr_left

include hagree

theorem seeds_rel : List.Forall₂ (Emission.Seed.Matches h.pairing) (Emission.seeds first options)
    (Emission.seeds second options') := by
  unfold Emission.seeds
  rw [hagree.recursive]
  split
  case isTrue =>
      have hdocuments := h.documents.imp fun _ _ hdocument => hdocument.here
      apply List.rel_flatMap hdocuments
      intro document document' hdocument
      exact List.rel_append (h.elementSeeds_rel hdocument) (h.typeSeeds_rel hdocument)
  case isFalse =>
      have hclosure : first.includeClosure = second.includeClosure :=
        funext h.includeClosure_eq
      rw [h.roots, hclosure]
      have hdocuments (ids : List DocumentId) :
          List.Forall₂ (SchemaDocument.Matches terms h.pairing)
            (ids.filterMap first.document?) (ids.filterMap second.document?) := by
        apply List.rel_filterMap _ (List.forall₂_same.mpr fun _ _ => rfl)
        rintro id _ rfl
        exact h.document?_matches id
      apply List.rel_flatMap (hdocuments _)
      intro document document' hdocument
      exact h.elementSeeds_rel hdocument

theorem runs_write {σ τ : Type} {states : σ → τ → Prop} {sink : Sink σ} {sink' : Sink τ}
    (hsink : sink.Alike terms.documented states sink') {state : σ} {state' : τ}
    (hstate : states state state') :
    Runs Eq states (Generation.write first options sink state)
      (Generation.write second options' sink' state') := by
  have hstart : Emission.Beside first second states { works := { sink := state } }
      { works := { sink := state' } } :=
    ⟨rfl, rfl, rfl, Memo.settled_empty first, Memo.settled_empty second, hstate⟩
  have hrun := h.paired.runs_emitSeeds hagree hsink (h.seeds_rel hagree) hstart
  unfold Generation.write Emission.emitRoots
  generalize Emission.emitSeeds first options sink (Emission.seeds first options) _ = result
    at hrun ⊢
  generalize Emission.emitSeeds second options' sink' (Emission.seeds second options') _ = result'
    at hrun ⊢
  cases hrun with
  | ok _ hemission =>
      exact .ok (by rw [hemission.works.structs, h.size_eq]) hemission.works.sink
  | error hemission => exact .error hemission.works.sink

end SchemaSet.Beside

theorem Generation.runs_run {terms : Terms} (hterms : ¬ terms.eased) {tree tree' : FileTree}
    {options options' : Options}
    (hload : Ends terms (SchemaSet.Beside terms) (load tree options) (load tree' options'))
    (hagree : options.Agree options') {states : σ → τ → Prop} {sink : Sink σ} {sink' : Sink τ}
    (hsink : sink.Alike terms.documented states sink') {state : σ} {state' : τ}
    (hstate : states state state') :
    Runs Eq states (run tree options sink state) (run tree' options' sink' state') := by
  unfold run
  generalize load tree options = result at hload ⊢
  generalize load tree' options' = result' at hload ⊢
  cases hload with
  | ok hset => exact hset.runs_write hagree hsink hstate
  | error _ => exact .error hstate
  | eased heased => exact absurd heased hterms

end SchemaBinding
