import SchemaBinding.Proofs.Component.Registration
import SchemaBinding.Proofs.Loading.Load
import SchemaBinding.Proofs.SchemaSet.Preorder

namespace SchemaBinding

open Relation (ReflTransGen)

namespace Loading

variable {Good : Schema → Prop} {Holds : SchemaSet → Prop} {set : SchemaSet} {limits : Limits}
  {permissive : Bool}

/-- What holds of a set stays when a document is linked and when one is read. -/
structure Keeps (permissive : Bool) (Holds : SchemaSet → Prop) : Prop where
  link : ∀ {set}, Holds set → ∀ parent id, Holds (set.link parent id)
  added : ∀ {set} {document : SchemaDocument} {model : Model}, Holds set →
    Schema.read document.document ⟨set.size⟩ document.path.text permissive set.model =
      .ok (document.schema, model) → Holds (set.added document model)

namespace Keeps

variable (h : Keeps permissive Holds)

include h

theorem settle (hset : Holds set) (pending : List Request) :
    Holds (Loading.settle set pending).set := by
  induction pending generalizing set with
  | nil => exact hset
  | cons request rest ih =>
      rw [Loading.settle]
      split
      · exact ih (h.link hset _ _)
      · exact hset

theorem supply (hset : Holds set) {rest : List Request} {request : Request}
    {result : Except FileFault String} {next : Loading}
    (hnext : Loading.supply ⟨set, rest⟩ limits permissive request result = .ok next) :
    Holds next.set := by
  simp only [Loading.supply, Loading.load, bind_eq_ok_iff] at hnext
  obtain ⟨_, _, text, _, ⟨loaded, requests⟩, ⟨source, _, ⟨schema, model⟩, hread, hloaded⟩, heq⟩ :=
    hnext
  cases hloaded
  cases heq
  let document : SchemaDocument := ⟨⟨request.location.text⟩, source, schema, [], []⟩
  have hadded : Holds (set.added document model) := h.added hset hread
  exact h.link hadded _ _

theorem run {read : Location → Except FileFault String} {state : Loading}
    (hstate : Holds state.set) (hset : Loading.run limits permissive read state = .ok set) :
    Holds set := by
  fun_induction Loading.run limits permissive read state with
  | case1 state found hsettled =>
      cases hset
      have hkept := h.settle hstate state.pending
      rw [hsettled] at hkept
      exact hkept
  | case2 => cases hset
  | case3 state found request rest hsettled next hnext _ ih =>
      have hkept := h.settle hstate state.pending
      rw [hsettled] at hkept
      exact ih (h.supply hkept hnext) hset

end Keeps

def AllSchemas (Good : Schema → Prop) (set : SchemaSet) : Prop :=
  ∀ document ∈ set.documents, Good document.schema

def OfReading (Good : Schema → Prop) : Prop :=
  ∀ document id label permissive model schema next,
    Schema.read document id label permissive model = .ok (schema, next) → Good schema

theorem keeps_allSchemas (hread : OfReading Good) : Keeps permissive (AllSchemas Good) where
  link h parent id := by
    intro document hdocument
    obtain ⟨old, hold, _, hschema, _⟩ := SchemaSet.exists_of_mem_link hdocument
    rw [hschema]
    exact h old hold
  added h hadded := by
    intro document hdocument
    rcases Array.mem_push.mp hdocument with hold | rfl
    · exact h document hold
    · exact hread _ _ _ _ _ _ _ hadded

end Loading

namespace SchemaSet

variable {tree : FileTree} {roots : List Path} {limits : Limits} {permissive : Bool}
  {set : SchemaSet}

theorem schema_of_load {Good : Schema → Prop} (hread : Loading.OfReading Good)
    (h : load tree roots limits permissive = .ok set) {document : SchemaDocument}
    (hdocument : document ∈ set.documents) : Good document.schema := by
  have hnone : Loading.AllSchemas Good (Loading.begin roots).set := by
    intro document hmem
    cases (Array.mem_empty_iff document).mp hmem
  exact (Loading.keeps_allSchemas hread).run hnone h document hdocument

theorem distinct_of_load (h : load tree roots limits permissive = .ok set)
    {document : SchemaDocument} (hdocument : document ∈ set.documents) :
    document.symbols.Distinct :=
  schema_of_load (fun _ _ _ _ _ _ _ => Schema.hasDistinct_of_read) h hdocument

theorem closureOf_of_load (h : load tree roots limits permissive = .ok set) :
    set.ClosureOf ⟨tree, limits, permissive⟩ roots := by
  rcases load_cases ⟨tree, limits, permissive⟩ roots with
    ⟨found, hfound, hclosure, _⟩ | ⟨⟨error, herror⟩, _⟩
  · rw [h] at hfound
    cases hfound
    exact hclosure
  · rw [h] at herror
    cases herror

theorem loaded_of_linked {setting : Setting} (h : set.ClosureOf setting roots)
    {id next : DocumentId} {document : SchemaDocument} {kind : LinkKind}
    (hdocument : set.document? id = some document) (hnext : next ∈ document.linked kind) :
    set.Loaded next := by
  have hplaces := h.linked id document kind hdocument
  have hmem : set.location? next ∈ (document.linked kind).map set.location? :=
    List.mem_map_of_mem hnext
  rw [hplaces] at hmem
  obtain ⟨location, _, hlocation⟩ := List.mem_map.mp hmem
  obtain ⟨target, htarget, _⟩ := location?_eq_some_iff.mp hlocation.symm
  exact ⟨target, htarget⟩

theorem closed_includes_of_load (h : load tree roots limits permissive = .ok set) :
    set.Closed SchemaDocument.includes := by
  rintro id next ⟨document, hdocument, hnext⟩
  have hlinked : next ∈ document.linked .inclusion := hnext
  exact loaded_of_linked (closureOf_of_load h) hdocument hlinked

theorem closed_links_of_load (h : load tree roots limits permissive = .ok set) :
    set.Closed SchemaDocument.links := by
  rintro id next ⟨document, hdocument, hnext⟩
  rcases List.mem_append.mp hnext with hinclude | himport
  · have hlinked : next ∈ document.linked .inclusion := hinclude
    exact loaded_of_linked (closureOf_of_load h) hdocument hlinked
  · have hlinked : next ∈ document.linked .importing := himport
    exact loaded_of_linked (closureOf_of_load h) hdocument hlinked

theorem Closed.loaded {links : SchemaDocument → List DocumentId} (h : set.Closed links)
    {start id : DocumentId} (hstart : set.Loaded start)
    (hreach : ReflTransGen (set.LinksTo links) start id) : set.Loaded id := by
  cases hreach with
  | refl => exact hstart
  | tail _ hlink => exact h _ _ hlink

end SchemaSet

end SchemaBinding
