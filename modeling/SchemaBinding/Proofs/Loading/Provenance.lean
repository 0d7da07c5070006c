import SchemaBinding.Proofs.Component.Stems
import SchemaBinding.Proofs.SchemaSet.Parts

namespace SchemaBinding

namespace SchemaSet

variable {permissive : Bool} {set : SchemaSet} {layout : Layout}

namespace LaidOut

variable (h : set.LaidOut permissive layout)

include h

theorem gained {id : DocumentId} {document : SchemaDocument}
    (hdocument : set.document? id = some document) {part : Part}
    (hpart : part ∈ layout.parts id.index) :
    Reading.Gained (document.origin permissive id) part.before part.after := by
  obtain ⟨element, helement, hchild⟩ := h.ordinary hdocument hpart
  have hread := ((h.document id document hdocument).chain.read hpart).2
  exact (Part.makes hchild (.child .self helement) hread).1

theorem stems {kind : SymbolKind} {id : Id kind} {component : Component kind}
    (hcomponent : set.model.component? id = some component) :
    ∃ number document, set.document? number = some document ∧
      component.Stems (document.origin permissive number) set.model := by
  obtain ⟨part, hpart, hholds⟩ := h.exists_part (Model.index_lt_of_component? hcomponent)
  have hgrows := h.grows hpart
  obtain ⟨document, hdocument, hmem⟩ := hpart
  obtain ⟨_, hgained⟩ := h.gained hdocument hmem
  rw [hgrows.component? id hholds.2] at hcomponent
  exact ⟨part.document, document, hdocument, (hgained id component hholds.1 hcomponent).mono hgrows⟩

end LaidOut

variable {tree : FileTree} {roots : List Path} {limits : Limits}

theorem stems_of_load (h : load tree roots limits permissive = .ok set) {kind : SymbolKind}
    {id : Id kind} {component : Component kind}
    (hcomponent : set.model.component? id = some component) :
    ∃ number document, set.document? number = some document ∧
      component.Stems (document.origin permissive number) set.model := by
  obtain ⟨layout, hlaid⟩ := exists_layout_of_load h
  exact hlaid.stems hcomponent

end SchemaSet

end SchemaBinding
