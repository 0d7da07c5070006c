import SchemaBinding.Proofs.Emission.OwnStruct
import SchemaBinding.Proofs.Loading.Provenance
import SchemaBinding.Proofs.Loading.Single
import SchemaBinding.Proofs.Resolution.Reference
import SchemaBinding.Proofs.Struct.Tag

namespace SchemaBinding

namespace SchemaSet

def Calls (set : SchemaSet) (name : String) : Prop :=
  ∃ document ∈ set.documents, document.document.root.Calls name

variable {tree : FileTree} {roots : List Path} {limits : Limits} {permissive : Bool}
  {set : SchemaSet}

theorem calls_of_declared? (h : load tree roots limits permissive = .ok set) {kind : SymbolKind}
    {id : Id kind} {found : Declared} (hfound : set.declared? kind id = some found)
    {name : String} {type : Option TypeRef} (hnamed : found.declaration = .named name type) :
    set.Calls name := by
  cases kind with
  | element =>
      obtain ⟨element, helement, rfl⟩ := Option.map_eq_some_iff.mp hfound
      have hcomponent : set.model.component? id = some element := helement
      obtain ⟨_, document, hdocument, hstems, _⟩ := stems_of_load h hcomponent
      exact ⟨document, Array.mem_of_getElem? hdocument, hstems.called name type hnamed⟩
  | «attribute» =>
      obtain ⟨declared, hdeclared, rfl⟩ := Option.map_eq_some_iff.mp hfound
      have hcomponent : set.model.component? id = some declared := hdeclared
      obtain ⟨_, document, hdocument, hstems, _⟩ := stems_of_load h hcomponent
      exact ⟨document, Array.mem_of_getElem? hdocument, hstems.called name type hnamed⟩
  | type => cases hfound
  | attributeGroup => cases hfound
  | group => cases hfound

theorem isTarget_of_target {kind : SymbolKind} {passed : List (Id kind)} {id : Id kind}
    {found : Target kind} (h : set.target kind passed id = .ok found) : set.IsTarget found := by
  fun_induction target set kind passed id with
  | case1 => cases h
  | case2 => cases h
  | case3 passed id hseen name type documentation span hfound =>
      cases h
      exact hfound
  | case4 => cases h
  | case5 passed id hseen name documentation span hfound next hresolve hless ih => exact ih h

theorem calls_of_nameOf (h : load tree roots limits permissive = .ok set) {kind : SymbolKind}
    {id : Id kind} {name : String} (hname : set.nameOf kind id = .ok name) : set.Calls name := by
  obtain ⟨found, hfound, heq⟩ := bind_eq_ok_iff.mp hname
  cases heq
  exact calls_of_declared? h (isTarget_of_target hfound) rfl

end SchemaSet

/-- The declaration of a member is called by a name. -/
def Member.IsCalled (set : SchemaSet) (isAttribute : Bool) (name : String) (member : Member) :
    Prop :=
  match member.source with
  | .declaredAttribute id => isAttribute = true ∧ set.nameOf .attribute id = .ok name
  | .declaredElement id _ => isAttribute = false ∧ set.nameOf .element id = .ok name

theorem Member.IsCalled.calls {tree : FileTree} {roots : List Path} {limits : Limits}
    {permissive : Bool} {set : SchemaSet} {member : Member} {isAttribute : Bool} {name : String}
    (h : member.IsCalled set isAttribute name)
    (hload : SchemaSet.load tree roots limits permissive = .ok set) : set.Calls name := by
  unfold IsCalled at h
  split at h
  · exact SchemaSet.calls_of_nameOf hload h.2
  · exact SchemaSet.calls_of_nameOf hload h.2

namespace Field

variable {set : SchemaSet} {options : Options} {package : String}

theorem tag_of_memberField {member : Member} {field : Field}
    (h : memberField set options set.answers package member = .ok field) :
    ∃ name isAttribute optional, member.IsCalled set isAttribute name ∧
      field.tag = tagText name isAttribute optional := by
  unfold Member.IsCalled
  cases hsource : member.source with
  | declaredAttribute id =>
      simp only [memberField, hsource, attributeField, given_eq, bind_eq_ok_iff] at h
      obtain ⟨written, _, target, htarget, type, _, h⟩ := h
      split at h
      case isTrue => cases h
      case isFalse =>
          simp only [bind_eq_ok_iff] at h
          obtain ⟨value, _, heq⟩ := h
          cases heq
          exact ⟨target.name, true, _, ⟨rfl, bind_eq_ok_iff.mpr ⟨target, htarget, rfl⟩⟩, rfl⟩
  | declaredElement id context =>
      simp only [memberField, hsource, elementField, given_eq, bind_eq_ok_iff] at h
      obtain ⟨written, _, target, htarget, type, _, value, _, heq⟩ := h
      cases heq
      exact ⟨target.name, false, _, ⟨rfl, bind_eq_ok_iff.mpr ⟨target, htarget, rfl⟩⟩, rfl⟩

end Field

namespace Works

variable {set : SchemaSet} {options : Options} {package : String}

theorem exists_member_of_fieldsOf {answers : Answers (Except Error)} {members : List Member}
    {fields : List Field} (h : fieldsOf set options answers package members = .ok fields)
    {field : Field} (hfield : field ∈ fields) :
    ∃ member ∈ members, Field.memberField set options answers package member = .ok field := by
  induction members generalizing fields with
  | nil =>
      cases h
      cases hfield
  | cons member rest ih =>
      simp only [fieldsOf, bind_eq_ok_iff] at h
      obtain ⟨first, hfirst, others, hothers, heq⟩ := h
      cases heq
      rcases List.mem_cons.mp hfield with rfl | hmem
      · exact ⟨member, List.mem_cons_self, hfirst⟩
      · obtain ⟨found, hfound, hmade⟩ := ih hothers hmem
        exact ⟨found, List.mem_cons_of_mem _ hfound, hmade⟩

theorem fields_of_structFile {id : TypeId} {type : TypeDef} {file : StructFile}
    {referenced : List TypeId}
    (h : structFile set options set.answers id type = .ok (file, referenced)) :
    ∃ content, set.answers.content id = .ok content ∧ ∀ field ∈ file.fields,
      (∃ text, content.text = some text ∧ field = .ofText text) ∨
        ∃ member ∈ content.members,
          Field.memberField set options set.answers (type.package options) member = .ok field := by
  simp only [structFile, bind_eq_ok_iff] at h
  obtain ⟨content, hcontent, base, _, members, hmembers, heq⟩ := h
  cases heq
  refine ⟨content, hcontent, ?_⟩
  intro field hfield
  rcases List.mem_append.mp hfield with htext | hmember
  · obtain ⟨text, hmem, rfl⟩ := List.mem_map.mp htext
    exact .inl ⟨text, Option.mem_toList.mp hmem, rfl⟩
  · exact .inr (exists_member_of_fieldsOf hmembers hmember)

end Works

namespace Generation

open Emission

/-- After a run that succeeds, each tag in each file is that of the text, and reads as no name and
a flag, or reads as the name of a declaration and its flags, but only if that name, which some
document gives to an element, has no character that means something in a tag. -/
theorem tags_read_iff {σ : Type} {tree : FileTree} {options : Options} {sink : Sink σ}
    {before after : σ} {report : Report} (h : run tree options sink before = .ok report after) :
    ∃ set deliveries, load tree options = .ok set ∧
      report.structs = deliveries.map Delivery.entry ∧
      sink.deliver deliveries before = .ok () after ∧
      ∀ delivery ∈ deliveries, ∃ content, set.answers.content delivery.id = .ok content ∧
        ∀ field ∈ delivery.file.fields,
          (∃ start, start ++ Go.tagLiteral field.tag ∈ delivery.file.lines) ∧
          ((∃ text, content.text = some text ∧ field = .ofText text ∧
              Go.ReadsTag (Go.tagLiteral field.tag) ["", "chardata"]) ∨
            ∃ member ∈ content.members, ∃ name isAttribute optional,
              member.IsCalled set isAttribute name ∧ set.Calls name ∧
                field.tag = Field.tagText name isAttribute optional ∧
                (Go.ReadsTag (Go.tagLiteral field.tag) (name :: Field.flags isAttribute optional) ↔
                  Go.IsPlain name)) := by
  obtain ⟨set, emission, hload, hroots, hreport, hafter⟩ := run_eq_ok_iff.mp h
  obtain ⟨deliveries, hran⟩ := ran_emitSeeds (Memo.settled_empty set) hroots
  have hgiven := hload
  simp only [load, bind_eq_ok_iff] at hgiven
  obtain ⟨_, _, roots, _, hset⟩ := hgiven
  refine ⟨set, deliveries, hload, hreport ▸ hran.delivered.structs, hafter ▸ hran.delivered.sink,
    ?_⟩
  intro delivery hdelivery
  obtain ⟨type, _, _, hfile⟩ := hran.delivered.fits delivery hdelivery
  obtain ⟨content, hcontent, hfields⟩ := Works.fields_of_structFile hfile
  refine ⟨content, hcontent, ?_⟩
  intro field hfield
  refine ⟨StructFile.exists_line hfield, ?_⟩
  rcases hfields field hfield with ⟨text, htext, rfl⟩ | ⟨member, hmember, hmade⟩
  · exact .inl ⟨text, htext, rfl, Field.readsTag_ofText text⟩
  · obtain ⟨name, isAttribute, optional, hcalled, htag⟩ := Field.tag_of_memberField hmade
    refine .inr ⟨member, hmember, name, isAttribute, optional, hcalled, hcalled.calls hset, htag,
      ?_⟩
    rw [htag]
    exact Field.readsTag_tagText_iff name isAttribute optional

end Generation

/-! An order whose one attribute has a back quote in its name. -/

namespace Quoting

open Emission

def text : String :=
  "<xs:schema xmlns:xs=\"http://www.w3.org/2001/XMLSchema\"><xs:complexType name=\"Order\">" ++
    "<xs:attribute name=\"id`\" type=\"xs:string\"/></xs:complexType></xs:schema>"

def tree : FileTree :=
  ⟨[(⟨.above 0, ["a.xsd"]⟩, .file (.text text))]⟩

def options : Options := { roots := [⟨"a.xsd"⟩], recursive := true, limits := .strict }

def field : Field where
  name := "Id"
  type := .builtin "string"
  tag := "id`,attr,omitempty"
  documentation := []
  referenced := none

def file : StructFile where
  package := "schema"
  imports := []
  name := "Order"
  documentation := []
  base := none
  fields := [field]

def made : Sink.GeneratedFile := ⟨"schema", "order.go", file.text⟩

def loaded : Except Error Loading :=
  Loading.supply ⟨{}, []⟩ options.limits options.permissive ⟨.file ⟨"a.xsd"⟩, none⟩ (.ok text)

def hands (set : SchemaSet) : Bool :=
  match set.typeDef ⟨0⟩ with
  | .ok type =>
      match Works.writeStruct set options Sink.listing ⟨0⟩ type { sink := [] } with
      | .ok referenced works => decide (referenced = [] ∧ works.sink = [made])
      | .error _ _ => false
  | .error _ => false

theorem exists_loaded : ∃ next, loaded = .ok next ∧ next.pending = [] ∧
    seeds next.set options = [.type ⟨0⟩] ∧ hands next.set = true ∧
    next.set.nameOf .attribute ⟨0⟩ = .ok "id`" := by
  exact exists_ok_of_map (by decide +kernel)

theorem exists_run : ∃ set report, Generation.load tree options = .ok set ∧
    set.nameOf .attribute ⟨0⟩ = .ok "id`" ∧
    Generation.run tree options Sink.listing [] = .ok report [made] := by
  obtain ⟨next, hloaded, hpending, hseeds, hhands, hname⟩ := exists_loaded
  have hload : Generation.load tree options = .ok next.set :=
    Generation.load_single (by decide +kernel) rfl rfl hloaded hpending
  unfold hands at hhands
  split at hhands
  case h_2 => cases hhands
  case h_1 type htype =>
      split at hhands
      case h_2 => cases hhands
      case h_1 referenced works hwrite =>
          obtain ⟨rfl, hmade⟩ := of_decide_eq_true hhands
          refine ⟨next.set, ⟨works.structs, next.set.size⟩, hload, hname, ?_⟩
          rw [← hmade]
          exact Generation.run_of_type hload hseeds htype hwrite

/-- The literal ends within the name. -/
theorem not_rawString (content : List Char) :
    ¬ Go.RawString (Go.tagLiteral field.tag).toList content := by
  rintro ⟨inner, heq, hquote, _⟩
  rw [Go.toList_tagLiteral] at heq
  obtain rfl := List.append_cancel_right (List.tail_eq_of_cons_eq heq)
  exact hquote (by decide)

end Quoting

/-- A run writes a tag that is no literal, since the name of the attribute ends it. -/
theorem Generation.tag_ended_by_name :
    ∃ set report, Quoting.options.validate = .ok () ∧
      load Quoting.tree Quoting.options = .ok set ∧ set.nameOf .attribute ⟨0⟩ = .ok "id`" ∧
      run Quoting.tree Quoting.options Sink.listing [] =
        .ok report [⟨"schema", "order.go", Quoting.file.text⟩] ∧
      Quoting.field ∈ Quoting.file.fields ∧
      Quoting.field.tag = Field.tagText "id`" true true ∧
      ¬ ∃ parts, Go.ReadsTag (Go.tagLiteral Quoting.field.tag) parts := by
  obtain ⟨set, report, hload, hname, hrun⟩ := Quoting.exists_run
  refine ⟨set, report, by decide +kernel, hload, hname, hrun, List.mem_singleton_self _, by decide,
    ?_⟩
  rintro ⟨parts, content, _, hraw, _⟩
  exact Quoting.not_rawString content hraw

theorem Generation.tags_read_iff_quoting :
    ∃ report, run Quoting.tree Quoting.options Sink.listing [] = .ok report [Quoting.made] ∧
      ∃ set deliveries, load Quoting.tree Quoting.options = .ok set ∧
        report.structs = deliveries.map Delivery.entry ∧
        Sink.listing.deliver deliveries [] = .ok () [Quoting.made] ∧
        ∀ delivery ∈ deliveries, ∃ content, set.answers.content delivery.id = .ok content ∧
          ∀ field ∈ delivery.file.fields,
            (∃ start, start ++ Go.tagLiteral field.tag ∈ delivery.file.lines) ∧
            ((∃ text, content.text = some text ∧ field = .ofText text ∧
                Go.ReadsTag (Go.tagLiteral field.tag) ["", "chardata"]) ∨
              ∃ member ∈ content.members, ∃ name isAttribute optional,
                member.IsCalled set isAttribute name ∧ set.Calls name ∧
                  field.tag = Field.tagText name isAttribute optional ∧
                  (Go.ReadsTag (Go.tagLiteral field.tag)
                      (name :: Field.flags isAttribute optional) ↔ Go.IsPlain name)) := by
  obtain ⟨set, report, _, _, hrun⟩ := Quoting.exists_run
  exact ⟨report, hrun, tags_read_iff hrun⟩

end SchemaBinding
