import SchemaBinding.Emission.Walk
import SchemaBinding.Proofs.Component.Mention
import SchemaBinding.Proofs.Resolution.PairedRules

namespace SchemaBinding

variable {pairing : Pairing} {first second : SchemaSet}

namespace TypeDef.Matches

variable {type other : TypeDef} (h : type.Matches pairing other)

include h

theorem structName_eq : type.structName = other.structName := by
  rw [structName, structName, h.name, h.owner]

theorem package_eq (options : Options) : type.package options = other.package options := by
  rw [package, package, h.space]

theorem structKey_eq (options : Options) : type.structKey options = other.structKey options := by
  rw [structKey, structKey, h.package_eq options, h.structName_eq]

theorem goType_eq (options : Options) (current : String) :
    type.goType options current = other.goType options current := by
  rw [goType, goType, h.package_eq options, h.structName_eq]

end TypeDef.Matches

namespace Field

structure Value.Matches (pairing : Pairing) (value other : Value) : Prop where
  type : value.type = other.type
  referenced : Option.Rel pairing.id value.referenced other.referenced
  facets : value.facets = other.facets

def unreferenced (field : Field) : Field :=
  { field with referenced := none }

def undocumented (field : Field) : Field :=
  { field with documentation := [] }

structure Matches (pairing : Pairing) (field other : Field) : Prop where
  same : field.unreferenced.undocumented = other.unreferenced.undocumented
  documentation : pairing.documented → field.documentation = other.documentation
  referenced : Option.Rel pairing.id field.referenced other.referenced

theorem Matches.type_eq {field other : Field} (h : field.Matches pairing other) :
    field.type = other.type := by
  have htype := congrArg Field.type h.same
  exact htype

theorem Matches.unreferenced_eq {field other : Field} (h : field.Matches pairing other)
    (hdocumented : pairing.documented) : field.unreferenced = other.unreferenced := by
  have hsame := h.same
  have hdocumentation := h.documentation hdocumented
  obtain ⟨name, type, isArray, isPointer, tag, documentation, referenced⟩ := field
  obtain ⟨name', type', isArray', isPointer', tag', documentation', referenced'⟩ := other
  simp only [unreferenced, undocumented, mk.injEq] at hsame hdocumentation ⊢
  simp only [hsame, hdocumentation, and_self]

theorem map_eq {α : Type} {fields others : List Field} {view : Field → α}
    (h : List.Forall₂ (Matches pairing) fields others)
    (hview : ∀ field other, Matches pairing field other → view field = view other) :
    fields.map view = others.map view := by
  rw [← List.forall₂_eq_eq_eq, List.forall₂_map_left_iff, List.forall₂_map_right_iff]
  exact h.imp hview

theorem isSome_eq {id? other? : Option TypeId} (h : Option.Rel pairing.id id? other?) :
    id?.isSome = other?.isSome := by
  cases h <;> rfl

end Field

namespace SchemaSet.Paired

variable (h : first.Paired pairing second)

include h

theorem facetsOf? {target other : TypeTarget} (htarget : target.Matches pairing other) :
    first.facetsOf? target = second.facetsOf? other := by
  cases htarget with
  | builtin type => rfl
  | complex _ => rfl
  | simple hpaired =>
      obtain ⟨type, type', htype, htype', hmatches⟩ := h.exists_type hpaired
      simp only [SchemaSet.facetsOf?, htype, htype', Option.map_some]
      have hbody := hmatches.body
      generalize type.body = body at hbody ⊢
      generalize type'.body = body' at hbody ⊢
      cases hbody with
      | complex mixed _ => rfl
      | simple hderivation => cases hderivation <;> rfl

variable (options : Options) {answers other : Answers (Except Error)}
  (hanswers : h.Serves answers other)

include hanswers

theorem valueOf (package : String) {target target' : TypeTarget}
    (htarget : target.Matches pairing target') :
    h.Parallel (Field.Value.Matches pairing) (Field.valueOf first options answers package target)
      (Field.valueOf second options other package target') := by
  have hscalar := h.scalarAt hanswers.scalar htarget
  have hfacets := h.facetsOf? htarget
  cases htarget with
  | builtin type =>
      apply Concurs.bind hscalar
      rintro scalar _ rfl
      exact .ok ⟨rfl, .none, by rw [hfacets]⟩
  | simple hpaired =>
      apply Concurs.bind hscalar
      rintro scalar _ rfl
      exact .ok ⟨rfl, .none, by rw [hfacets]⟩
  | complex hpaired =>
      simp only [Field.valueOf, given_eq]
      apply (h.typeDef hpaired).bind
      intro type type' htype
      exact .ok ⟨htype.goType_eq options package, .some hpaired, rfl⟩

theorem elementField (package : String) {a b : ElementId} (hpaired : pairing.id a b)
    (context : ParticleContext) (name : String) :
    h.Parallel (Field.Matches pairing)
      (Field.elementField first options answers package a context name)
      (Field.elementField second options other package b context name) := by
  simp only [Field.elementField, given_eq]
  apply (h.elementDecl hpaired).bind
  intro written written' hwritten
  apply (hanswers.elementTarget a b hpaired).bind
  intro target target' htarget
  apply (hanswers.elementType a b hpaired).bind
  intro type type' htype
  apply (h.valueOf options hanswers package htype).bind
  intro value value' hvalue
  rw [hwritten.occurs, htarget.name, hvalue.type, hvalue.facets,
    Field.isSome_eq hvalue.referenced]
  refine .ok ⟨rfl, fun hdocumented => ?_, hvalue.referenced⟩
  rw [hwritten.documentation hdocumented, htarget.documentation hdocumented]

omit h hanswers in
theorem complex?_rel {target target' : TypeTarget} (htarget : target.Matches pairing target') :
    Option.Rel pairing.id target.complex? target'.complex? := by
  cases htarget with
  | builtin _ => exact .none
  | simple _ => exact .none
  | complex hpaired => exact .some hpaired

theorem attributeField (package : String) {a b : AttributeId} (hpaired : pairing.id a b)
    (name : String) :
    h.Parallel (Field.Matches pairing) (Field.attributeField first options answers package a name)
      (Field.attributeField second options other package b name) := by
  simp only [Field.attributeField, given_eq]
  apply (h.attributeDecl hpaired).bind
  intro written written' hwritten
  apply (hanswers.attributeTarget a b hpaired).bind
  intro target target' htarget
  apply (hanswers.attributeType a b hpaired).bind
  intro type type' htype
  rw [Field.isSome_eq (complex?_rel htype)]
  split
  · rw [htarget.name]
    exact .error (.malformed _ hwritten.span)
  · apply (h.valueOf options hanswers package htype).bind
    intro value value' hvalue
    rw [hwritten.use, htarget.name, hvalue.type, hvalue.facets]
    refine .ok ⟨rfl, fun hdocumented => ?_, .none⟩
    rw [hwritten.documentation hdocumented, htarget.documentation hdocumented]

theorem memberField (package : String) {member member' : Member}
    (hmember : member.Matches pairing member') :
    h.Parallel (Field.Matches pairing) (Field.memberField first options answers package member)
      (Field.memberField second options other package member') := by
  obtain ⟨name, source⟩ := member
  obtain ⟨name', source'⟩ := member'
  obtain ⟨rfl, hsource⟩ := hmember
  cases hsource with
  | declaredAttribute hpaired => exact h.attributeField options hanswers package hpaired _
  | declaredElement context hpaired =>
      exact h.elementField options hanswers package hpaired context _

/-! Files. -/

theorem fieldsOf (package : String) {members members' : List Member}
    (hmembers : List.Forall₂ (Member.Matches pairing) members members') :
    h.Parallel (List.Forall₂ (Field.Matches pairing))
      (Works.fieldsOf first options answers package members)
      (Works.fieldsOf second options other package members') := by
  induction hmembers with
  | nil => exact .ok .nil
  | cons hmember _ ih =>
      apply (h.memberField options hanswers package hmember).bind
      intro field field' hfield
      exact Concurs.map ih fun _ _ => .cons hfield

omit hanswers in
theorem baseType (package : String) {base? base?' : Option TypeId}
    (hbase : Option.Rel pairing.id base? base?') :
    h.Parallel Eq (Works.baseType first options package base? : Except Error _)
      (Works.baseType second options package base?') := by
  cases hbase with
  | none => exact .ok rfl
  | some hpaired =>
      simp only [Works.baseType, given_eq]
      apply (h.typeDef hpaired).bind
      intro type type' htype
      exact .ok (congrArg some (htype.goType_eq options package))

end SchemaSet.Paired

namespace StructFile

def unreferenced (file : StructFile) : StructFile :=
  { file with fields := file.fields.map Field.unreferenced }

def undocumented (file : StructFile) : StructFile :=
  { file with documentation := [], fields := file.fields.map Field.undocumented }

theorem fieldLines_unreferenced (fields : List Field) :
    fieldLines (fields.map Field.unreferenced) = fieldLines fields := by
  simp only [fieldLines, List.map_map, List.flatMap_map]
  rfl

/-- What fields hold is not seen in a file. -/
theorem text_unreferenced (file : StructFile) : file.unreferenced.text = file.text := by
  have hbody : file.unreferenced.bodyLines = file.bodyLines := by
    simp only [bodyLines, unreferenced, fieldLines_unreferenced, List.isEmpty_map]
  rw [text, lines, hbody]
  rfl

end StructFile

/-- The same file, perhaps but for documentation, and references to paired types. -/
structure FileMatches (pairing : Pairing) (result other : StructFile × List TypeId) : Prop where
  same : result.1.unreferenced.undocumented = other.1.unreferenced.undocumented
  file : pairing.documented → result.1.unreferenced = other.1.unreferenced
  referenced : List.Forall₂ pairing.id result.2 other.2

namespace FileMatches

variable {result other : StructFile × List TypeId} (h : FileMatches pairing result other)

include h

theorem package_eq : result.1.package = other.1.package := by
  have hpackage := congrArg StructFile.package h.same
  exact hpackage

theorem name_eq : result.1.name = other.1.name := by
  have hname := congrArg StructFile.name h.same
  exact hname

theorem text_eq (hdocumented : pairing.documented) : result.1.text = other.1.text := by
  rw [← StructFile.text_unreferenced, h.file hdocumented, StructFile.text_unreferenced]

end FileMatches

namespace SchemaSet.Paired

variable (h : first.Paired pairing second)

include h

theorem structFile (options : Options) {a b : TypeId} (hpaired : pairing.id a b)
    {type type' : TypeDef} (htype : type.Matches pairing type') :
    h.Parallel (FileMatches pairing) (Works.structFile first options first.answers a type)
      (Works.structFile second options second.answers b type') := by
  simp only [Works.structFile]
  apply (h.answers.content a b hpaired).bind
  intro content content' hcontent
  rw [htype.package_eq options]
  apply (h.baseType options (type'.package options) hcontent.base).bind
  rintro base _ rfl
  apply (h.fieldsOf options h.answers (type'.package options) hcontent.members).bind
  intro fields fields' hfields
  have hall : List.Forall₂ (Field.Matches pairing) (content.text.toList.map Field.ofText ++ fields)
      (content'.text.toList.map Field.ofText ++ fields') := by
    rw [hcontent.text]
    apply List.rel_append _ hfields
    apply List.forall₂_same.mpr
    intro field hfield
    obtain ⟨text, _, rfl⟩ := List.mem_map.mp hfield
    exact ⟨rfl, fun _ => rfl, .none⟩
  have htypes := Field.map_eq hall fun _ _ hfield => hfield.type_eq
  refine .ok ⟨?_, fun hdocumented => ?_, ?_⟩
  · have hsame := Field.map_eq hall fun _ _ hfield => hfield.same
    simp only [StructFile.unreferenced, StructFile.undocumented, List.map_map, Function.comp_def,
      htypes, htype.structName_eq, hsame]
  · have hfile := Field.map_eq hall fun _ _ hfield => hfield.unreferenced_eq hdocumented
    simp only [StructFile.unreferenced, hfile, htypes, htype.structName_eq,
      htype.documentation hdocumented]
  · exact List.rel_append (toList_rel hcontent.base)
      (List.rel_filterMap (fun _ _ hfield => hfield.referenced) hall)

end SchemaSet.Paired

end SchemaBinding
