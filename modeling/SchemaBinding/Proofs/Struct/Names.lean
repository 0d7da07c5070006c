import SchemaBinding.Proofs.Component.Mention
import SchemaBinding.Proofs.Content.Effective
import SchemaBinding.Proofs.Name.Legal

namespace SchemaBinding

open Identifier (IsExported)

namespace SchemaSet

variable {set : SchemaSet} {member : Member}

theorem exported_of_declares {container : Container} {own : List Member}
    (h : set.Declares container own) (hmember : member ∈ own) : IsExported member.name := by
  obtain ⟨ids, attributes, trees, elements, _, hattributes, _, helements, rfl⟩ := h
  rcases List.mem_append.mp hmember with hmem | hmem
  · obtain ⟨id, _, name, _, rfl⟩ := exists_rel_of_mem hattributes.flip hmem
    exact Identifier.isExported_exported name
  · obtain ⟨leaf, _, name, _, rfl⟩ := exists_rel_of_mem helements.flip hmem
    exact Identifier.isExported_exported name

theorem exported_of_content {id : TypeId} {content : Content}
    (h : set.answers.content id = .ok content) (hmember : member ∈ content.members) :
    IsExported member.name := by
  have hcontent : set.HasContent id content := Query.gives_iff.mpr h
  exact hcontent.forall_members (fun _ _ hown _ => exported_of_declares hown) member hmember

end SchemaSet

namespace Field

variable {set : SchemaSet} {options : Options} {answers : Answers (Except Error)}
  {package : String}

theorem name_of_memberField {member : Member} {field : Field}
    (h : memberField set options answers package member = .ok field) :
    field.name = member.name := by
  unfold memberField at h
  split at h
  case h_1 =>
      simp only [attributeField, bind_eq_ok_iff] at h
      obtain ⟨_, _, _, _, type, _, h⟩ := h
      split at h
      case isTrue => cases h
      case isFalse =>
          simp only [bind_eq_ok_iff] at h
          obtain ⟨_, _, heq⟩ := h
          cases heq
          rfl
  case h_2 =>
      simp only [elementField, bind_eq_ok_iff] at h
      obtain ⟨_, _, _, _, _, _, _, _, heq⟩ := h
      cases heq
      rfl

end Field

namespace Works

variable {set : SchemaSet} {options : Options}

theorem names_of_fieldsOf {answers : Answers (Except Error)} {package : String}
    {members : List Member} {fields : List Field}
    (h : fieldsOf set options answers package members = .ok fields) :
    fields.map Field.name = members.map Member.name := by
  induction members generalizing fields with
  | nil =>
      cases h
      rfl
  | cons member rest ih =>
      simp only [fieldsOf, bind_eq_ok_iff] at h
      obtain ⟨field, hfield, others, hothers, heq⟩ := h
      cases heq
      rw [List.map_cons, List.map_cons, Field.name_of_memberField hfield, ih hothers]

theorem exported_of_structFile {id : TypeId} {type : TypeDef} {file : StructFile}
    {referenced : List TypeId}
    (h : structFile set options set.answers id type = .ok (file, referenced)) :
    ∀ field ∈ file.fields, IsExported field.name := by
  simp only [structFile, bind_eq_ok_iff] at h
  obtain ⟨content, hcontent, base, _, members, hmembers, heq⟩ := h
  cases heq
  intro field hfield
  rcases List.mem_append.mp hfield with htext | hmember
  · obtain ⟨text, _, rfl⟩ := List.mem_map.mp htext
    simp [Field.ofText, Content.textFieldName, IsExported]
  · have hname := List.mem_map_of_mem (f := Field.name) hmember
    rw [names_of_fieldsOf hmembers] at hname
    obtain ⟨member, hmem, heq⟩ := List.mem_map.mp hname
    rw [← heq]
    exact SchemaSet.exported_of_content hcontent hmem

end Works

end SchemaBinding
