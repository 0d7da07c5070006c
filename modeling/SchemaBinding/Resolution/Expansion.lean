import SchemaBinding.Name.Identifier
import SchemaBinding.Resolution.Memo

namespace SchemaBinding

namespace ParticleContext

def within (context : ParticleContext) (type : ModelType) (occurs : Occurs) :
    ParticleContext where
  repeated := context.repeated || occurs.isRepeated
  optional := context.optional || occurs.isEmptiable || type == .choice

def merge (context outer : ParticleContext) : ParticleContext where
  repeated := context.repeated || outer.repeated
  optional := context.optional || outer.optional

end ParticleContext

def Member.within (outer : ParticleContext) (member : Member) : Member :=
  match member.source with
  | .declaredElement id context =>
      { member with source := .declaredElement id (context.merge outer) }
  | .declaredAttribute _ => member

namespace SchemaSet

def attributeGroupDef (set : SchemaSet) (id : AttributeGroupId) :
    Except Error AttributeGroupDef :=
  match set.model.attributeGroup? id with
  | some group => .ok group
  | none => .error (.absent .attributeGroup id.index)

def groupDef (set : SchemaSet) (id : GroupId) : Except Error GroupDef :=
  match set.model.group? id with
  | some group => .ok group
  | none => .error (.absent .group id.index)

end SchemaSet

namespace Rules

variable (set : SchemaSet) {m : Type → Type} [Monad m] [MonadExceptOf Error m]

def attributesAt (attributes : AttributeGroupId → m (List AttributeId)) :
    AttributeItem → m (List AttributeId)
  | .attribute id => return [id]
  | .group use => do
      let id ← given (set.resolve .attributeGroup use.name use.span)
      attributes id

def expandItems (attributes : AttributeGroupId → m (List AttributeId)) :
    List AttributeItem → m (List AttributeId)
  | [] => return []
  | item :: rest => do
      let first ← attributesAt set attributes item
      let others ← expandItems attributes rest
      return first ++ others

def attributes (attributes : AttributeGroupId → m (List AttributeId))
    (id : AttributeGroupId) : m (List AttributeId) := do
  let group ← given (set.attributeGroupDef id)
  expandItems set attributes group.attributes

mutual

def expandWith (name : ElementId → m String) (members : GroupId → m (List Member))
    (context : ParticleContext) : Particle → m (List Member)
  | .element id => do
      return [⟨Identifier.exported (← name id), .declaredElement id context⟩]
  | .model type occurs particles =>
      expandAllWith name members (context.within type occurs) particles
  | .group use occurs => do
      let id ← given (set.resolve .group use.name use.span)
      let found ← members id
      return found.map (Member.within (context.within .sequence occurs))

def expandAllWith (name : ElementId → m String) (members : GroupId → m (List Member))
    (context : ParticleContext) : List Particle → m (List Member)
  | [] => return []
  | particle :: rest => do
      let first ← expandWith name members context particle
      let others ← expandAllWith name members context rest
      return first ++ others

end

def members (name : ElementId → m String) (members : GroupId → m (List Member))
    (id : GroupId) : m (List Member) := do
  let group ← given (set.groupDef id)
  match group.particle with
  | none => return []
  | some particle => expandWith set name members {} particle

end Rules

namespace Resolving

variable (set : SchemaSet)

def elementName (id : ElementId) : Resolving String := do
  return (← elementTarget set id).name

def expandAttributeGroup (id : AttributeGroupId) : Resolving (List AttributeId) :=
  settle set .attributeGroups .attributeGroups (Rules.attributes set) id

def expandGroup (id : GroupId) : Resolving (List Member) :=
  settle set .groups .groups (Rules.members set (elementName set)) id

end Resolving

end SchemaBinding
